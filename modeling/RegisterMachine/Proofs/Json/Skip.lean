import RegisterMachine.Proofs.Json.Read

/-!
# Values that are skipped

`Json.IsValue` is the grammar of values over tokens, without a bound on brackets or
numbers: a number may be beyond every double, and a string may stand for no text. A
value that nobody asked for is skipped as a whole, whatever it is (`Json.skip_value`).
-/

namespace RegisterMachine.Json

/-! ## The grammar -/

def Token.IsString : Token → Prop
  | .text _ => True
  | .looseText => True
  | _ => False

/-- The tokens of a value, as one sees them who skips it: a string need not stand for a text nor a
number denote one, and brackets nest at any depth. -/
inductive IsValue : List Token → Prop
  | null : IsValue [.null]
  | bool (b : Bool) : IsValue [.bool b]
  | number (n : Numeral) : IsValue [.number n]
  | string {t : Token} (h : t.IsString) : IsValue [t]
  | list {items : List (List Token)} (h : ∀ ts ∈ items, IsValue ts) : IsValue (listTokens items)
  | record {members : List (Token × List Token)} (hkeys : ∀ m ∈ members, m.1.IsString)
      (h : ∀ m ∈ members, IsValue m.2) : IsValue (recordTokens members)

/-! ## Skipping -/

/-- A value may be skipped at a place of a list, as it does not start with the closing bracket. -/
theorem skip_item {ts : List Token} (h : IsValue ts) (outer : List Bracket) (rest : List Token) :
    skip .item outer (ts ++ rest) = skip .value outer (ts ++ rest) := by
  cases h with
  | null | bool | number | list | record => rfl
  | @string t h =>
      cases t with
      | text | looseText => rfl
      | _ => exact h.elim

theorem skip_key {t : Token} (h : t.IsString) (outer : List Bracket) (rest : List Token) :
    skip .key outer (t :: rest) = skip .colon outer rest ∧
      skip .field outer (t :: rest) = skip .colon outer rest := by
  cases t with
  | text | looseText => exact ⟨rfl, rfl⟩
  | _ => exact h.elim

def Skips (ts : List Token) : Prop :=
  ∀ outer rest, skip .value outer (ts ++ rest) = skip .after outer rest

theorem skip_furtherItems {items : List (List Token)} (h : ∀ ts ∈ items, Skips ts)
    (outer : List Bracket) (rest : List Token) :
    skip .after (.list :: outer) (items.flatMap (.comma :: ·) ++ .listClose :: rest) =
      skip .after outer rest := by
  induction items with
  | nil => rfl
  | cons ts items ih =>
      rw [List.flatMap_cons, List.append_assoc, List.cons_append]
      show skip .value (.list :: outer) (ts ++ _) = _
      rw [h ts (by simp), ih fun us hus => h us (List.mem_cons_of_mem _ hus)]

theorem skip_furtherMembers {members : List (Token × List Token)}
    (hkeys : ∀ m ∈ members, m.1.IsString) (h : ∀ m ∈ members, Skips m.2)
    (outer : List Bracket) (rest : List Token) :
    skip .after (.record :: outer)
      ((members.map fun m => m.1 :: .colon :: m.2).flatMap (.comma :: ·) ++ .recordClose :: rest) =
      skip .after outer rest := by
  induction members with
  | nil => rfl
  | cons m members ih =>
      rw [List.map_cons, List.flatMap_cons, List.append_assoc, List.cons_append, List.cons_append,
        List.cons_append]
      show skip .key (.record :: outer) (m.1 :: .colon :: (m.2 ++ _)) = _
      rw [(skip_key (hkeys m (by simp)) _ _).1]
      show skip .value (.record :: outer) (m.2 ++ _) = _
      rw [h m (by simp), ih (fun n hn => hkeys n (List.mem_cons_of_mem _ hn))
        fun n hn => h n (List.mem_cons_of_mem _ hn)]

/-- Skipping goes through a value to what is behind it. -/
theorem skip_value {ts : List Token} (h : IsValue ts) : Skips ts := by
  induction h with
  | null | bool | number => exact fun _ _ => rfl
  | @string t h =>
      intro outer rest
      cases t with
      | text | looseText => rfl
      | _ => exact h.elim
  | @list items h ih =>
      intro outer rest
      show skip .item (.list :: outer) (separated items ++ [.listClose] ++ rest) = _
      cases items with
      | nil => rfl
      | cons ts items =>
          rw [separated, List.append_assoc, List.append_assoc, skip_item (h ts (by simp)),
            ih ts (by simp)]
          exact skip_furtherItems (fun us hus => ih us (List.mem_cons_of_mem _ hus)) outer rest
  | @record members hkeys h ih =>
      intro outer rest
      show skip .field (.record :: outer) (separated _ ++ [.recordClose] ++ rest) = _
      cases members with
      | nil => rfl
      | cons m members =>
          rw [List.map_cons, separated, List.append_assoc, List.append_assoc, List.cons_append,
            List.cons_append, (skip_key (hkeys m (by simp)) _ _).2]
          show skip .value (.record :: outer) (m.2 ++ _) = _
          rw [ih m (by simp)]
          exact skip_furtherMembers (fun n hn => hkeys n (List.mem_cons_of_mem _ hn))
            (fun n hn => ih n (List.mem_cons_of_mem _ hn)) outer rest

theorem skipValue_append {ts : List Token} (h : IsValue ts) (rest : List Token) :
    skipValue (ts ++ rest) = .ok rest := by
  rw [skipValue, skip_value h, skip]

end RegisterMachine.Json
