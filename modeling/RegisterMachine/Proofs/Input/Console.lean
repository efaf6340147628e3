import RegisterMachine.Host.InputOutput

/-!
# A console is read line by line

`Input.Lines` cuts a stream of bytes into its lines, and `Input.Answers` says what the call
that finds a line replies. A call uses up the first of the lines that are left, whatever is
in it, so that the calls of a sequence get the lines in their order, none is lost and none is
read twice. The questions go to the console's own stream, those of failing calls as well.

The step is `Input.Lines.answer`, and the run follows by induction on the calls, with the
lines that are left as the invariant.
-/

namespace RegisterMachine

namespace Input

/-! ## Bytes and texts -/

def encode (s : String) : List UInt8 := s.toUTF8.data.toList

theorem decode?_eq_some_iff {bytes : List UInt8} {s : String} :
    decode? bytes = some s ↔ encode s = bytes := by
  rw [decode?, String.fromUTF8?]
  split
  · next hvalid =>
      rw [Option.some_inj]
      constructor
      · rintro rfl
        rfl
      · rintro rfl
        rfl
  · next hvalid =>
      refine ⟨nofun, ?_⟩
      rintro rfl
      exact absurd s.isValidUTF8 hvalid

theorem decode?_eq_none_iff {bytes : List UInt8} :
    decode? bytes = none ↔ ∀ s, encode s ≠ bytes := by
  simp only [Option.eq_none_iff_forall_ne_some, ne_eq, decode?_eq_some_iff]

/-! ## Lines -/

/-- The lines of a stream. Each ends with the byte that ends a line and has no other such byte;
only the last may have none. -/
inductive Lines : List UInt8 → List (List UInt8) → Prop
  | nil : Lines [] []
  | last {bytes : List UInt8} (hne : bytes ≠ []) (h : newline ∉ bytes) : Lines bytes [bytes]
  | cons {bytes rest : List UInt8} {ls : List (List UInt8)} (h : newline ∉ bytes)
      (hrest : Lines rest ls) : Lines (bytes ++ newline :: rest) ((bytes ++ [newline]) :: ls)

/-- Every stream has lines. -/
theorem exists_lines (bytes : List UInt8) : ∃ ls, Lines bytes ls := by
  induction bytes with
  | nil => exact ⟨[], .nil⟩
  | cons b bytes ih =>
      obtain ⟨ls, hls⟩ := ih
      by_cases hb : b = newline
      · subst hb
        exact ⟨_, @Lines.cons [] bytes ls List.not_mem_nil hls⟩
      · -- The byte goes to the front of the first line, if there is one.
        have hnot : ∀ {l}, newline ∉ l → newline ∉ b :: l := by
          intro l hl hmem
          rcases List.mem_cons.mp hmem with heq | hmem
          · exact hb heq.symm
          · exact hl hmem
        cases hls with
        | nil => exact ⟨_, .last (by simp) (hnot List.not_mem_nil)⟩
        | last _ h => exact ⟨_, .last (by simp) (hnot h)⟩
        | cons h hrest => exact ⟨_, .cons (hnot h) hrest⟩

theorem Lines.ne_nil {bytes : List UInt8} {ls : List (List UInt8)} (h : Lines bytes ls) :
    ∀ l ∈ ls, l ≠ [] := by
  induction h with
  | nil => simp
  | last hne _ => simpa using hne
  | cons _ _ ih => simpa using ih

/-- No byte is lost. -/
theorem Lines.flatten {bytes : List UInt8} {ls : List (List UInt8)} (h : Lines bytes ls) :
    ls.flatten = bytes := by
  induction h with
  | nil => rfl
  | last _ _ => simp
  | cons _ _ ih => simp [ih]

theorem line_of_not_mem {bytes : List UInt8} (h : newline ∉ bytes) (rest : List UInt8) :
    line ⟨bytes ++ rest⟩ = bytes ++ line ⟨rest⟩ ∧
      Input.rest ⟨bytes ++ rest⟩ = Input.rest ⟨rest⟩ := by
  have hne : ∀ b ∈ bytes, decide (b ≠ newline) = true := by
    intro b hb
    rw [decide_eq_true_iff]
    rintro rfl
    exact h hb
  simp only [line, Input.rest, List.takeWhile_append_of_pos hne, List.dropWhile_append_of_pos hne,
    List.append_assoc, and_self]

theorem line_newline (rest : List UInt8) :
    line ⟨newline :: rest⟩ = [newline] ∧ Input.rest ⟨newline :: rest⟩ = ⟨rest⟩ := by
  simp [line, Input.rest]

/-- As long as there is input, the next line is the first of those that are left. -/
theorem Lines.line {bytes : List UInt8} {ls : List (List UInt8)} (h : Lines bytes ls)
    (hne : bytes ≠ []) :
    ls.head? = some (Input.line ⟨bytes⟩) ∧ Lines (Input.rest ⟨bytes⟩).unread ls.tail := by
  cases h with
  | nil => contradiction
  | last _ h =>
      obtain ⟨hline, hrest⟩ := line_of_not_mem h []
      rw [List.append_nil] at hline hrest
      rw [hline, hrest]
      exact ⟨congrArg some (List.append_nil _).symm, .nil⟩
  | @cons bytes rest ls h hrest =>
      obtain ⟨hline, hleft⟩ := line_of_not_mem h (newline :: rest)
      obtain ⟨hnewline, hbehind⟩ := line_newline rest
      rw [hline, hleft, hnewline, hbehind]
      exact ⟨rfl, hrest⟩

/-! ## Answers -/

/-- What a call replies, given the line that it finds, if there is one. -/
inductive Answers : Option (List UInt8) → Reply → Prop
  | ended : Answers none (.error (.host "prompt" "end of input"))
  | text (s : String) : Answers (some (encode s)) (.ok (some (parseInput s)))
  | noText {l : List UInt8} (h : ∀ s, encode s ≠ l) :
      Answers (some l) (.error (.io "stream did not contain valid UTF-8"))

/-- One call uses up one line, whatever is in it. -/
theorem Lines.answer {i : Input} {ls : List (List UInt8)} (h : Lines i.unread ls) :
    Answers ls.head? i.answer.1 ∧ Lines i.answer.2.unread ls.tail := by
  by_cases hempty : i.unread = []
  · have hls : ls = [] := by
      cases ls with
      | nil => rfl
      | cons l ls =>
          have hflatten := h.flatten
          rw [hempty, List.flatten_cons, List.append_eq_nil_iff] at hflatten
          exact absurd hflatten.1 (h.ne_nil l (by simp))
    rw [Input.answer, if_pos (List.isEmpty_iff.mpr hempty), hempty, hls]
    exact ⟨.ended, .nil⟩
  · obtain ⟨hline, hrest⟩ := h.line hempty
    rw [Input.answer, if_neg (mt List.isEmpty_iff.mp hempty), hline]
    split
    · next s hs =>
        rw [← decode?_eq_some_iff.mp hs]
        exact ⟨.text s, hrest⟩
    · next hnone => exact ⟨.noText (decode?_eq_none_iff.mp hnone), hrest⟩

end Input

namespace Console

/-- A console that serves calls one after the other: the replies, and what has become of it. -/
def serve : List (List Value) → Console → List Reply × Console
  | [], c => ([], c)
  | args :: calls, c =>
    let (reply, c) := c.call args
    let (replies, c) := serve calls c
    (reply :: replies, c)

/-- What calls come to on a console with the given lines left: each takes the next line, whatever it
holds, and writes its own question. -/
structure Serves (c : Console) (ls : List (List UInt8)) (calls : List (List Value))
    (r : List Reply × Console) : Prop where
  length : r.1.length = calls.length
  answers : ∀ (k : Nat) (reply : Reply), r.1[k]? = some reply → Input.Answers ls[k]? reply
  unread : Input.Lines r.2.input.unread (ls.drop calls.length)
  echo : r.2.echo = c.echo ++ String.join ((calls.filterMap List.head?).map Value.display)

/-- The question of a call goes in front of those to come. -/
theorem echo_call (args : List Value) (calls : List (List Value)) (c : Console) :
    (c.call args).2.echo ++ String.join ((calls.filterMap List.head?).map Value.display) =
      c.echo ++ String.join (((args :: calls).filterMap List.head?).map Value.display) := by
  cases args with
  | nil =>
      show c.echo ++ "" ++ _ = _
      rw [String.append_empty]
      rfl
  | cons v args =>
      show c.echo ++ v.display ++ _ = _
      rw [String.append_assoc, ← String.join_cons]
      rfl

theorem serves_serve {c : Console} {ls : List (List UInt8)} (h : Input.Lines c.input.unread ls)
    (calls : List (List Value)) : c.Serves ls calls (serve calls c) := by
  induction calls generalizing c ls with
  | nil => exact ⟨rfl, by simp [serve], h, by simp [serve]⟩
  | cons args calls ih =>
      obtain ⟨hreply, hleft⟩ := h.answer
      have hrest : (c.call args).2.Serves ls.tail calls (serve calls (c.call args).2) := ih hleft
      refine ⟨congrArg Nat.succ hrest.length, ?_, ?_, hrest.echo.trans (echo_call args calls c)⟩
      · intro k reply hk
        cases k with
        | zero =>
            cases hk
            rw [← List.head?_eq_getElem?]
            exact hreply
        | succ k =>
            have hanswers := hrest.answers k reply hk
            rwa [List.getElem?_tail] at hanswers
      · have hunread := hrest.unread
        rwa [List.drop_tail] at hunread

/-- However many calls a console serves, with whatever arguments, the `k`-th of them uses up
the `k`-th line of the input and replies to it: with what the line means, or with a failure
if it encodes no text. Once the lines are used up, every call fails at the end of the input.
What has not been read are the lines behind, and the console's own stream holds the
questions of all calls that had one, failing or not. -/
theorem calls_read_lines (bytes : List UInt8) :
    ∃ ls, Input.Lines bytes ls ∧ ∀ calls : List (List Value),
      (serve calls ⟨⟨bytes⟩, ""⟩).1.length = calls.length ∧
      (∀ (k : Nat) (reply : Reply), (serve calls ⟨⟨bytes⟩, ""⟩).1[k]? = some reply →
        Input.Answers ls[k]? reply) ∧
      (serve calls ⟨⟨bytes⟩, ""⟩).2.input.unread = (ls.drop calls.length).flatten ∧
      (serve calls ⟨⟨bytes⟩, ""⟩).2.echo =
        String.join ((calls.filterMap List.head?).map Value.display) := by
  obtain ⟨ls, hls⟩ := Input.exists_lines bytes
  refine ⟨ls, hls, ?_⟩
  intro calls
  have hserves := serves_serve (c := ⟨⟨bytes⟩, ""⟩) hls calls
  exact ⟨hserves.length, hserves.answers, hserves.unread.flatten.symm,
    hserves.echo.trans (String.empty_append)⟩

end Console

end RegisterMachine
