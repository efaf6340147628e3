import RegisterMachine.Json.Numeral

/-!
# Tokens of a JSON text

`Token.scan` cuts a text into tokens. It never fails: where the text cannot be cut any further, the
last token says why, and a reader that never gets there never hears of it. Hence the first fault in
the order of the text is the one that is reported.

There are two ways to go wrong, `Defect.endOfInput` for a text that stops too early and
`Defect.malformed` for everything else. A reader that only skips a value is more lenient: it takes a
string with a lone surrogate, and for it an unfinished number is malformed rather than cut off. A
broken token carries the verdict of both.
-/

namespace RegisterMachine.Json

/-- How a text fails to be JSON: it stops too early, or it goes wrong where it stands. That is all
that is reported of it. -/
inductive Defect
  | endOfInput
  | malformed
  deriving DecidableEq, Repr

/-- A token of a JSON text. The last four are faults: `looseText` is a closed string that names no
text, the broken ones are unfinished or misspelled, with the verdict of a reader and of one that
skips, and `junk` starts nothing. -/
inductive Token
  | listOpen
  | listClose
  | recordOpen
  | recordClose
  | comma
  | colon
  | null
  | bool (b : Bool)
  | number (n : Numeral)
  | text (s : String)
  | looseText
  | brokenText (reading skipping : Defect)
  | brokenScalar (reading skipping : Defect)
  | junk
  deriving DecidableEq, Repr

namespace Token

def isSpace (c : Char) : Bool :=
  c = ' ' || c = '\n' || c = '\t' || c = '\r'

/-! ## Strings -/

/-- What one item between the quotes stands for: a character, or a unit of sixteen bits that may be
half of one. -/
inductive Piece
  | char (c : Char)
  | unit (n : Nat)
  deriving DecidableEq, Repr

inductive Ending
  | closed (rest : List Char)
  | cut (defect : Defect)
  deriving DecidableEq, Repr

def escape? (c : Char) : Option Char :=
  if c = '"' then some '"'
  else if c = '\\' then some '\\'
  else if c = '/' then some '/'
  else if c = 'b' then some '\x08'
  else if c = 'f' then some '\x0c'
  else if c = 'n' then some '\n'
  else if c = 'r' then some '\r'
  else if c = 't' then some '\t'
  else none

def hexDigit? (c : Char) : Option Nat :=
  if '0' ≤ c ∧ c ≤ '9' then some (c.toNat - 48)
  else if 'a' ≤ c ∧ c ≤ 'f' then some (c.toNat - 87)
  else if 'A' ≤ c ∧ c ≤ 'F' then some (c.toNat - 55)
  else none

def hexUnit? (a b c d : Char) : Option Nat := do
  let a ← hexDigit? a
  let b ← hexDigit? b
  let c ← hexDigit? c
  let d ← hexDigit? d
  return ((a * 16 + b) * 16 + c) * 16 + d

/-- The verdict on an escape that lacks its four digits: four bytes are looked at, and a text with
fewer left has been cut off. -/
def hexDefect (rest : List Char) : Defect :=
  if rest.foldl (fun n c => n + c.utf8Size) 0 < 4 then .endOfInput else .malformed

def Piece.cons (p : Piece) (r : List Piece × Ending) : List Piece × Ending :=
  (p :: r.1, r.2)

/-- The items of a string up to its closing quote, or up to where it goes wrong. -/
def pieces : List Char → List Piece × Ending
  | [] => ([], .cut .endOfInput)
  | '"' :: rest => ([], .closed rest)
  | '\\' :: 'u' :: a :: b :: c :: d :: rest =>
    match hexUnit? a b c d with
    | some n => Piece.cons (.unit n) (pieces rest)
    | none => ([], .cut .malformed)
  | '\\' :: 'u' :: rest => ([], .cut (hexDefect rest))
  | '\\' :: e :: rest =>
    match escape? e with
    | some c => Piece.cons (.char c) (pieces rest)
    | none => ([], .cut .malformed)
  | ['\\'] => ([], .cut .endOfInput)
  | c :: rest =>
    if c < ' ' then ([], .cut .malformed) else Piece.cons (.char c) (pieces rest)

def isLeading (n : Nat) : Bool := 0xD800 ≤ n && n ≤ 0xDBFF

def isTrailing (n : Nat) : Bool := 0xDC00 ≤ n && n ≤ 0xDFFF

def pairChar (lead trail : Nat) : Char :=
  Char.ofNat ((lead - 0xD800) * 1024 + (trail - 0xDC00) + 0x10000)

/-- The characters that items stand for, unless half of a pair stands alone. -/
def assemble? : List Piece → Option (List Char)
  | [] => some []
  | .char c :: r => (assemble? r).map (c :: ·)
  | .unit n :: r =>
    if isLeading n then
      match r with
      | .unit m :: r => if isTrailing m then (assemble? r).map (pairChar n m :: ·) else none
      | _ => none
    else if isTrailing n then none
    else (assemble? r).map (Char.ofNat n :: ·)

/-- Whether items can still become characters when more of them follow: half of a pair may stand
at the end. -/
def canContinue : List Piece → Bool
  | [] => true
  | .char _ :: r => canContinue r
  | .unit n :: r =>
    if isLeading n then
      match r with
      | [] => true
      | .unit m :: r => isTrailing m && canContinue r
      | .char _ :: _ => false
    else !isTrailing n && canContinue r

def ofPieces (ps : List Piece) : Token :=
  match assemble? ps with
  | some cs => .text (String.ofList cs)
  | none => .looseText

def ofCut (ps : List Piece) (defect : Defect) : Token :=
  .brokenText (if canContinue ps then defect else .malformed) defect

/-! ## Literals and numbers -/

def expect : List Char → List Char → Except Defect (List Char)
  | [], rest => .ok rest
  | _ :: _, [] => .error .endOfInput
  | c :: cs, d :: rest => if c = d then expect cs rest else .error .malformed

def missingDigit : List Char → Defect × Defect
  | [] => (.endOfInput, .malformed)
  | _ :: _ => (.malformed, .malformed)

def digits (cs : List Char) : Except (Defect × Defect) (List Char × List Char) :=
  match cs.takeWhile Char.isDigit with
  | [] => .error (missingDigit cs)
  | ds => .ok (ds, cs.dropWhile Char.isDigit)

def wholePart : List Char → Except (Defect × Defect) (List Char × List Char)
  | '0' :: c :: rest =>
    if c.isDigit then .error (.malformed, .malformed) else .ok (['0'], c :: rest)
  | cs => digits cs

def fractionPart : List Char → Except (Defect × Defect) (List Char × List Char)
  | '.' :: rest => digits rest
  | cs => .ok ([], cs)

def exponentSign : List Char → Bool × List Char
  | '+' :: rest => (false, rest)
  | '-' :: rest => (true, rest)
  | cs => (false, cs)

def isExponentMark (c : Char) : Bool := c = 'e' || c = 'E'

def exponentPart : List Char →
    Except (Defect × Defect) (Option (Bool × List Char) × List Char)
  | [] => .ok (none, [])
  | c :: rest =>
    if isExponentMark c then do
      let (negative, body) := exponentSign rest
      let (ds, rest) ← digits body
      .ok (some (negative, ds), rest)
    else .ok (none, c :: rest)

def unsignedNumeral (negative : Bool) (cs : List Char) :
    Except (Defect × Defect) (Numeral × List Char) := do
  let (whole, cs) ← wholePart cs
  let (fraction, cs) ← fractionPart cs
  let (exponent, cs) ← exponentPart cs
  .ok (⟨negative, whole, fraction, exponent⟩, cs)

def numeral : List Char → Except (Defect × Defect) (Numeral × List Char)
  | '-' :: cs => unsignedNumeral true cs
  | cs => unsignedNumeral false cs

/-! ## What each part leaves

Every part leaves less text than it was given, or at least not more; scanning ends for that reason.
-/

/-- An item in front does not change how a string ends. -/
theorem Piece.cons_closed {p : Piece} {r : List Piece × Ending} {ps : List Piece}
    {rest : List Char} (h : Piece.cons p r = (ps, .closed rest)) :
    r = (r.1, .closed rest) := by
  obtain ⟨qs, ending⟩ := r
  cases h
  rfl

theorem pieces_length {cs : List Char} {ps : List Piece} {rest : List Char}
    (h : pieces cs = (ps, .closed rest)) : rest.length < cs.length := by
  fun_induction pieces cs generalizing ps with
  | case1 => cases h
  | case2 => cases h; exact Nat.lt_succ_self _
  | case3 a b c d rest' n hn ih =>
    have := ih (Piece.cons_closed h)
    simp only [List.length_cons]
    omega
  | case4 => cases h
  | case5 => cases h
  | case6 e rest' _ _ c hc ih =>
    have := ih (Piece.cons_closed h)
    simp only [List.length_cons]
    omega
  | case7 => cases h
  | case8 => cases h
  | case9 => cases h
  | case10 c rest' _ _ _ _ _ _ ih => exact Nat.lt_succ_of_lt (ih (Piece.cons_closed h))

theorem expect_length {due cs rest : List Char} (h : expect due cs = .ok rest) :
    rest.length ≤ cs.length := by
  induction due generalizing cs with
  | nil =>
    rw [expect] at h
    cases h
    exact Nat.le_refl _
  | cons d due ih =>
    cases cs with
    | nil =>
      rw [expect] at h
      cases h
    | cons c cs =>
      rw [expect] at h
      split at h
      · exact Nat.le_succ_of_le (ih h)
      · cases h

theorem dropWhile_length (p : Char → Bool) (cs : List Char) :
    (cs.dropWhile p).length ≤ cs.length :=
  (List.dropWhile_suffix p).length_le

theorem digits_length {cs ds rest : List Char} (h : digits cs = .ok (ds, rest)) :
    rest.length < cs.length := by
  unfold digits at h
  split at h
  · cases h
  · next hne =>
    cases cs with
    | nil => simp at hne
    | cons c cs =>
      by_cases hc : c.isDigit
      · simp only [List.takeWhile_cons, hc, if_true, List.dropWhile_cons] at h
        injection h with h
        injection h with _ h
        subst h
        simpa using Nat.lt_succ_of_le (dropWhile_length Char.isDigit cs)
      · simp [hc] at hne

theorem wholePart_length {cs ds rest : List Char} (h : wholePart cs = .ok (ds, rest)) :
    rest.length < cs.length := by
  unfold wholePart at h
  split at h
  · split at h
    · cases h
    · injection h with h
      injection h with _ h
      subst h
      simp
  · exact digits_length h

theorem fractionPart_length {cs ds rest : List Char} (h : fractionPart cs = .ok (ds, rest)) :
    rest.length ≤ cs.length := by
  unfold fractionPart at h
  split at h
  · have := digits_length h
    simp
    omega
  · injection h with h
    injection h with _ h
    subst h
    simp

theorem exponentSign_length (cs : List Char) : (exponentSign cs).2.length ≤ cs.length := by
  unfold exponentSign
  split <;> simp

theorem exponentPart_length {cs rest : List Char} {e : Option (Bool × List Char)}
    (h : exponentPart cs = .ok (e, rest)) : rest.length ≤ cs.length := by
  unfold exponentPart at h
  split at h
  · cases h
    simp
  · next c body =>
    split at h
    · cases hd : digits (exponentSign body).2 with
      | error d => simp [hd, bind, Except.bind] at h
      | ok p =>
        simp only [hd, bind, Except.bind, Except.ok.injEq, Prod.mk.injEq] at h
        have h1 := @digits_length (exponentSign body).2 p.1 p.2 hd
        have h2 := exponentSign_length body
        rw [← h.2]
        simp
        omega
    · cases h
      simp

theorem unsignedNumeral_length {negative : Bool} {cs rest : List Char} {n : Numeral}
    (h : unsignedNumeral negative cs = .ok (n, rest)) : rest.length < cs.length := by
  unfold unsignedNumeral at h
  cases hw : wholePart cs with
  | error d => simp [hw, bind, Except.bind] at h
  | ok w =>
    cases hf : fractionPart w.2 with
    | error d => simp [hw, hf, bind, Except.bind] at h
    | ok f =>
      cases he : exponentPart f.2 with
      | error d => simp [hw, hf, he, bind, Except.bind] at h
      | ok e =>
        simp only [hw, hf, he, bind, Except.bind, Except.ok.injEq, Prod.mk.injEq] at h
        have h1 := @wholePart_length cs w.1 w.2 hw
        have h2 := @fractionPart_length w.2 f.1 f.2 hf
        have h3 := @exponentPart_length f.2 e.2 e.1 he
        rw [← h.2]
        omega

theorem numeral_length {cs rest : List Char} {n : Numeral} (h : numeral cs = .ok (n, rest)) :
    rest.length < cs.length := by
  unfold numeral at h
  split at h
  · have := unsignedNumeral_length h
    simp
    omega
  · exact unsignedNumeral_length h

/-! ## Scanning -/

def literal? (c : Char) : Option (List Char × Token) :=
  if c = 'n' then some (['u', 'l', 'l'], .null)
  else if c = 't' then some (['r', 'u', 'e'], .bool true)
  else if c = 'f' then some (['a', 'l', 's', 'e'], .bool false)
  else none

def punctuation? (c : Char) : Option Token :=
  if c = '[' then some .listOpen
  else if c = ']' then some .listClose
  else if c = '\x7b' then some .recordOpen
  else if c = '\x7d' then some .recordClose
  else if c = ',' then some .comma
  else if c = ':' then some .colon
  else none

/-- The token at the front of a text that starts with no blank, and the text behind it; none if the
text cannot be cut further. -/
def next (c : Char) (rest : List Char) : Token × Option (List Char) :=
  match punctuation? c with
  | some token => (token, some rest)
  | none =>
    if c = '"' then
      match pieces rest with
      | (ps, .closed rest) => (ofPieces ps, some rest)
      | (ps, .cut defect) => (ofCut ps defect, none)
    else
      match literal? c with
      | some (due, token) =>
        match expect due rest with
        | .ok rest => (token, some rest)
        | .error defect => (.brokenScalar defect defect, none)
      | none =>
        if c = '-' || c.isDigit then
          match numeral (c :: rest) with
          | .ok (n, rest) => (.number n, some rest)
          | .error (reading, skipping) => (.brokenScalar reading skipping, none)
        else (.junk, none)

theorem next_length {c : Char} {cs rest : List Char} {t : Token}
    (h : next c cs = (t, some rest)) : rest.length < (c :: cs).length := by
  unfold next at h
  split at h
  · cases h
    exact Nat.lt_succ_self _
  · split at h
    · split at h
      · next hp =>
        cases h
        exact Nat.lt_succ_of_lt (pieces_length hp)
      · cases h
    · split at h
      · split at h
        · next he =>
          cases h
          exact Nat.lt_succ_of_le (expect_length he)
        · cases h
      · split at h
        · split at h
          · next hn =>
            cases h
            exact numeral_length hn
          · cases h
        · cases h

def scan : List Char → List Token
  | [] => []
  | c :: cs =>
    if isSpace c then scan cs
    else
      match _h : next c cs with
      | (token, some rest) => token :: scan rest
      | (token, none) => [token]
termination_by cs => cs.length
decreasing_by
  · simp
  · exact next_length _h

end Token

end RegisterMachine.Json
