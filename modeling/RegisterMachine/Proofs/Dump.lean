import RegisterMachine.Value.Json
import RegisterMachine.Proofs.Program.RoundTrip

/-!
# Dumped registers come back

The dump of a list of values spells these values, whatever they are: the tag tells the
three kinds with an integer apart, and a text is written as a text, whatever it looks like.
Hence two lists with the same dump are the same.
-/

namespace RegisterMachine

open Json (Fits tokens)

/-- Reading the text of a value that fits gives the value back. -/
theorem Json.ofText_toPrettyText {v : Json} (h : Fits depth v) : ofText v.toPrettyText = .ok v := by
  have hread : read (tokens v).length depth (tokens v ++ []) = .ok (v, []) :=
    read_tokens h (Nat.le_refl _) []
  rw [List.append_nil] at hread
  simp only [ofText, Token.scan_toPrettyText h, hread, finish, bind, Except.bind]

namespace Value

/-- A value has one field, with a payload of one token. -/
theorem fits_toJson (room : Nat) (v : Value) : Fits (room + 1) v.toJson := by
  have hfield : ∀ {k : String} {payload : Json}, Fits room payload →
      Fits (room + 1) (.record [(k, payload)]) := by
    intro k payload h
    refine .record ?_
    simpa using h
  cases v with
  | number n =>
      refine hfield (.int (Text.minInt64_le n) ?_)
      exact Int.le_trans (Text.le_maxInt64 n) (by decide)
  | boolean b => exact hfield (.bool b)
  | text s => exact hfield (.text s)
  | host index => exact hfield (Json.fits_word room index)
  | address target => exact hfield (Json.fits_word room target)

theorem toWord_word (w : UInt64) (expected : Json.Expected) :
    (Json.word w).shape.toWord expected = .ok w := by
  simp only [Json.word, Json.int, Json.shape, Json.Shape.toWord, Text.toWord?_toNat]

/-- The tag of a written value leads to the reader of its payload. -/
theorem ofJson_toJson (v : Value) : ofJson v.toJson = .ok v := by
  cases v with
  | number n =>
      have hn : (Json.int n.toInt).shape.toInt64 = .ok n := by
        simp only [Json.int, Json.shape, Json.Shape.toInt64, Text.toInt64?_toInt]
      rw [toJson, ofJson, ofTag, if_pos rfl, hn]
      rfl
  | boolean b => rfl
  | text s => rfl
  | host index =>
      show ((_ : Except Json.Mismatch UInt64).map Value.host).mapError _ = _
      rw [toWord_word]
      rfl
  | address target =>
      show ((_ : Except Json.Mismatch UInt64).map Value.address).mapError _ = _
      rw [toWord_word]
      rfl

theorem mapM_ofJson_toJson (vs : List Value) :
    (vs.map toJson).mapM (fun v => (ofJson v).toOption) = some vs := by
  induction vs with
  | nil => rfl
  | cons v vs ih =>
      rw [List.map_cons, List.mapM_cons, ofJson_toJson, ih]
      rfl

theorem ofText_dump (vs : List Value) : Json.ofText (dump vs) = .ok (.list (vs.map toJson)) := by
  refine Json.ofText_toPrettyText (.list ?_)
  intro v hv
  obtain ⟨w, -, rfl⟩ := List.mem_map.mp hv
  exact w.fits_toJson 125

/-- Reading the dump of a list of values gives back the list, and no other list has the same
dump: a number, a handle and an address of one payload stay apart, and so does a text from
what it looks like. -/
theorem ofDump?_dump (vs : List Value) :
    ofDump? (dump vs) = some vs ∧ ∀ ws, dump ws = dump vs → ws = vs := by
  have hread : ∀ us, ofDump? (dump us) = some us := by
    intro us
    rw [ofDump?, ofText_dump]
    exact mapM_ofJson_toJson us
  refine ⟨hread vs, ?_⟩
  intro ws hdump
  have hws := hread ws
  rw [hdump, hread vs] at hws
  exact (Option.some.inj hws).symm

end Value

end RegisterMachine
