import RegisterMachine.Machine.Effect

/-!
# The bottom of a stack

What lies below a height of the data stack changes only if the stack is cut below
that height. Each operation of the stack comes with the condition under which it
leaves `DataStack.bottom` alone, and the call stack with the shape that its top
gives it.
-/

namespace RegisterMachine

namespace DataStack

@[simp] theorem size_rest (s : DataStack) : s.rest.size = s.size - 1 := by
  simp [rest, size]

theorem exists_top {s : DataStack} (h : 0 < s.size) : ∃ v, s.top = .ok v := by
  unfold size at h
  have hlast : s.values.size - 1 < s.values.size := by omega
  refine ⟨s.values[s.values.size - 1], ?_⟩
  simp [top, Array.back?_eq_getElem?, hlast]

theorem toList_bottom (s : DataStack) (n : Nat) :
    (s.bottom n).values.toList = s.values.toList.take n := by
  simp [bottom]

theorem eq_of_toList_eq {s t : DataStack} (h : s.values.toList = t.values.toList) : s = t := by
  obtain ⟨xs⟩ := s
  obtain ⟨ys⟩ := t
  rw [mk.injEq]
  exact Array.toList_inj.mp h

theorem bottom_push {s : DataStack} {n : Nat} (h : n ≤ s.size) (v : Value) :
    (s.push v).bottom n = s.bottom n := by
  apply eq_of_toList_eq
  have hlength : n ≤ s.values.toList.length := by simpa [size] using h
  rw [toList_bottom, toList_bottom, push, Array.toList_push,
    List.take_append_of_le_length hlength]

theorem bottom_rest {s : DataStack} {n : Nat} (h : n < s.size) :
    s.rest.bottom n = s.bottom n := by
  apply eq_of_toList_eq
  have hlength : n ≤ s.values.toList.length - 1 := by
    have hlt : n < s.values.toList.length := by simpa [size] using h
    omega
  rw [toList_bottom, toList_bottom, rest, Array.toList_pop, List.dropLast_eq_take,
    List.take_take, Nat.min_eq_left hlength]

theorem bottom_bottom {s : DataStack} {n k : Nat} (h : n ≤ k) :
    (s.bottom k).bottom n = s.bottom n := by
  apply eq_of_toList_eq
  rw [toList_bottom, toList_bottom, toList_bottom, List.take_take, Nat.min_eq_left h]

theorem bottom_succ {s : DataStack} {n : Nat} {v : Value} (h : s.values[n]? = some v) :
    s.bottom (n + 1) = (s.bottom n).push v := by
  apply eq_of_toList_eq
  have hget : s.values.toList[n]? = some v := by simpa using h
  rw [push, Array.toList_push, toList_bottom, toList_bottom, List.take_add_one, hget]
  rfl

theorem bottom_of_size_le {s : DataStack} {n : Nat} (h : s.size ≤ n) : s.bottom n = s := by
  apply eq_of_toList_eq
  rw [toList_bottom]
  exact List.take_of_length_le (by simpa [size] using h)

theorem getElem?_of_bottom_eq_push {s t : DataStack} {n : Nat} {v : Value}
    (h : s.bottom (n + 1) = t.push v) (hsize : t.size = n) : s.values[n]? = some v := by
  have hbottom : (s.bottom (n + 1)).values[n]? = s.values[n]? := by
    rw [← Array.getElem?_toList, toList_bottom, List.getElem?_take_of_lt (Nat.lt_succ_self n),
      Array.getElem?_toList]
  rw [← hbottom, h, push, ← hsize]
  exact Array.getElem?_push_size

/-- The values below the top, and the top, are all the values. -/
theorem eq_push_of_top {s : DataStack} {v : Value} (h : s.top = .ok v) :
    s = s.rest.push v := by
  unfold top at h
  split at h
  · next w hw =>
      cases h
      obtain ⟨values, hvalues⟩ := Array.back?_eq_some_iff.mp hw
      obtain ⟨all⟩ := s
      have hall : all = values.push v := hvalues
      rw [hall, rest, push]
      simp
  · cases h

end DataStack

namespace CallStack

/-- The frames below the top, and the top, are all the frames. -/
theorem eq_push_of_top {c : CallStack} {f : Frame} (h : c.top = .ok f) : c = c.rest.push f := by
  unfold top at h
  split at h
  · next g hg =>
      cases h
      obtain ⟨frames, hframes⟩ := Array.back?_eq_some_iff.mp hg
      obtain ⟨all⟩ := c
      have hall : all = frames.push f := hframes
      rw [hall, rest, push]
      simp
  · cases h

theorem top_of_depth_eq_zero {c : CallStack} (h : c.depth = 0) :
    c.top = .error .callStackUnderflow := by
  have hframes : c.frames = #[] := Array.eq_empty_of_size_eq_zero h
  rw [top, hframes]
  rfl

/-- There is a frame on top exactly if there is one at all. -/
theorem exists_top_iff (c : CallStack) : (∃ f, c.top = .ok f) ↔ 0 < c.depth := by
  constructor
  · intro h
    obtain ⟨f, hf⟩ := h
    rw [eq_push_of_top hf, depth_push]
    exact Nat.succ_pos _
  · intro h
    unfold depth at h
    have hlast : c.frames.size - 1 < c.frames.size := by omega
    refine ⟨c.frames[c.frames.size - 1], ?_⟩
    simp [top, Array.back?_eq_getElem?, hlast]

end CallStack

end RegisterMachine
