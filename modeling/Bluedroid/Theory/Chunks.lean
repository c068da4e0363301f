import Mathlib.Data.List.Basic

/-!
# Theory.Chunks -- a list cut into pieces of a fixed size

A segmenter that sends at most `k` elements at a time, and whatever is left
when that is no more than `k`, cuts a non-empty list into pieces of exactly
`k` elements followed by one last piece of one to `k` elements.  `Chunks`
records such a cut; a segmenter is shown to make one piece by piece, taking
`k` from the front while more than `k` remain (`Chunks.take_cons`) and the
rest at the end (`Chunks.last_only`).
-/

namespace Bluedroid.Theory

set_option autoImplicit false

variable {α : Type}

/-- `data` cut into `full` pieces of exactly `k` elements and a `last` piece of
one to `k` elements. -/
structure Chunks (k : ℕ) (data : List α) (full : List (List α)) (last : List α) : Prop where
  spells : data = full.flatten ++ last
  full_length : ∀ chunk ∈ full, chunk.length = k
  last_pos : 0 < last.length
  last_le : last.length ≤ k

namespace Chunks

variable {k : ℕ} {data last : List α} {full : List (List α)}

/-- What is left once no more than `k` elements remain is the last piece. -/
theorem last_only (pos : 0 < data.length) (le : data.length ≤ k) : Chunks k data [] data :=
  ⟨by rw [List.flatten_nil, List.nil_append], fun _ mem => absurd mem List.not_mem_nil, pos, le⟩

/-- One more piece of `k` elements, taken from the front while more than `k`
remain. -/
theorem take_cons (rest : Chunks k (data.drop k) full last) (long : k < data.length) :
    Chunks k data (data.take k :: full) last where
  spells := by
    rw [List.flatten_cons, List.append_assoc, ← rest.spells, List.take_append_drop]
  full_length := by
    rintro chunk (_ | ⟨_, mem⟩)
    · rw [List.length_take]
      omega
    · exact rest.full_length chunk mem
  last_pos := rest.last_pos
  last_le := rest.last_le

/-- The data is `k` elements for each full piece, then the last piece. -/
theorem length_eq (chunks : Chunks k data full last) : data.length = k * full.length + last.length := by
  rw [chunks.spells, List.length_append]
  congr 1
  have pieces := chunks.full_length
  clear chunks
  -- every full piece adds `k`
  induction full with
  | nil => rfl
  | cons chunk full ih =>
    rw [List.flatten_cons, List.length_append, pieces chunk List.mem_cons_self,
      ih (fun c mem => pieces c (List.mem_cons_of_mem chunk mem)), List.length_cons, Nat.mul_succ,
      Nat.add_comm]

/-- How many full pieces there are. -/
theorem length_full (chunks : Chunks k data full last) : full.length = (data.length - 1) / k := by
  have pos := chunks.last_pos
  have le := chunks.last_le
  rw [chunks.length_eq, show k * full.length + last.length - 1 = k * full.length + (last.length - 1) by omega,
    Nat.mul_add_div (by omega), Nat.div_eq_of_lt (by omega), Nat.add_zero]

end Chunks

end Bluedroid.Theory
