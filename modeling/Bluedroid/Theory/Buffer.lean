import Mathlib.Data.List.Basic

/-!
# Theory.Buffer -- copying into a buffer of fixed size

`memcpy(dst + pos, src, n)` into an allocated buffer is `copyInto dst pos src`:
the buffer with `src` in place from `pos`, and `none` where the bytes would
run past its end, so that a proof that a run never gives `none` is a proof
that it writes only inside its buffers.

Reading `n` bytes from `pos` of a buffer is `readAt src pos n`, again `none`
where the read would run past the end.

A byte string assembled piece by piece is a window of the buffer, the bytes
`(dst.drop a).take n`: a copy just past a window extends it by what was copied
(`window_copyInto_append`), and a copy anywhere else leaves the bytes before
its position alone (`take_copyInto`) and the bytes after it
(`drop_copyInto`).
-/

namespace Bluedroid.Theory

set_option autoImplicit false

variable {α : Type}

/-- `src` copied into `dst` from `pos`; `none` if it does not fit. -/
def copyInto (dst : List α) (pos : ℕ) (src : List α) : Option (List α) :=
  if pos + src.length ≤ dst.length then some (dst.take pos ++ src ++ dst.drop (pos + src.length))
  else none

theorem copyInto_of_le {dst src : List α} {pos : ℕ} (fits : pos + src.length ≤ dst.length) :
    copyInto dst pos src = some (dst.take pos ++ src ++ dst.drop (pos + src.length)) :=
  if_pos fits

variable {dst src out : List α} {pos : ℕ}

/-- A copy keeps the size of the buffer. -/
theorem length_copyInto (copied : copyInto dst pos src = some out) : out.length = dst.length := by
  unfold copyInto at copied
  split_ifs at copied with fits
  cases copied
  simp only [List.length_append, List.length_take, List.length_drop]
  omega

/-- A copy that is made fits in the buffer. -/
theorem fits_of_copyInto (copied : copyInto dst pos src = some out) : pos + src.length ≤ dst.length := by
  unfold copyInto at copied
  split_ifs at copied with fits
  exact fits

/-- A copy that fits is made, and keeps the size of the buffer. -/
theorem exists_copyInto (fits : pos + src.length ≤ dst.length) :
    ∃ out, copyInto dst pos src = some out ∧ out.length = dst.length :=
  ⟨_, copyInto_of_le fits, length_copyInto (copyInto_of_le fits)⟩

/-- Each byte after a copy: the copied one inside the copy, the old one elsewhere. -/
theorem getElem?_copyInto (copied : copyInto dst pos src = some out) (i : ℕ) :
    out[i]? = if pos ≤ i ∧ i < pos + src.length then src[i - pos]? else dst[i]? := by
  unfold copyInto at copied
  split_ifs at copied with fits
  cases copied
  rw [List.append_assoc]
  by_cases below : i < pos
  · rw [if_neg (by omega), List.getElem?_append_left (by rw [List.length_take]; omega),
      List.getElem?_take, if_pos below]
  · rw [List.getElem?_append_right (by rw [List.length_take]; omega), List.length_take,
      Nat.min_eq_left (by omega)]
    by_cases inside : i < pos + src.length
    · rw [if_pos ⟨by omega, inside⟩, List.getElem?_append_left (by omega)]
    · rw [if_neg (by omega), List.getElem?_append_right (by omega), List.getElem?_drop]
      congr 1
      omega

/-- A copy leaves the bytes before its position alone. -/
theorem take_copyInto (copied : copyInto dst pos src = some out) : out.take pos = dst.take pos := by
  unfold copyInto at copied
  split_ifs at copied with fits
  cases copied
  rw [List.append_assoc, List.take_append_of_le_length (by rw [List.length_take]; omega),
    List.take_take, Nat.min_self]

/-- A copy leaves the bytes after it alone. -/
theorem drop_copyInto (copied : copyInto dst pos src = some out) {k : ℕ} (after : pos + src.length ≤ k) :
    out.drop k = dst.drop k := by
  unfold copyInto at copied
  split_ifs at copied with fits
  cases copied
  have front : (dst.take pos ++ src).length = pos + src.length := by
    rw [List.length_append, List.length_take]
    omega
  rw [List.drop_append, List.drop_eq_nil_of_le (by rw [front]; omega), List.nil_append, front, List.drop_drop]
  congr 1
  omega

/-- What was copied is in the buffer from the position on. -/
theorem window_copyInto (copied : copyInto dst pos src = some out) :
    (out.drop pos).take src.length = src := by
  unfold copyInto at copied
  split_ifs at copied with fits
  cases copied
  rw [List.append_assoc, List.drop_append_of_le_length (by rw [List.length_take]; omega),
    List.drop_of_length_le (by rw [List.length_take]; omega), List.nil_append,
    List.take_append_of_le_length (Nat.le_refl _), List.take_length]

/-- A copy just past a window extends the window by what was copied. -/
theorem window_copyInto_append {a : ℕ} {xs : List α} (copied : copyInto dst pos src = some out)
    (before : a ≤ pos) (held : (dst.drop a).take (pos - a) = xs) :
    (out.drop a).take (pos + src.length - a) = xs ++ src := by
  unfold copyInto at copied
  split_ifs at copied with fits
  cases copied
  have window : (dst.take pos).drop a = xs := by rw [List.drop_take, held]
  have lengthWindow : xs.length = pos - a := by
    rw [← window, List.length_drop, List.length_take]
    omega
  rw [List.append_assoc, List.drop_append_of_le_length (by rw [List.length_take]; omega), window,
    List.take_append, List.take_of_length_le (by omega), lengthWindow,
    show pos + src.length - a - (pos - a) = src.length by omega,
    List.take_append_of_le_length (Nat.le_refl _), List.take_length]

/-- `n` elements of `src` from `pos`; `none` if they run past its end. -/
def readAt (src : List α) (pos n : ℕ) : Option (List α) :=
  if pos + n ≤ src.length then some ((src.drop pos).take n) else none

theorem readAt_of_le {src : List α} {pos n : ℕ} (inside : pos + n ≤ src.length) :
    readAt src pos n = some ((src.drop pos).take n) :=
  if_pos inside

/-- The elements a read returns, from a buffer that holds `pre` before them. -/
theorem readAt_append {pre bytes post : List α} :
    readAt (pre ++ bytes ++ post) pre.length bytes.length = some bytes := by
  rw [readAt_of_le (by simp only [List.length_append]; omega), List.append_assoc,
    List.drop_left, List.take_left]

end Bluedroid.Theory
