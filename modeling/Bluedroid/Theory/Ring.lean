import Mathlib.Data.List.Basic

/-!
# Theory.Ring -- a queue kept in a circular array

A circular array of `total` cells holds a queue as the `size` cells from a
`head` index on, the index wrapping at `total` (`window`).  Pointers into such
an array move in two ways: one cell at a time, back to the first cell at the
end (`wrapSucc`), or by up to a whole turn at once, subtracting `total` when
they pass the end (`wrapAdd`); both are addition modulo `total` while the
pointer is in the array (`wrapSucc_eq_mod`, `wrapAdd_eq_mod`).

A write at the cell after the window extends it (`window_set_next`), a write
outside it leaves it as it was (`window_set_of_ne`), and moving the head by `k`
drops the first `k` cells (`window_drop`).  The loops that copy a run of values
in (`writeLoop`) or out (`readLoop`) one cell at a time, with `wrapSucc`, append
to the window and read a window (`window_writeLoop`, `readLoop_eq_window`).
-/

namespace Bluedroid.Theory.Ring

set_option autoImplicit false

variable {α : Type} [Inhabited α]

/-- The `size` cells of `cells` from `head` on, wrapping at `total`. -/
def window (cells : List α) (total head size : ℕ) : List α :=
  (List.range size).map fun j => cells.getD ((head + j) % total) default

/-- The next cell, back to the first at the end. -/
def wrapSucc (c total : ℕ) : ℕ := if c + 1 ≥ total then 0 else c + 1

/-- `k` cells on, `total` subtracted once at the end. -/
def wrapAdd (c k total : ℕ) : ℕ := if c + k ≥ total then c + k - total else c + k

/-- Write `value i`, `value (i + 1)`, ... into `k` cells from `c` on, one cell at
a time; the cells and where the cursor ends. -/
def writeLoop (value : ℕ → α) (total : ℕ) : ℕ → List α → ℕ → ℕ → List α × ℕ
  | 0, cells, c, _ => (cells, c)
  | k + 1, cells, c, i => writeLoop value total k (cells.set c (value i)) (wrapSucc c total) (i + 1)

/-- Read `k` cells from `c` on, one cell at a time. -/
def readLoop (cells : List α) (total : ℕ) : ℕ → ℕ → List α
  | 0, _ => []
  | k + 1, c => cells.getD c default :: readLoop cells total k (wrapSucc c total)

/-! ## Pointers -/

theorem wrapSucc_eq_mod {c total : ℕ} (inside : c < total) : wrapSucc c total = (c + 1) % total := by
  unfold wrapSucc
  split_ifs with atEnd
  · rw [show c + 1 = total by omega, Nat.mod_self]
  · rw [Nat.mod_eq_of_lt (by omega)]

theorem wrapAdd_eq_mod {c k total : ℕ} (inside : c < total) (turn : k ≤ total) :
    wrapAdd c k total = (c + k) % total := by
  unfold wrapAdd
  split_ifs with past
  · rw [Nat.mod_eq_sub_mod past, Nat.mod_eq_of_lt (by omega)]
  · rw [Nat.mod_eq_of_lt (by omega)]

/-! ## The window -/

@[simp] theorem length_window (cells : List α) (total head size : ℕ) :
    (window cells total head size).length = size := by
  simp [window]

theorem window_zero (cells : List α) (total head : ℕ) : window cells total head 0 = [] := rfl

theorem window_succ (cells : List α) (total head size : ℕ) :
    window cells total head (size + 1) =
      window cells total head size ++ [cells.getD ((head + size) % total) default] := by
  simp [window, List.range_succ]

/-- A write outside the window leaves it as it was. -/
theorem window_set_of_ne (cells : List α) {total head size i : ℕ} (v : α)
    (outside : ∀ j < size, (head + j) % total ≠ i) :
    window (cells.set i v) total head size = window cells total head size := by
  unfold window
  refine List.map_congr_left fun j member => ?_
  have ne := outside j (List.mem_range.mp member)
  simp only [List.getD_eq_getElem?_getD, List.getElem?_set, Ne.symm ne, if_false]

/-- Cells less than a turn apart are different cells. -/
theorem add_mod_ne {total head j size : ℕ} (below : j < size) (turn : size < total) :
    (head + j) % total ≠ (head + size) % total := by
  intro same
  have zero := Nat.sub_mod_eq_zero_of_mod_eq same.symm
  rw [show head + size - (head + j) = size - j by omega, Nat.mod_eq_of_lt (by omega)] at zero
  omega

/-- **A write at the cell after the window extends it.** -/
theorem window_set_next (cells : List α) {total head size : ℕ} (v : α) (fits : cells.length = total)
    (turn : size < total) :
    window (cells.set ((head + size) % total) v) total head (size + 1) = window cells total head size ++ [v] := by
  have inside : (head + size) % total < cells.length := fits ▸ Nat.mod_lt _ (by omega)
  rw [window_succ, window_set_of_ne cells v fun j below => add_mod_ne below turn]
  simp only [List.getD_eq_getElem?_getD, List.getElem?_set_self inside, Option.getD_some]

/-- **Moving the head by `k` drops the first `k` cells.** -/
theorem window_drop (cells : List α) {total : ℕ} (head size k : ℕ) :
    (window cells total head size).drop k = window cells total ((head + k) % total) (size - k) := by
  apply List.ext_getElem
  · simp
  · intro j below _
    simp only [List.getElem_drop, window, List.getElem_map, List.getElem_range]
    rw [Nat.mod_add_mod, Nat.add_assoc]

theorem window_take (cells : List α) (total head size k : ℕ) :
    (window cells total head size).take k = window cells total head (min k size) := by
  rw [window, window, ← List.map_take, List.take_range]

/-! ## The loops -/

omit [Inhabited α] in
@[simp] theorem length_writeLoop (value : ℕ → α) (total : ℕ) :
    ∀ (k : ℕ) (cells : List α) (c i : ℕ), (writeLoop value total k cells c i).1.length = cells.length
  | 0, _, _, _ => rfl
  | k + 1, cells, c, i => by rw [writeLoop, length_writeLoop, List.length_set]

/-- **The write loop appends to the window**: from the cell after a window of
`size` cells, `k` writes extend it by the `k` values, and the cursor ends after
it, as long as the window stays within one turn. -/
theorem window_writeLoop (value : ℕ → α) {total head : ℕ} (inside : head < total) :
    ∀ (k : ℕ) (cells : List α) (size i : ℕ), cells.length = total → size + k ≤ total →
      window (writeLoop value total k cells ((head + size) % total) i).1 total head (size + k) =
          window cells total head size ++ (List.range k).map (fun j => value (i + j)) ∧
        (writeLoop value total k cells ((head + size) % total) i).2 = (head + size + k) % total
  | 0, cells, size, i, _, _ => by simp [writeLoop]
  | k + 1, cells, size, i, fits, turn => by
    -- one write extends the window by one cell; the rest is the same loop one cell on
    have next : wrapSucc ((head + size) % total) total = (head + (size + 1)) % total := by
      rw [wrapSucc_eq_mod (Nat.mod_lt _ (by omega)), Nat.mod_add_mod, Nat.add_assoc]
    obtain ⟨rest, cursor⟩ := window_writeLoop value inside k (cells.set ((head + size) % total) (value i))
      (size + 1) (i + 1) (by rw [List.length_set, fits]) (by omega)
    rw [writeLoop, next, show size + (k + 1) = size + 1 + k by omega, rest, cursor,
      window_set_next cells (value i) fits (by omega)]
    refine ⟨?_, by rw [show head + (size + 1) + k = head + size + (k + 1) by omega]⟩
    rw [List.range_succ_eq_map, List.map_cons, List.map_map, List.append_assoc, List.singleton_append, Nat.add_zero]
    congr 3
    funext j
    simp only [Function.comp, Nat.add_assoc, Nat.add_comm 1 j]

/-- **The read loop reads a window.** -/
theorem readLoop_eq_window (cells : List α) {total : ℕ} :
    ∀ (k c : ℕ), c < total → readLoop cells total k c = window cells total c k
  | 0, _, _ => rfl
  | k + 1, c, inside => by
    rw [readLoop, readLoop_eq_window cells k _ (by rw [wrapSucc_eq_mod inside]; exact Nat.mod_lt _ (by omega)),
      wrapSucc_eq_mod inside]
    unfold window
    rw [List.range_succ_eq_map, List.map_cons, List.map_map]
    simp only [Nat.add_zero, Nat.mod_eq_of_lt inside]
    congr 1
    refine List.map_congr_left fun j _ => ?_
    simp only [Function.comp, Nat.mod_add_mod, Nat.succ_eq_add_one, Nat.add_assoc, Nat.add_comm 1 j]

@[simp] theorem length_readLoop (cells : List α) (total : ℕ) :
    ∀ (k c : ℕ), (readLoop cells total k c).length = k
  | 0, _ => rfl
  | k + 1, c => by rw [readLoop, List.length_cons, length_readLoop]

end Bluedroid.Theory.Ring
