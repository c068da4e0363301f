import Mathlib.Data.List.Basic

/-!
# Theory.AdjacentSwap -- exchanging neighbours, and the inversions it removes

An exchange sort moves entries only by swapping two neighbours.  This module
gives that swap a structural form, `swapAdjacent`, equal to the two stores an
implementation makes (`swapAdjacent_eq_set_set`), and the facts a proof about
such a sort needs: the swap permutes the list (`perm_swapAdjacent`), leaves
every entry past the pair alone (`drop_swapAdjacent`, and a permutation that
does so permutes the prefix, `perm_take_of_drop_eq`), and, made where the
neighbours are out of order, removes exactly one inversion
(`inversions_swapAdjacent`).  The last is what makes a sort that restarts after
every swap terminate: its measure is the inversion count, not the index.
-/

namespace Bluedroid.Theory

set_option autoImplicit false

variable {α : Type _}

/-- The list with the entries at `i` and `i + 1` exchanged; the list itself when
`i + 1` is past its end. -/
def swapAdjacent : List α → ℕ → List α
  | x :: y :: rest, 0 => y :: x :: rest
  | x :: rest, i + 1 => x :: swapAdjacent rest i
  | l, _ => l

@[simp] theorem swapAdjacent_zero (x y : α) (rest : List α) :
    swapAdjacent (x :: y :: rest) 0 = y :: x :: rest := rfl

@[simp] theorem swapAdjacent_succ (x : α) (rest : List α) (i : ℕ) :
    swapAdjacent (x :: rest) (i + 1) = x :: swapAdjacent rest i := by
  cases rest <;> rfl

/-- The swap as an implementation writes it: `x = a[i]; a[i] = a[i+1]; a[i+1] = x`. -/
theorem swapAdjacent_eq_set_set (l : List α) (i : ℕ) (inBounds : i + 1 < l.length) :
    (l.set i l[i + 1]).set (i + 1) l[i] = swapAdjacent l i := by
  induction i generalizing l with
  | zero =>
    obtain _ | ⟨x, _ | ⟨y, rest⟩⟩ := l
    all_goals simp at inBounds ⊢
  | succ i ih =>
    obtain _ | ⟨x, rest⟩ := l
    · simp at inBounds
    · simp only [List.length_cons, Nat.add_lt_add_iff_right] at inBounds
      simp only [List.getElem_cons_succ, List.set_cons_succ, swapAdjacent_succ,
        ih rest inBounds]

theorem perm_swapAdjacent (l : List α) (i : ℕ) : (swapAdjacent l i).Perm l := by
  induction l, i using swapAdjacent.induct with
  | case1 x y rest => exact List.Perm.swap x y rest
  | case2 x rest i ih =>
    rw [swapAdjacent_succ]
    exact ih.cons x
  | case3 l i _ _ => unfold swapAdjacent; split <;> simp_all

@[simp] theorem length_swapAdjacent (l : List α) (i : ℕ) :
    (swapAdjacent l i).length = l.length :=
  (perm_swapAdjacent l i).length_eq

/-- The swap leaves every entry from `m` on, when the pair lies below `m`. -/
theorem drop_swapAdjacent (l : List α) {i m : ℕ} (below : i + 1 < m) :
    (swapAdjacent l i).drop m = l.drop m := by
  induction i generalizing l m with
  | zero =>
    obtain _ | ⟨x, _ | ⟨y, rest⟩⟩ := l
    all_goals try rfl
    obtain ⟨m, rfl⟩ : ∃ k, m = k + 2 := ⟨m - 2, by omega⟩
    rfl
  | succ i ih =>
    obtain _ | ⟨x, rest⟩ := l
    · rfl
    obtain ⟨m, rfl⟩ : ∃ k, m = k + 1 := ⟨m - 1, by omega⟩
    rw [swapAdjacent_succ, List.drop_succ_cons, List.drop_succ_cons, ih rest (by omega)]

/-- A permutation that leaves everything from `m` on permutes the first `m`
entries among themselves. -/
theorem perm_take_of_drop_eq {l₁ l₂ : List α} {m : ℕ} (perm : l₁.Perm l₂)
    (frame : l₁.drop m = l₂.drop m) : (l₁.take m).Perm (l₂.take m) := by
  rw [← List.take_append_drop m l₁, ← List.take_append_drop m l₂, frame] at perm
  exact (List.perm_append_right_iff _).mp perm

section Inversions

variable [LT α] [DecidableLT α]

/-- The number of pairs of positions whose entries are out of order. -/
def inversions : List α → ℕ
  | [] => 0
  | x :: rest => rest.countP (fun y => decide (y < x)) + inversions rest

/-- A swap of two neighbours that are out of order removes one inversion and
no other. -/
theorem inversions_swapAdjacent [Std.Asymm (α := α) (· < ·)] (l : List α) (i : ℕ)
    (inBounds : i + 1 < l.length) (outOfOrder : l[i + 1] < l[i]) :
    inversions (swapAdjacent l i) + 1 = inversions l := by
  induction i generalizing l with
  | zero =>
    obtain _ | ⟨x, _ | ⟨y, rest⟩⟩ := l
    · simp at inBounds
    · simp at inBounds
    · -- the pair itself is the inversion removed; every later entry counts for both
      have inOrder : ¬ x < y := Std.Asymm.asymm y x outOfOrder
      simp only [List.getElem_cons_succ, List.getElem_cons_zero] at outOfOrder
      simp [inversions, outOfOrder, inOrder]
      omega
  | succ i ih =>
    obtain _ | ⟨x, rest⟩ := l
    · simp at inBounds
    · simp only [List.length_cons, Nat.add_lt_add_iff_right] at inBounds
      simp only [List.getElem_cons_succ] at outOfOrder
      -- the head's inversions are counted over a permutation of the same tail
      have sameCount := (perm_swapAdjacent rest i).countP_eq (fun y => decide (y < x))
      rw [swapAdjacent_succ, inversions, inversions, sameCount, ← ih rest inBounds outOfOrder]
      omega

end Inversions

end Bluedroid.Theory
