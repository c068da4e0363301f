import Bluedroid.Sdp.Sequences
import Bluedroid.Theory.AdjacentSwap

/-!
# Sdp.Sort -- the sort of a discovery database's attribute filters

`SDP_InitDiscoveryDb` copies the caller's attribute ids into `attr_filters` and
sorts them with `sdpu_sort_attr_list`, an exchange sort that goes back to the
first pair after every swap.  Its index therefore does not measure its progress;
the number of inversions of the array does, and every swap removes one of them
(`Theory.inversions_swapAdjacent`).  The loop is defined by recursion on that
measure, so it ends for every array.

`sortAttrLoop_spec` is the loop's contract: a permutation that changes nothing
past the loop bound and leaves every neighbouring pair below it in order.  The
main theorem, `sort_attr_list_sorts`, reads it at the bound the function
computes: the first `min num_attr SDP_MAX_ATTR_FILTERS` ids come out in
ascending order, the same ids as went in, and the rest of the array is as it
was.
-/

namespace Bluedroid.Sdp

open Bluedroid.Theory (swapAdjacent inversions)

set_option autoImplicit false

/-- The `attr_filters` array of a `tSDP_DISCOVERY_DB`: `SDP_MAX_ATTR_FILTERS`
attribute ids. -/
structure AttrFilters where
  ids : List UInt16
  length_ids : ids.length = sdpMaxAttrFilters

/-! ## The model -/

/-- The loop of `sdpu_sort_attr_list`, `for (i = 0; i < num_attr;)`, with
`num_attr` already capped and decremented: an out-of-order pair at `i` is swapped
and the loop starts again from `i = 0`. -/
def sortAttrLoop (numAttr : ℕ) (attrFilters : List UInt16)
    (inBounds : numAttr < attrFilters.length) (i : ℕ) : List UInt16 :=
  if hi : i < numAttr then
    if attrFilters[i] > attrFilters[i + 1] then
      sortAttrLoop numAttr ((attrFilters.set i attrFilters[i + 1]).set (i + 1) attrFilters[i])
        (by simpa using inBounds) 0
    else sortAttrLoop numAttr attrFilters inBounds (i + 1)
  else attrFilters
termination_by (inversions attrFilters, numAttr - i)
decreasing_by
  · -- a swap removes an inversion
    apply Prod.Lex.left
    rw [Theory.swapAdjacent_eq_set_set attrFilters i (by omega)]
    have removed := Theory.inversions_swapAdjacent attrFilters i (by omega) (by assumption)
    omega
  · -- no swap: the inversions stay and the index moves on
    apply Prod.Lex.right
    omega

/-- Every neighbouring pair that starts below `i` is in order. -/
def SortedBelow (i : ℕ) (attrFilters : List UInt16) : Prop :=
  ∀ j (inBounds : j + 1 < attrFilters.length), j < i → attrFilters[j] ≤ attrFilters[j + 1]

/-- Pairs in order up to `k` make the first `k + 1` entries ascending. -/
theorem pairwise_take_of_sortedBelow {k : ℕ} {attrFilters : List UInt16}
    (sorted : SortedBelow k attrFilters) : (attrFilters.take (k + 1)).Pairwise (· ≤ ·) := by
  apply List.IsChain.pairwise
  rw [List.isChain_iff_getElem]
  intro j bound
  simp only [List.length_take] at bound
  simp only [List.getElem_take]
  exact sorted j (by omega) (by omega)

/-! ## The loop -/

/-- The loop's contract, from an index below which the pairs are in order: it
permutes the array, changes nothing past `numAttr`, and ends with every pair below
`numAttr` in order.  The induction follows the loop's own recursion. -/
theorem sortAttrLoop_spec (numAttr : ℕ) (attrFilters : List UInt16)
    (inBounds : numAttr < attrFilters.length) (i : ℕ) (sorted : SortedBelow i attrFilters) :
    (sortAttrLoop numAttr attrFilters inBounds i).Perm attrFilters ∧
      (sortAttrLoop numAttr attrFilters inBounds i).drop (numAttr + 1) =
        attrFilters.drop (numAttr + 1) ∧
      SortedBelow numAttr (sortAttrLoop numAttr attrFilters inBounds i) := by
  fun_induction sortAttrLoop numAttr attrFilters inBounds i with
  | case1 a inBounds i hi swap ih =>
    -- a swap: the run from the swapped array, after one permuting step below the bound
    have swapped := Theory.swapAdjacent_eq_set_set a i (by omega)
    have stepPerm : ((a.set i a[i + 1]).set (i + 1) a[i]).Perm a := by
      rw [swapped]
      exact Theory.perm_swapAdjacent a i
    have stepFrame :
        ((a.set i a[i + 1]).set (i + 1) a[i]).drop (numAttr + 1) = a.drop (numAttr + 1) := by
      rw [swapped]
      exact Theory.drop_swapAdjacent a (by omega)
    obtain ⟨perm, frame, done⟩ := ih (fun j _ below => absurd below (Nat.not_lt_zero j))
    exact ⟨perm.trans stepPerm, frame.trans stepFrame, done⟩
  | case2 a inBounds i hi inOrder ih =>
    -- no swap: the pair at `i` joins the ordered ones
    apply ih
    intro j bound below
    rcases Nat.lt_succ_iff_lt_or_eq.mp below with below | rfl
    · exact sorted j bound below
    · exact UInt16.not_lt.mp inOrder
  | case3 a inBounds i done =>
    exact ⟨List.Perm.refl a, rfl, fun j bound below => sorted j bound (by omega)⟩

@[simp] theorem length_sortAttrLoop (numAttr : ℕ) (attrFilters : List UInt16)
    (inBounds : numAttr < attrFilters.length) :
    (sortAttrLoop numAttr attrFilters inBounds 0).length = attrFilters.length :=
  (sortAttrLoop_spec numAttr attrFilters inBounds 0
    (fun j _ below => absurd below (Nat.not_lt_zero j))).1.length_eq

theorem cappedBound_lt (numAttr : ℕ) :
    (if numAttr > sdpMaxAttrFilters then sdpMaxAttrFilters else numAttr) - 1 < sdpMaxAttrFilters := by
  unfold sdpMaxAttrFilters
  split <;> omega

/-- `sdpu_sort_attr_list`.  Nothing is done for fewer than two ids; more than
`SDP_MAX_ATTR_FILTERS` are capped to that many, and the loop runs to one below. -/
def sdpuSortAttrList (numAttr : ℕ) (db : AttrFilters) : AttrFilters :=
  if numAttr ≤ 1 then db
  else
    let capped := if numAttr > sdpMaxAttrFilters then sdpMaxAttrFilters else numAttr
    { ids := sortAttrLoop (capped - 1) db.ids (by rw [db.length_ids]; exact cappedBound_lt numAttr) 0
      length_ids := by rw [length_sortAttrLoop, db.length_ids] }

/-! ## The sort -/

/-- `sdpu_sort_attr_list` ends for every `num_attr` and every array, leaves the first
`min num_attr SDP_MAX_ATTR_FILTERS` ids in ascending order and as a permutation of
what they were, and leaves the rest of the array as it was. -/
theorem sort_attr_list_sorts (numAttr : ℕ) (db : AttrFilters) :
    ((sdpuSortAttrList numAttr db).ids.take (min numAttr sdpMaxAttrFilters)).Pairwise (· ≤ ·) ∧
      ((sdpuSortAttrList numAttr db).ids.take (min numAttr sdpMaxAttrFilters)).Perm
        (db.ids.take (min numAttr sdpMaxAttrFilters)) ∧
      (sdpuSortAttrList numAttr db).ids.drop (min numAttr sdpMaxAttrFilters) =
        db.ids.drop (min numAttr sdpMaxAttrFilters) := by
  unfold sdpuSortAttrList
  split
  case isTrue few =>
    -- at most one id is sorted: its prefix is part of the first entry
    have nothingBelow : SortedBelow 0 db.ids := fun j _ below => absurd below (Nat.not_lt_zero j)
    have single := pairwise_take_of_sortedBelow nothingBelow
    exact ⟨single.sublist (List.take_sublist_take_left (by omega)), List.Perm.refl _, rfl⟩
  case isFalse several =>
    -- the loop runs to one below the capped count, so its bound plus one is the prefix
    have prefixLen : (if numAttr > sdpMaxAttrFilters then sdpMaxAttrFilters else numAttr) - 1 + 1 =
        min numAttr sdpMaxAttrFilters := by
      unfold sdpMaxAttrFilters
      split <;> omega
    obtain ⟨perm, frame, sorted⟩ := sortAttrLoop_spec _ db.ids
      (by rw [db.length_ids]; exact cappedBound_lt numAttr) 0
      (fun j _ below => absurd below (Nat.not_lt_zero j))
    rw [prefixLen] at frame
    have ascending := pairwise_take_of_sortedBelow sorted
    rw [prefixLen] at ascending
    exact ⟨ascending, Theory.perm_take_of_drop_eq perm frame, frame⟩

end Bluedroid.Sdp
