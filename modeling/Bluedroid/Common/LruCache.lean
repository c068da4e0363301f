import Bluedroid.Theory.ListMap
import Bluedroid.Theory.Transition
import Mathlib.Data.List.TakeWhile

/-!
# Common.LruCache -- `LruCache` over `ListMap` refines an LRU map

`ListMap<Key, T>` of `gd/common/list_map.h` keeps its pairs in a `std::list`
(`node_list_`) and, for each key, the iterator of the node holding it in an
`unordered_map` (`key_map_`).  An iterator is modelled by the identity of the
node it points to: a node gets a fresh `id` when it is emplaced and keeps it
when it is spliced.  `LruCache<Key, T>` (`lru_cache.h`) keeps a `ListMap` most
recently used first: `find` splices the node it finds to the front, and a new
key at capacity first extracts the key of the last node.

The specification is `Theory.LruCache`, a list of pairs with distinct keys and
a capacity, and `lruCall` says what an LRU map answers to each call.
`Represents c a` is the refinement: the node list holds `a`'s pairs, node ids
and keys are distinct, `key_map_` maps each key present to the node holding it
(`ListMap.Wf`), and there are at most `capacity` nodes.  Every call keeps it
and answers as the specification does (`Represents.call`), so over any
sequence of calls the cache and the LRU map answer alike.

Most facts about a node list come from one decomposition: a node of a
well-formed list splits it into the nodes before and after it, none of which
shares its id or its key (`Wf.split`).
-/

namespace Bluedroid.Common

open Bluedroid.Theory

set_option autoImplicit false
set_option linter.unusedSectionVars false

/-! ## The model -/

/-- A node of `node_list_`: the identity an iterator to it holds, and its pair. -/
structure Node (K T : Type) where
  id : ℕ
  key : K
  value : T
  deriving DecidableEq, Repr

/-- `ListMap<Key, T>`: `node_list_`, and `key_map_` from a key to the iterator
of its node; `nextId` is the identity the next node emplaced gets. -/
structure ListMap (K T : Type) where
  nodeList : List (Node K T)
  keyMap : K → Option ℕ
  nextId : ℕ

namespace ListMap

variable {K T : Type} [DecidableEq K]

def empty : ListMap K T := ⟨[], fun _ => none, 0⟩

/-- The pair a node holds. -/
def pair (n : Node K T) : K × T := (n.key, n.value)

/-- The pairs, in list order. -/
def pairs (m : ListMap K T) : List (K × T) := m.nodeList.map pair

/-- `size()`. -/
def size (m : ListMap K T) : ℕ := m.nodeList.length

/-- `begin()`: the first node, `none` for `end()`. -/
def begin (m : ListMap K T) : Option ℕ := m.nodeList.head?.map Node.id

/-- The node an iterator points to. -/
def node (m : ListMap K T) (it : ℕ) : Option (Node K T) := m.nodeList.find? (·.id = it)

/-- `*it`: the pair of the node an iterator points to. -/
def deref (m : ListMap K T) (it : ℕ) : Option (K × T) := (m.node it).map pair

/-- `find(key)`: the iterator `key_map_` holds, `none` for `end()`. -/
def find (m : ListMap K T) (key : K) : Option ℕ := m.keyMap key

/-- `node_list_.emplace(pos, ...)`: before the node of `pos`, or last for `end()`. -/
def emplaceAt (nodes : List (Node K T)) (pos : Option ℕ) (n : Node K T) : List (Node K T) :=
  match pos with
  | none => nodes ++ [n]
  | some p => nodes.insertIdx (nodes.findIdx (·.id = p)) n

/-- A new node for `key` before `pos`, entered in `key_map_`. -/
def emplace (m : ListMap K T) (pos : Option ℕ) (key : K) (value : T) : ListMap K T :=
  { nodeList := emplaceAt m.nodeList pos ⟨m.nextId, key, value⟩
    keyMap := Function.update m.keyMap key (some m.nextId)
    nextId := m.nextId + 1 }

/-- `try_emplace(pos, key, args...)`: the iterator and whether a node was emplaced. -/
def tryEmplace (m : ListMap K T) (pos : Option ℕ) (key : K) (value : T) :
    (Option ℕ × Bool) × ListMap K T :=
  match m.keyMap key with
  | some _ => ((none, false), m)
  | none => ((some m.nextId, true), m.emplace pos key value)

/-- `insert_or_assign(pos, key, value)`: a key present gets the value where it is. -/
def insertOrAssign (m : ListMap K T) (pos : Option ℕ) (key : K) (value : T) : ListMap K T :=
  match m.keyMap key with
  | some it =>
    { m with nodeList := m.nodeList.map fun n => if n.id = it then { n with value } else n }
  | none => m.emplace pos key value

/-- `splice(begin(), *this, it)`, the splice `LruCache` makes: the node moves to
the front, and `key_map_` is left alone. -/
def splice (m : ListMap K T) (it : ℕ) : ListMap K T :=
  match m.node it with
  | none => m
  | some n => { m with nodeList := n :: m.nodeList.filter (·.id ≠ it) }

/-- `extract(key)`: the pair, taken out of `node_list_` and `key_map_`. -/
def extract (m : ListMap K T) (key : K) : Option (K × T) × ListMap K T :=
  match m.keyMap key with
  | none => (none, m)
  | some it =>
    (m.deref it, { m with nodeList := m.nodeList.filter (·.id ≠ it),
                          keyMap := Function.update m.keyMap key none })

/-- `erase(iter)`: the iterator after the node, which leaves `key_map_` and
`node_list_`. -/
def erase (m : ListMap K T) (it : ℕ) : Option ℕ × ListMap K T :=
  match m.node it with
  | none => (none, m)
  | some n =>
    (((m.nodeList.dropWhile (·.id ≠ it)).drop 1).head?.map Node.id,
      { m with nodeList := m.nodeList.filter (·.id ≠ it),
               keyMap := Function.update m.keyMap n.key none })

/-- `list_map_.begin()->second = value`. -/
def setBeginValue (m : ListMap K T) (value : T) : ListMap K T :=
  { m with nodeList := match m.nodeList with
                       | [] => []
                       | n :: rest => { n with value } :: rest }

/-- `std::prev(end())->first`: the key of the last node. -/
def lastKey (m : ListMap K T) : Option K := m.nodeList.getLast?.map Node.key

end ListMap

/-- `LruCache<Key, T>`. -/
structure LruCache (K T : Type) where
  capacity : ℕ
  listMap : ListMap K T

namespace LruCache

variable {K T : Type} [DecidableEq K]

/-- `LruCache(capacity)`. -/
def new (capacity : ℕ) : LruCache K T := ⟨capacity, .empty⟩

/-- `find(key)`: the iterator, its node spliced to the front. -/
def find (c : LruCache K T) (key : K) : Option ℕ × LruCache K T :=
  match c.listMap.find key with
  | none => (none, c)
  | some it => (some it, { c with listMap := c.listMap.splice it })

/-- `contains(key)`, which is `find(key) != end()`. -/
def contains (c : LruCache K T) (key : K) : Bool × LruCache K T :=
  ((c.find key).1.isSome, (c.find key).2)

/-- What `insert_or_assign` and `try_emplace` do before a new key: at capacity,
`extract(std::prev(end())->first)`. -/
def evict (c : LruCache K T) : Option (K × T) × ListMap K T :=
  if c.listMap.size = c.capacity then
    match c.listMap.lastKey with
    | none => (none, c.listMap)
    | some last => c.listMap.extract last
  else (none, c.listMap)

/-- `insert_or_assign(key, value)`: the pair evicted. -/
def insertOrAssign (c : LruCache K T) (key : K) (value : T) : Option (K × T) × LruCache K T :=
  match c.contains key with
  | (true, c) => (none, { c with listMap := c.listMap.setBeginValue value })
  | (false, c) => (c.evict.1, { c with listMap := c.evict.2.insertOrAssign c.evict.2.begin key value })

/-- `try_emplace(key, args...)`: the iterator, whether a node was emplaced, and
the pair evicted. -/
def tryEmplace (c : LruCache K T) (key : K) (value : T) :
    (Option ℕ × Bool × Option (K × T)) × LruCache K T :=
  match c.contains key with
  | (true, c) => ((none, false, none), c)
  | (false, c) =>
    (((c.evict.2.tryEmplace c.evict.2.begin key value).1.1,
        (c.evict.2.tryEmplace c.evict.2.begin key value).1.2, c.evict.1),
      { c with listMap := (c.evict.2.tryEmplace c.evict.2.begin key value).2 })

/-- `extract(key)`. -/
def extract (c : LruCache K T) (key : K) : Option (K × T) × LruCache K T :=
  ((c.listMap.extract key).1, { c with listMap := (c.listMap.extract key).2 })

/-- `erase(iter)`. -/
def erase (c : LruCache K T) (it : ℕ) : Option ℕ × LruCache K T :=
  ((c.listMap.erase it).1, { c with listMap := (c.listMap.erase it).2 })

end LruCache

/-! ## Calls -/

/-- A call on the cache.  `erase key` is `erase(iter)` with the iterator to the
node of `key` that a caller holds; with no such node there is no iterator, and
the call is left out. -/
inductive LruCall (K T : Type)
  | find (key : K)
  | contains (key : K)
  | insertOrAssign (key : K) (value : T)
  | tryEmplace (key : K) (value : T)
  | extract (key : K)
  | erase (key : K)
  deriving DecidableEq, Repr

/-- What a call returns, an iterator read as the pair it points to (`none` for
`end()`). -/
inductive LruReply (K T : Type)
  | entry (e : Option (K × T))
  | present (b : Bool)
  | emplaced (e : Option (K × T)) (inserted : Bool) (evicted : Option (K × T))
  deriving DecidableEq, Repr

namespace LruCache

variable {K T : Type} [DecidableEq K]

/-- The iterator to the node of `key`. -/
def iteratorOf (c : LruCache K T) (key : K) : Option ℕ :=
  (c.listMap.nodeList.find? (·.key = key)).map Node.id

/-- A call, and its reply. -/
def call (c : LruCache K T) : LruCall K T → LruCache K T × LruReply K T
  | .find key => ((c.find key).2, .entry ((c.find key).1.bind (c.find key).2.listMap.deref))
  | .contains key => ((c.contains key).2, .present (c.contains key).1)
  | .insertOrAssign key value =>
    ((c.insertOrAssign key value).2, .entry (c.insertOrAssign key value).1)
  | .tryEmplace key value =>
    ((c.tryEmplace key value).2,
      .emplaced ((c.tryEmplace key value).1.1.bind (c.tryEmplace key value).2.listMap.deref)
        (c.tryEmplace key value).1.2.1 (c.tryEmplace key value).1.2.2)
  | .extract key => ((c.extract key).2, .entry (c.extract key).1)
  | .erase key =>
    match c.iteratorOf key with
    | none => (c, .entry none)
    | some it => ((c.erase it).2, .entry ((c.erase it).1.bind (c.erase it).2.listMap.deref))

end LruCache

/-! ## The specification -/

section Spec

variable {K T : Type} [DecidableEq K]

/-- The pair after `key`'s, `none` at the end or without `key`. -/
def pairAfter (l : List (K × T)) (key : K) : Option (K × T) :=
  ((l.dropWhile (·.1 ≠ key)).drop 1).head?

/-- The pair a new key evicts: the last, at capacity. -/
def evicted (c : Theory.LruCache K T) : Option (K × T) :=
  if c.listMap.size = c.capacity then c.listMap.entries.getLast? else none

/-- **What an LRU map answers**, and how each call changes it. -/
def lruCall (c : Theory.LruCache K T) : LruCall K T → Theory.LruCache K T × LruReply K T
  | .find key => ((c.find key).2, .entry ((c.listMap.lookup key).map (key, ·)))
  | .contains key => ((c.find key).2, .present (decide (key ∈ c.keys)))
  | .insertOrAssign key value =>
    (c.insertOrAssign key value, .entry (if key ∈ c.keys then none else evicted c))
  | .tryEmplace key value =>
    (c.tryEmplace key value,
      if key ∈ c.keys then .emplaced none false none
      else .emplaced (some (key, value)) true (evicted c))
  | .extract key => ((c.extract key).2, .entry ((c.listMap.lookup key).map (key, ·)))
  | .erase key => ((c.extract key).2, .entry (pairAfter c.listMap.entries key))

end Spec

/-! ## Well-formed node lists -/

/-- In a list whose `f`-values do not repeat, no element but the one in the
middle has its `f`-value. -/
theorem ne_of_nodup_middle {α β : Type} (f : α → β) {before after : List α} {n : α}
    (nodup : ((before ++ n :: after).map f).Nodup) : ∀ x ∈ before ++ after, f x ≠ f n := by
  rw [List.map_append, List.map_cons, List.nodup_append, List.nodup_cons] at nodup
  intro x mem same
  rcases List.mem_append.mp mem with early | late
  · exact nodup.2.2 _ (List.mem_map_of_mem early) _ List.mem_cons_self same
  · exact nodup.2.1.1 (same ▸ List.mem_map_of_mem late)

/-- The first element with `p` is the one in the middle when none before it has `p`. -/
theorem find?_middle {α : Type} (p : α → Bool) {before after : List α} {n : α} (hit : p n = true)
    (miss : ∀ x ∈ before, p x = false) : (before ++ n :: after).find? p = some n := by
  rw [List.find?_append, List.find?_eq_none.mpr fun x mem => by simp [miss x mem], Option.none_or,
    List.find?_cons, hit]

/-- Dropping while `p` holds stops at the element in the middle when every one
before it has `p`. -/
theorem dropWhile_middle {α : Type} (p : α → Bool) {before after : List α} {n : α}
    (stop : p n = false) (skip : ∀ x ∈ before, p x = true) :
    (before ++ n :: after).dropWhile p = n :: after := by
  rw [List.dropWhile_append, (List.dropWhile_eq_nil_iff).mpr skip, List.isEmpty_nil, if_pos rfl,
    List.dropWhile_cons_of_neg (by simp [stop])]

/-- Filtering out only the element in the middle leaves the others. -/
theorem filter_middle {α : Type} (p : α → Bool) {before after : List α} {n : α}
    (out : p n = false) (kept : ∀ x ∈ before ++ after, p x = true) :
    (before ++ n :: after).filter p = before ++ after := by
  rw [List.filter_append, List.filter_cons, out, if_neg Bool.false_ne_true,
    List.filter_eq_self.mpr fun x mem => kept x (List.mem_append_left after mem),
    List.filter_eq_self.mpr fun x mem => kept x (List.mem_append_right before mem)]

namespace ListMap

variable {K T : Type} [DecidableEq K] {m : ListMap K T}

/-- What `ListMap` keeps true: node ids and keys are distinct, ids are below
`nextId`, and `key_map_` maps each key present to the node holding it. -/
structure Wf (m : ListMap K T) : Prop where
  ids : (m.nodeList.map Node.id).Nodup
  keys : (m.nodeList.map Node.key).Nodup
  fresh : ∀ n ∈ m.nodeList, n.id < m.nextId
  keyMap : ∀ key it, m.keyMap key = some it ↔ ∃ value, ⟨it, key, value⟩ ∈ m.nodeList

theorem wf_empty : (empty : ListMap K T).Wf :=
  ⟨List.nodup_nil, List.nodup_nil, by simp [empty], by simp [empty]⟩

theorem keys_pairs (m : ListMap K T) : m.pairs.map Prod.fst = m.nodeList.map Node.key := by
  simp [pairs, pair, Function.comp_def]

theorem Wf.keyMap_eq_none_iff (wf : m.Wf) (key : K) :
    m.keyMap key = none ↔ ∀ n ∈ m.nodeList, n.key ≠ key := by
  rw [Option.eq_none_iff_forall_ne_some]
  constructor
  · rintro absent ⟨it, k, value⟩ mem rfl
    exact absent it ((wf.keyMap k it).mpr ⟨value, mem⟩)
  · rintro absent it found
    obtain ⟨value, mem⟩ := (wf.keyMap key it).mp found
    exact absent _ mem rfl

/-- In a well-formed list, no node but the one in the middle has its id or its key. -/
theorem Wf.others (wf : m.Wf) {before after : List (Node K T)} {n : Node K T}
    (split : m.nodeList = before ++ n :: after) :
    ∀ x ∈ before ++ after, x.id ≠ n.id ∧ x.key ≠ n.key := by
  have ids := wf.ids
  have keys := wf.keys
  rw [split] at ids keys
  exact fun x other => ⟨ne_of_nodup_middle Node.id ids x other, ne_of_nodup_middle Node.key keys x other⟩

/-- **A node splits a well-formed list**: none of the nodes before or after it
has its id or its key. -/
theorem Wf.split (wf : m.Wf) {n : Node K T} (mem : n ∈ m.nodeList) :
    ∃ before after, m.nodeList = before ++ n :: after ∧
      ∀ x ∈ before ++ after, x.id ≠ n.id ∧ x.key ≠ n.key := by
  obtain ⟨before, after, split⟩ := List.mem_iff_append.mp mem
  exact ⟨before, after, split, wf.others split⟩

/-- The nodes with the same ids and keys, in any order, keep a list well formed. -/
theorem Wf.of_mem_iff (wf : m.Wf) {nodes : List (Node K T)} (ids : (nodes.map Node.id).Nodup)
    (keys : (nodes.map Node.key).Nodup)
    (same : ∀ it key, (∃ value, ⟨it, key, value⟩ ∈ nodes) ↔ ∃ value, ⟨it, key, value⟩ ∈ m.nodeList) :
    { m with nodeList := nodes }.Wf where
  ids := ids
  keys := keys
  fresh := by
    rintro ⟨it, key, value⟩ mem
    obtain ⟨value', mem'⟩ := (same it key).mp ⟨value, mem⟩
    exact wf.fresh ⟨it, key, value'⟩ mem'
  keyMap key it := (wf.keyMap key it).trans (same it key).symm

section Split

variable {before after : List (Node K T)} {n : Node K T}
  (split : m.nodeList = before ++ n :: after)
  (others : ∀ x ∈ before ++ after, x.id ≠ n.id ∧ x.key ≠ n.key)
include split others

theorem node_self : m.node n.id = some n := by
  rw [node, split]
  exact find?_middle _ (by simp) fun x mem => by simp [(others x (List.mem_append_left after mem)).1]

theorem find?_key_self : m.nodeList.find? (·.key = n.key) = some n := by
  rw [split]
  exact find?_middle _ (by simp) fun x mem => by simp [(others x (List.mem_append_left after mem)).2]

theorem filter_id : m.nodeList.filter (·.id ≠ n.id) = before ++ after := by
  rw [split]
  exact filter_middle _ (by simp) fun x mem => by simpa using (others x mem).1

theorem pairs_filter_key : m.pairs.filter (·.1 ≠ n.key) = (before ++ after).map pair := by
  rw [pairs, split, List.filter_map]
  exact congrArg _ (filter_middle _ (by simp [pair]) fun x mem => by simp [pair, (others x mem).2])

theorem splice_self : m.splice n.id = { m with nodeList := n :: (before ++ after) } := by
  rw [splice, node_self split others, filter_id split others]

omit others in
theorem mem_split_iff (x : Node K T) : x ∈ m.nodeList ↔ x = n ∨ x ∈ before ++ after := by
  rw [split]
  simp [or_left_comm]

theorem Wf.toFront (wf : m.Wf) : { m with nodeList := n :: (before ++ after) }.Wf := by
  have ids := wf.ids
  have keys := wf.keys
  rw [split] at ids keys
  refine wf.of_mem_iff ?_ ?_ fun it key => ?_
  · exact (List.perm_middle.map _).nodup_iff.mp ids
  · exact (List.perm_middle.map _).nodup_iff.mp keys
  · simp only [List.mem_cons, mem_split_iff split]

theorem extract_self (wf : m.Wf) :
    m.extract n.key = (some (pair n),
      { m with nodeList := before ++ after, keyMap := Function.update m.keyMap n.key none }) := by
  have found : m.keyMap n.key = some n.id := (wf.keyMap n.key n.id).mpr ⟨n.value, by simp [split]⟩
  simp only [extract, found, deref, node_self split others, filter_id split others, Option.map_some]

theorem erase_self :
    m.erase n.id = (after.head?.map Node.id,
      { m with nodeList := before ++ after, keyMap := Function.update m.keyMap n.key none }) := by
  -- the nodes before `n` all go, `n` stays
  have skipped : m.nodeList.dropWhile (·.id ≠ n.id) = n :: after := by
    rw [split]
    exact dropWhile_middle _ (by simp) fun x mem => by
      simp [(others x (List.mem_append_left after mem)).1]
  rw [erase, node_self split others, skipped, filter_id split others]
  rfl

/-- Taking the node out keeps the list well formed, with `n`'s key out of
`key_map_`. -/
theorem Wf.remove (wf : m.Wf) :
    { m with nodeList := before ++ after, keyMap := Function.update m.keyMap n.key none }.Wf := by
  have front := Wf.toFront split others wf
  have ids := front.ids
  have keys := front.keys
  simp only [List.map_cons, List.nodup_cons] at ids keys
  refine ⟨ids.2, keys.2, fun x mem => wf.fresh x ((mem_split_iff split x).mpr (.inr mem)),
    fun key it => ?_⟩
  by_cases same : key = n.key
  · subst same
    simp only [Function.update_self, reduceCtorEq, false_iff, not_exists]
    exact fun value mem => (others _ mem).2 rfl
  · show Function.update m.keyMap n.key none key = some it ↔ ∃ value, ⟨it, key, value⟩ ∈ before ++ after
    rw [Function.update_of_ne same, wf.keyMap key it]
    simp only [mem_split_iff split]
    constructor
    · rintro ⟨value, rfl | mem⟩
      · exact absurd rfl same
      · exact ⟨value, mem⟩
    · rintro ⟨value, mem⟩
      exact ⟨value, .inr mem⟩

end Split

theorem insertOrAssign_of_none {key : K} (absent : m.keyMap key = none) (pos : Option ℕ) (value : T) :
    m.insertOrAssign pos key value = m.emplace pos key value := by
  simp [insertOrAssign, absent]

theorem tryEmplace_of_none {key : K} (absent : m.keyMap key = none) (pos : Option ℕ) (value : T) :
    m.tryEmplace pos key value = ((some m.nextId, true), m.emplace pos key value) := by
  simp [tryEmplace, absent]

/-- An iterator to a node of a well-formed list reads the node's pair. -/
theorem Wf.deref_of_mem (wf : m.Wf) {x : Node K T} (mem : x ∈ m.nodeList) :
    m.deref x.id = some (pair x) := by
  obtain ⟨before, after, split, others⟩ := wf.split mem
  rw [deref, node_self split others, Option.map_some]

/-- Emplacing at `begin()` puts the node first. -/
theorem emplaceAt_begin (nodes : List (Node K T)) (x : Node K T) :
    emplaceAt nodes (nodes.head?.map Node.id) x = x :: nodes := by
  cases nodes with
  | nil => rfl
  | cons first rest => simp [emplaceAt, List.findIdx_cons]

theorem nodeList_emplace_begin (m : ListMap K T) (key : K) (value : T) :
    (m.emplace m.begin key value).nodeList = ⟨m.nextId, key, value⟩ :: m.nodeList :=
  emplaceAt_begin _ _

/-- A new key emplaced at `begin()` keeps the list well formed. -/
theorem Wf.emplace_begin (wf : m.Wf) {key : K} (absent : m.keyMap key = none) (value : T) :
    (m.emplace m.begin key value).Wf := by
  have others := (wf.keyMap_eq_none_iff key).mp absent
  refine ⟨?_, ?_, ?_, fun k it => ?_⟩
  · rw [nodeList_emplace_begin, List.map_cons, List.nodup_cons]
    exact ⟨fun mem => by
      obtain ⟨x, mem, same⟩ := List.mem_map.mp mem
      exact Nat.lt_irrefl _ (same ▸ wf.fresh x mem), wf.ids⟩
  · rw [nodeList_emplace_begin, List.map_cons, List.nodup_cons]
    exact ⟨fun mem => by
      obtain ⟨x, mem, same⟩ := List.mem_map.mp mem
      exact others x mem same, wf.keys⟩
  · intro x mem
    rw [nodeList_emplace_begin, List.mem_cons] at mem
    rcases mem with rfl | old
    · exact Nat.lt_succ_self _
    · exact Nat.lt_succ_of_lt (wf.fresh x old)
  · rw [nodeList_emplace_begin]
    simp only [emplace, List.mem_cons, Node.mk.injEq]
    by_cases same : k = key
    · subst same
      simp only [Function.update_self, Option.some.injEq, true_and]
      constructor
      · rintro rfl
        exact ⟨value, .inl ⟨rfl, rfl⟩⟩
      · rintro ⟨v, ⟨rfl, -⟩ | mem⟩
        · rfl
        · exact absurd rfl (others _ mem)
    · rw [Function.update_of_ne same, wf.keyMap k it]
      constructor
      · rintro ⟨v, mem⟩
        exact ⟨v, .inr mem⟩
      · rintro ⟨v, ⟨-, rfl, -⟩ | mem⟩
        · exact absurd rfl same
        · exact ⟨v, mem⟩

theorem setBeginValue_eq {n : Node K T} {rest : List (Node K T)} (first : m.nodeList = n :: rest)
    (value : T) : m.setBeginValue value = { m with nodeList := { n with value } :: rest } := by
  simp [setBeginValue, first]

/-- A new value at the front keeps the list well formed. -/
theorem Wf.setBeginValue (wf : m.Wf) {n : Node K T} {rest : List (Node K T)}
    (first : m.nodeList = n :: rest) (value : T) : (m.setBeginValue value).Wf := by
  rw [setBeginValue_eq first]
  have ids := wf.ids
  have keys := wf.keys
  rw [first] at ids keys
  obtain ⟨id, key₀, value₀⟩ := n
  refine wf.of_mem_iff (by simpa using ids) (by simpa using keys) fun it key => ?_
  -- only the value of the first node changed
  simp only [first, List.mem_cons, Node.mk.injEq]
  constructor
  · rintro ⟨v, ⟨rfl, rfl, -⟩ | mem⟩
    · exact ⟨value₀, .inl ⟨rfl, rfl, rfl⟩⟩
    · exact ⟨v, .inr mem⟩
  · rintro ⟨v, ⟨rfl, rfl, -⟩ | mem⟩
    · exact ⟨value, .inl ⟨rfl, rfl, rfl⟩⟩
    · exact ⟨v, .inr mem⟩

end ListMap

/-! ## The refinement -/

section Refinement

variable {K T : Type} [DecidableEq K] {c : LruCache K T} {a : Theory.LruCache K T}

/-- **The refinement**: the cache's nodes hold the LRU map's pairs in its order,
`key_map_` maps each key to its node, and there are at most `capacity` nodes. -/
structure Represents (c : LruCache K T) (a : Theory.LruCache K T) : Prop where
  capacity : c.capacity = a.capacity
  positive : 1 ≤ c.capacity
  wf : c.listMap.Wf
  pairs : c.listMap.pairs = a.listMap.entries
  bounded : c.listMap.size ≤ c.capacity

theorem represents_new {capacity : ℕ} (positive : 1 ≤ capacity) :
    Represents (LruCache.new capacity : LruCache K T) ⟨capacity, .empty⟩ :=
  ⟨rfl, positive, ListMap.wf_empty, rfl, Nat.zero_le _⟩

theorem Represents.mem_keys_iff (rep : Represents c a) (key : K) :
    key ∈ a.keys ↔ ∃ n ∈ c.listMap.nodeList, n.key = key := by
  rw [Theory.LruCache.keys, Theory.ListMap.keys, ← rep.pairs, ListMap.keys_pairs, List.mem_map]

theorem Represents.not_mem_keys (rep : Represents c a) {key : K}
    (absent : c.listMap.keyMap key = none) : key ∉ a.keys := by
  rw [rep.mem_keys_iff]
  rintro ⟨n, mem, rfl⟩
  exact (rep.wf.keyMap_eq_none_iff n.key).mp absent n mem rfl

theorem Represents.lookup (rep : Represents c a) {n : Node K T} (mem : n ∈ c.listMap.nodeList) :
    a.listMap.lookup n.key = some n.value :=
  Theory.ListMap.lookup_eq_some_of_mem (by rw [← rep.pairs]; exact List.mem_map_of_mem mem)

theorem Represents.size_eq (rep : Represents c a) : a.listMap.size = c.listMap.size := by
  rw [Theory.ListMap.size, ← rep.pairs, ListMap.pairs, List.length_map, ListMap.size]

/-- A key is found or absent: `key_map_` holds it iff some node does. -/
theorem Represents.cases (rep : Represents c a) (key : K) :
    (∃ n ∈ c.listMap.nodeList, n.key = key) ∨ c.listMap.keyMap key = none := by
  cases found : c.listMap.keyMap key with
  | none => exact .inr rfl
  | some it =>
    obtain ⟨value, mem⟩ := (rep.wf.keyMap key it).mp found
    exact .inl ⟨_, mem, rfl⟩

section Present

variable {before after : List (Node K T)} {n : Node K T}
  (split : c.listMap.nodeList = before ++ n :: after)
  (others : ∀ x ∈ before ++ after, x.id ≠ n.id ∧ x.key ≠ n.key)
include split others

theorem find_present (rep : Represents c a) :
    c.find n.key =
      (some n.id, { c with listMap := { c.listMap with nodeList := n :: (before ++ after) } }) := by
  have found : c.listMap.keyMap n.key = some n.id :=
    (rep.wf.keyMap n.key n.id).mpr ⟨n.value, by simp [split]⟩
  simp only [LruCache.find, ListMap.find, found, ListMap.splice_self split others]

/-- Splicing `n` to the front is moving its key to the front. -/
theorem Represents.spliced (rep : Represents c a) :
    Represents { c with listMap := { c.listMap with nodeList := n :: (before ++ after) } }
      (a.find n.key).2 where
  capacity := rep.capacity
  positive := rep.positive
  wf := ListMap.Wf.toFront split others rep.wf
  pairs := by
    rw [Theory.LruCache.find, Theory.ListMap.entries_moveToFront (rep.lookup (by simp [split])), ← rep.pairs,
      ListMap.pairs_filter_key split others]
    rfl
  bounded := by
    have size := rep.bounded
    simp only [ListMap.size, split, List.length_append, List.length_cons] at size
    simp only [ListMap.size, List.length_cons, List.length_append]
    omega

/-- After `extract`, the node is out, and so is its key. -/
theorem Represents.removed (rep : Represents c a) :
    Represents { c with listMap := { c.listMap with nodeList := before ++ after,
                                                    keyMap := Function.update c.listMap.keyMap n.key none } }
      (a.extract n.key).2 where
  capacity := rep.capacity
  positive := rep.positive
  wf := ListMap.Wf.remove split others rep.wf
  pairs := by
    rw [Theory.LruCache.extract]
    show (before ++ after).map ListMap.pair = a.listMap.entries.filter fun e => e.1 ≠ n.key
    rw [← rep.pairs, ListMap.pairs_filter_key split others]
  bounded := by
    have size := rep.bounded
    simp only [ListMap.size, split, List.length_append, List.length_cons] at size
    simp only [ListMap.size, List.length_append]
    omega

end Present

/-- A new value for the first node is a new value for the first key. -/
theorem Represents.setBeginValue (rep : Represents c a) {n : Node K T} {rest : List (Node K T)}
    (first : c.listMap.nodeList = n :: rest) (value : T) :
    Represents { c with listMap := c.listMap.setBeginValue value }
      { a with listMap := a.listMap.modify n.key fun _ => value } where
  capacity := rep.capacity
  positive := rep.positive
  wf := rep.wf.setBeginValue first value
  pairs := by
    have entries : a.listMap.entries = (n.key, n.value) :: rest.map ListMap.pair := by
      rw [← rep.pairs, ListMap.pairs, first, List.map_cons]
      rfl
    show (c.listMap.setBeginValue value).pairs = _
    rw [Theory.ListMap.entries_modify_head entries, ListMap.setBeginValue_eq first, ListMap.pairs,
      List.map_cons]
    rfl
  bounded := by
    have size := rep.bounded
    simp only [ListMap.size, first, List.length_cons] at size
    simp only [ListMap.size, ListMap.setBeginValue_eq first, List.length_cons]
    omega

section Absent

variable {key : K}

theorem find_absent (absent : c.listMap.keyMap key = none) : c.find key = (none, c) := by
  simp [LruCache.find, ListMap.find, absent]

/-- **Eviction**: before a new key, `evict` leaves what `evictIfFull` leaves,
with room for one more node, and returns the pair the specification evicts. -/
theorem Represents.evict (rep : Represents c a) (absent : c.listMap.keyMap key = none) :
    c.evict.1 = evicted a ∧ c.evict.2.Wf ∧ c.evict.2.keyMap key = none ∧
      c.evict.2.pairs = a.evictIfFull.entries ∧ c.evict.2.size < c.capacity := by
  unfold LruCache.evict evicted Theory.LruCache.evictIfFull
  by_cases full : c.listMap.size = c.capacity
  · -- at capacity the list is not empty, and its last node goes
    have fullSpec : a.listMap.size = a.capacity := by rw [rep.size_eq, ← rep.capacity, full]
    obtain ⟨init, last, whole⟩ : ∃ init last, c.listMap.nodeList = init ++ [last] := by
      rcases List.eq_nil_or_concat c.listMap.nodeList with empty | ⟨init, last, found⟩
      · have positive := rep.positive
        simp [ListMap.size, empty] at full
        omega
      · exact ⟨init, last, by rw [found, List.concat_eq_append]⟩
    have split : c.listMap.nodeList = init ++ last :: [] := whole
    have others := rep.wf.others split
    have lastKey : c.listMap.lastKey = some last.key := by simp [ListMap.lastKey, whole]
    simp only [if_pos full, if_pos fullSpec, lastKey, ListMap.extract_self split others rep.wf]
    refine ⟨?_, ListMap.Wf.remove split others rep.wf, ?_, ?_, ?_⟩
    · rw [← rep.pairs, ListMap.pairs, whole]
      simp
    · show Function.update c.listMap.keyMap last.key none key = none
      by_cases same : key = last.key
      · rw [same, Function.update_self]
      · rw [Function.update_of_ne same, absent]
    · show (init ++ []).map ListMap.pair = a.listMap.entries.dropLast
      rw [← rep.pairs, ListMap.pairs, whole]
      simp
    · have size := full
      simp only [ListMap.size, whole, List.length_append, List.length_singleton] at size
      show (init ++ []).length < c.capacity
      rw [List.append_nil]
      omega
  · have roomSpec : a.listMap.size ≠ a.capacity := by rw [rep.size_eq, ← rep.capacity]; exact full
    simp only [if_neg full, if_neg roomSpec]
    exact ⟨trivial, rep.wf, absent, rep.pairs, Nat.lt_of_le_of_ne rep.bounded full⟩

/-- After eviction a new key goes in front: the cache holds what the
specification's `pushFront` holds. -/
theorem Represents.emplace (rep : Represents c a) (absent : c.listMap.keyMap key = none) (value : T) :
    Represents { c with listMap := c.evict.2.emplace c.evict.2.begin key value }
      { a with listMap := a.evictIfFull.pushFront key value } := by
  obtain ⟨-, wf, stillAbsent, pairs, room⟩ := rep.evict absent
  have notKey : key ∉ a.evictIfFull.keys := fun mem =>
    rep.not_mem_keys absent (a.mem_keys_evictIfFull mem)
  refine ⟨rep.capacity, rep.positive, wf.emplace_begin stillAbsent value, ?_, ?_⟩
  · show (c.evict.2.emplace c.evict.2.begin key value).pairs = _
    rw [Theory.ListMap.entries_pushFront notKey, ListMap.pairs, ListMap.nodeList_emplace_begin,
      List.map_cons, ← pairs]
    rfl
  · show (c.evict.2.emplace c.evict.2.begin key value).size ≤ c.capacity
    rw [ListMap.size, ListMap.nodeList_emplace_begin, List.length_cons]
    exact room

/-- `insert_or_assign(key, value)` answers and changes as the specification does. -/
theorem Represents.insertOrAssign (rep : Represents c a) (key : K) (value : T) :
    (c.insertOrAssign key value).1 = (if key ∈ a.keys then none else evicted a) ∧
      Represents (c.insertOrAssign key value).2 (a.insertOrAssign key value) := by
  rcases rep.cases key with ⟨n, mem, rfl⟩ | absent
  · -- `contains()` moved the node to the front, where the value goes
    obtain ⟨before, after, split, others⟩ := rep.wf.split mem
    have present : n.key ∈ a.keys := (rep.mem_keys_iff _).mpr ⟨n, mem, rfl⟩
    simp only [LruCache.insertOrAssign, LruCache.contains, find_present split others rep,
      Option.isSome_some, if_pos present, Theory.LruCache.insertOrAssign]
    exact ⟨trivial, (rep.spliced split others).setBeginValue rfl value⟩
  · have notKey := rep.not_mem_keys absent
    obtain ⟨evicts, -, stillAbsent, -, -⟩ := rep.evict absent
    simp only [LruCache.insertOrAssign, LruCache.contains, find_absent absent,
      Option.isSome_none, if_neg notKey, Theory.LruCache.insertOrAssign,
      ListMap.insertOrAssign_of_none stillAbsent]
    exact ⟨evicts, rep.emplace absent value⟩

end Absent

/-- `find(key)`: the pair read through the iterator is the one looked up, and
the key moves to the front. -/
theorem Represents.find (rep : Represents c a) (key : K) :
    (c.find key).1.bind (c.find key).2.listMap.deref = (a.listMap.lookup key).map (key, ·) ∧
      (c.find key).1.isSome = decide (key ∈ a.keys) ∧ Represents (c.find key).2 (a.find key).2 := by
  rcases rep.cases key with ⟨n, mem, rfl⟩ | absent
  · obtain ⟨before, after, split, others⟩ := rep.wf.split mem
    have moved := rep.spliced split others
    rw [find_present split others rep, rep.lookup mem]
    refine ⟨?_, by simp [(rep.mem_keys_iff _).mpr ⟨n, mem, rfl⟩], moved⟩
    rw [Option.bind_some, moved.wf.deref_of_mem List.mem_cons_self]
    rfl
  · have notKey := rep.not_mem_keys absent
    rw [find_absent absent, (Theory.ListMap.lookup_eq_none_iff _ _).mpr notKey]
    refine ⟨rfl, by simp [notKey], ?_⟩
    simp only [Theory.LruCache.find, Theory.ListMap.moveToFront_of_not_mem notKey]
    exact rep

/-- `try_emplace(key, value)` answers and changes as the specification does. -/
theorem Represents.tryEmplace (rep : Represents c a) (key : K) (value : T) :
    (c.call (.tryEmplace key value)).2 = (lruCall a (.tryEmplace key value)).2 ∧
      Represents (c.call (.tryEmplace key value)).1 (lruCall a (.tryEmplace key value)).1 := by
  rcases rep.cases key with ⟨n, mem, rfl⟩ | absent
  · -- `contains()` moved the node to the front, and nothing else happens
    obtain ⟨before, after, split, others⟩ := rep.wf.split mem
    have present : n.key ∈ a.keys := (rep.mem_keys_iff _).mpr ⟨n, mem, rfl⟩
    simp only [LruCache.call, lruCall, LruCache.tryEmplace, LruCache.contains,
      find_present split others rep, Option.isSome_some, if_pos present, Theory.LruCache.tryEmplace]
    exact ⟨rfl, rep.spliced split others⟩
  · have notKey := rep.not_mem_keys absent
    obtain ⟨evicts, wf, stillAbsent, -, -⟩ := rep.evict absent
    have emplaced := rep.emplace absent value
    simp only [LruCache.call, lruCall, LruCache.tryEmplace, LruCache.contains, find_absent absent,
      Option.isSome_none, if_neg notKey, Theory.LruCache.tryEmplace,
      ListMap.tryEmplace_of_none stillAbsent, evicts]
    -- the iterator returned is the new node's, which is first
    have first : (c.evict.2.emplace c.evict.2.begin key value).deref c.evict.2.nextId = some (key, value) :=
      emplaced.wf.deref_of_mem (x := ⟨c.evict.2.nextId, key, value⟩)
        (by simp [ListMap.nodeList_emplace_begin])
    rw [Option.bind_some, first]
    exact ⟨rfl, emplaced⟩

/-- `extract(key)` answers and changes as the specification does. -/
theorem Represents.extract (rep : Represents c a) (key : K) :
    (c.call (.extract key)).2 = (lruCall a (.extract key)).2 ∧
      Represents (c.call (.extract key)).1 (lruCall a (.extract key)).1 := by
  rcases rep.cases key with ⟨n, mem, rfl⟩ | absent
  · obtain ⟨before, after, split, others⟩ := rep.wf.split mem
    simp only [LruCache.call, lruCall, LruCache.extract, ListMap.extract_self split others rep.wf,
      rep.lookup mem]
    exact ⟨rfl, rep.removed split others⟩
  · have notKey := rep.not_mem_keys absent
    have untouched : c.listMap.extract key = (none, c.listMap) := by simp [ListMap.extract, absent]
    simp only [LruCache.call, lruCall, LruCache.extract, untouched, Theory.LruCache.extract,
      (Theory.ListMap.lookup_eq_none_iff _ _).mpr notKey, Theory.ListMap.erase_of_not_mem notKey]
    exact ⟨rfl, rep⟩

/-- The pair after a key's in the list of a split is the first pair after the node. -/
theorem pairAfter_middle {before after : List (Node K T)} {n : Node K T}
    (others : ∀ x ∈ before, x.key ≠ n.key) :
    pairAfter ((before ++ n :: after).map ListMap.pair) n.key = after.head?.map ListMap.pair := by
  rw [pairAfter, List.dropWhile_map, dropWhile_middle _ (by simp [ListMap.pair])
    fun x mem => by simp [ListMap.pair, others x mem]]
  simp [List.head?_map]

/-- `erase(iter)` at the node of `key` answers and changes as the specification does. -/
theorem Represents.erase (rep : Represents c a) (key : K) :
    (c.call (.erase key)).2 = (lruCall a (.erase key)).2 ∧
      Represents (c.call (.erase key)).1 (lruCall a (.erase key)).1 := by
  rcases rep.cases key with ⟨n, mem, rfl⟩ | absent
  · obtain ⟨before, after, split, others⟩ := rep.wf.split mem
    have removed := rep.removed split others
    have iterator : c.iteratorOf n.key = some n.id := by
      rw [LruCache.iteratorOf, ListMap.find?_key_self split others, Option.map_some]
    simp only [LruCache.call, lruCall, iterator, LruCache.erase, ListMap.erase_self split others]
    refine ⟨?_, removed⟩
    rw [← rep.pairs, ListMap.pairs, split,
      pairAfter_middle fun x mem => (others x (List.mem_append_left after mem)).2]
    -- the iterator after the node reads the first pair after it
    cases after with
    | nil => rfl
    | cons next rest =>
      rw [List.head?_cons, Option.map_some, Option.bind_some,
        removed.wf.deref_of_mem (by simp)]
      rfl
  · have notKey := rep.not_mem_keys absent
    have noNode := (rep.wf.keyMap_eq_none_iff key).mp absent
    have iterator : c.iteratorOf key = none := by
      rw [LruCache.iteratorOf, List.find?_eq_none.mpr fun x mem => by simp [noNode x mem],
        Option.map_none]
    have nothingAfter : pairAfter a.listMap.entries key = none := by
      rw [pairAfter, (List.dropWhile_eq_nil_iff).mpr fun e mem => ?_]
      · rfl
      · rw [← rep.pairs, ListMap.pairs, List.mem_map] at mem
        obtain ⟨x, mem, rfl⟩ := mem
        simp [ListMap.pair, noNode x mem]
    simp only [LruCache.call, lruCall, iterator, nothingAfter, Theory.LruCache.extract,
      Theory.ListMap.erase_of_not_mem notKey]
    exact ⟨trivial, rep⟩

/-- **The refinement step**: every call answers as the specification does and
keeps the refinement. -/
theorem Represents.call (rep : Represents c a) (op : LruCall K T) :
    (c.call op).2 = (lruCall a op).2 ∧ Represents (c.call op).1 (lruCall a op).1 := by
  cases op with
  | find key =>
    obtain ⟨read, -, moved⟩ := rep.find key
    exact ⟨by rw [LruCache.call, lruCall, read], moved⟩
  | contains key =>
    obtain ⟨-, found, moved⟩ := rep.find key
    exact ⟨by simp only [LruCache.call, lruCall, LruCache.contains, found], moved⟩
  | insertOrAssign key value =>
    obtain ⟨evicts, assigned⟩ := rep.insertOrAssign key value
    exact ⟨by rw [LruCache.call, lruCall, evicts], assigned⟩
  | tryEmplace key value => exact rep.tryEmplace key value
  | extract key => exact rep.extract key
  | erase key => exact rep.erase key

end Refinement

/-! ## The specification's answers -/

section SpecFacts

variable {K T : Type} [DecidableEq K] {t : Theory.LruCache K T} {key : K}

/-- In the specification, `find`, `contains`, `try_emplace` and
`insert_or_assign` of a key present move it to the front, and
`insert_or_assign` gives it the new value. -/
theorem lruCall_present_front (present : key ∈ t.keys) (value : T) :
    ∃ old, (lruCall t (.find key)).1.listMap.entries = (key, old) :: t.listMap.entries.filter (·.1 ≠ key) ∧
      (lruCall t (.contains key)).1.listMap.entries = (key, old) :: t.listMap.entries.filter (·.1 ≠ key) ∧
      (lruCall t (.tryEmplace key value)).1.listMap.entries =
        (key, old) :: t.listMap.entries.filter (·.1 ≠ key) ∧
      (lruCall t (.insertOrAssign key value)).1.listMap.entries =
        (key, value) :: t.listMap.entries.filter (·.1 ≠ key) := by
  obtain ⟨old, found⟩ := Option.isSome_iff_exists.mp ((t.listMap.lookup_isSome_iff key).mpr present)
  have moved := Theory.ListMap.entries_moveToFront found
  refine ⟨old, moved, moved, ?_, ?_⟩
  · simp only [lruCall, Theory.LruCache.tryEmplace, if_pos present]
    exact moved
  · simp only [lruCall, Theory.LruCache.insertOrAssign, if_pos present]
    exact Theory.ListMap.entries_modify_head moved _

/-- In the specification, a new key at capacity evicts the last pair, and the
call returns exactly it. -/
theorem lruCall_evicts_last (absent : key ∉ t.keys) (full : t.listMap.size = t.capacity) (value : T) :
    (lruCall t (.insertOrAssign key value)).2 = .entry t.listMap.entries.getLast? ∧
      (lruCall t (.insertOrAssign key value)).1.listMap.entries = (key, value) :: t.listMap.entries.dropLast ∧
      (lruCall t (.tryEmplace key value)).2 = .emplaced (some (key, value)) true t.listMap.entries.getLast? ∧
      (lruCall t (.tryEmplace key value)).1.listMap.entries = (key, value) :: t.listMap.entries.dropLast := by
  have room : key ∉ t.evictIfFull.keys := fun mem => absent (t.mem_keys_evictIfFull mem)
  have evicts : evicted t = t.listMap.entries.getLast? := if_pos full
  have dropped : t.evictIfFull.entries = t.listMap.entries.dropLast := by
    rw [Theory.LruCache.evictIfFull, if_pos full, Theory.ListMap.entries_dropLast]
  simp only [lruCall, Theory.LruCache.insertOrAssign, Theory.LruCache.tryEmplace, if_neg absent,
    evicts, Theory.ListMap.entries_pushFront room, dropped, and_self]

end SpecFacts

/-! ## Any sequence of calls -/

/-- **`LruCache` refines the LRU map.**  From any capacity of at least one,
over any sequence of calls, the cache answers every call as the LRU map does,
and its nodes hold the map's pairs, most recently used first, with distinct
keys, at most `capacity` of them, and `key_map_` mapping each key to its node.
The LRU map moves a key it is asked about to the front, and a new key at
capacity evicts and returns the last pair. -/
theorem lru_cache_refines_lru_map {K T : Type} [DecidableEq K] {capacity : ℕ} (positive : 1 ≤ capacity)
    (calls : List (LruCall K T)) :
    ((replies LruCache.call (LruCache.new capacity) calls).2 =
        (replies lruCall ⟨capacity, .empty⟩ calls).2 ∧
      Represents (replies LruCache.call (LruCache.new capacity) calls).1
        (replies lruCall ⟨capacity, .empty⟩ calls).1) ∧
    (∀ (t : Theory.LruCache K T) key value, key ∈ t.keys →
      ∃ old, (lruCall t (.find key)).1.listMap.entries = (key, old) :: t.listMap.entries.filter (·.1 ≠ key) ∧
        (lruCall t (.contains key)).1.listMap.entries = (key, old) :: t.listMap.entries.filter (·.1 ≠ key) ∧
        (lruCall t (.tryEmplace key value)).1.listMap.entries =
          (key, old) :: t.listMap.entries.filter (·.1 ≠ key) ∧
        (lruCall t (.insertOrAssign key value)).1.listMap.entries =
          (key, value) :: t.listMap.entries.filter (·.1 ≠ key)) ∧
    (∀ (t : Theory.LruCache K T) key value, key ∉ t.keys → t.listMap.size = t.capacity →
      (lruCall t (.insertOrAssign key value)).2 = .entry t.listMap.entries.getLast? ∧
        (lruCall t (.insertOrAssign key value)).1.listMap.entries = (key, value) :: t.listMap.entries.dropLast ∧
        (lruCall t (.tryEmplace key value)).2 = .emplaced (some (key, value)) true t.listMap.entries.getLast? ∧
        (lruCall t (.tryEmplace key value)).1.listMap.entries = (key, value) :: t.listMap.entries.dropLast) :=
  ⟨replies_simulation Represents (fun _ => True) (fun _ _ op _ rep => rep.call op) calls _ _
      (fun _ _ => trivial) (represents_new positive),
    fun _ _ value present => lruCall_present_front present value,
    fun _ _ value absent full => lruCall_evicts_last absent full value⟩

/-- With capacity 2: insert 1 and 2, find 1, insert 3 (evicting 2), erase 1 and
ask for 2. -/
theorem lru_cache_refines_lru_map_two :
    1 ≤ 2 ∧
      (replies LruCache.call (LruCache.new 2 : LruCache ℕ ℕ)
        [.insertOrAssign 1 10, .insertOrAssign 2 20, .find 1, .insertOrAssign 3 30, .erase 1,
          .contains 2]).2 =
        [.entry none, .entry none, .entry (some (1, 10)), .entry (some (2, 20)), .entry none,
          .present false] := by
  refine ⟨by decide, ?_⟩
  rw [(lru_cache_refines_lru_map (by decide) _).1.1]
  decide

end Bluedroid.Common
