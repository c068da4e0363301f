import Mathlib.Data.List.Basic

/-!
# Theory.ListMap -- an insertion-ordered map, and an LRU cache over it

A `ListMap` is a list of key-value pairs in which every key occurs once, kept
in the order the keys were inserted: assigning to a key already present
changes its value in place, a new key goes at the end.  The key invariant is a
field, so no operation can build a map with a key twice.

An `LruCache` is a `ListMap` ordered most recently used first, with a
capacity: inserting a new key when it is full evicts the last entry, and
looking a key up moves it to the front.

Proofs about a structure kept in such maps use two kinds of facts: which keys
an operation leaves (`mem_keys_*`), and that a property of every entry
survives it (`All.*`).
-/

namespace Bluedroid.Theory

set_option autoImplicit false
set_option linter.unusedSectionVars false

/-- A map that keeps its keys, each once, in insertion order. -/
structure ListMap (K V : Type) where
  entries : List (K × V)
  nodup : (entries.map Prod.fst).Nodup

namespace ListMap

variable {K V : Type} [DecidableEq K]

instance [DecidableEq V] : DecidableEq (ListMap K V) := fun a b =>
  decidable_of_iff (a.entries = b.entries) (by cases a; cases b; simp)

def keys (m : ListMap K V) : List K := m.entries.map Prod.fst

def empty : ListMap K V := ⟨[], List.nodup_nil⟩

def size (m : ListMap K V) : ℕ := m.entries.length

def lookup (m : ListMap K V) (k : K) : Option V := m.entries.lookup k

/-- Every entry has `p`. -/
def All (m : ListMap K V) (p : K → V → Prop) : Prop := ∀ e ∈ m.entries, p e.1 e.2

/-! ## Operations -/

/-- Change every value, by a function of its key. -/
def mapValues (m : ListMap K V) (f : K → V → V) : ListMap K V :=
  ⟨m.entries.map (fun e => (e.1, f e.1 e.2)), by
    have same : (m.entries.map (fun e => (e.1, f e.1 e.2))).map Prod.fst = m.entries.map Prod.fst := by
      simp [Function.comp_def]
    rw [same]
    exact m.nodup⟩

/-- Keep the entries with `p`. -/
def filter (m : ListMap K V) (p : K → V → Bool) : ListMap K V :=
  ⟨m.entries.filter (fun e => p e.1 e.2),
    m.nodup.sublist ((List.filter_sublist).map Prod.fst)⟩

/-- Change the value of `k`, where it is, if it is there. -/
def modify (m : ListMap K V) (k : K) (f : V → V) : ListMap K V :=
  m.mapValues fun k' v => if k' = k then f v else v

def erase (m : ListMap K V) (k : K) : ListMap K V := m.filter fun k' _ => k' ≠ k

/-- Take `k` out, with its value. -/
def extract (m : ListMap K V) (k : K) : Option V × ListMap K V := (m.lookup k, m.erase k)

/-- `insert_or_assign`: assign in place, or append. -/
def insertOrAssign (m : ListMap K V) (k : K) (v : V) : ListMap K V :=
  if h : k ∈ m.keys then m.modify k fun _ => v
  else ⟨m.entries ++ [(k, v)], by
    rw [List.map_append, List.nodup_append]
    refine ⟨m.nodup, by simp, fun a mem b single same => h ?_⟩
    simp only [List.map_cons, List.map_nil, List.mem_singleton] at single
    subst single same
    exact mem⟩

/-- `try_emplace_back`: append, unless the key is there. -/
def tryEmplaceBack (m : ListMap K V) (k : K) (v : V) : ListMap K V :=
  if k ∈ m.keys then m else m.insertOrAssign k v

/-- Put `k` first, unless it is there. -/
def pushFront (m : ListMap K V) (k : K) (v : V) : ListMap K V :=
  if h : k ∈ m.keys then m
  else ⟨(k, v) :: m.entries, List.nodup_cons.mpr ⟨by simpa [keys] using h, m.nodup⟩⟩

/-- Drop the last entry. -/
def dropLast (m : ListMap K V) : ListMap K V :=
  ⟨m.entries.dropLast, m.nodup.sublist ((List.dropLast_sublist _).map Prod.fst)⟩

/-- Move `k` to the front. -/
def moveToFront (m : ListMap K V) (k : K) : ListMap K V :=
  match m.lookup k with
  | none => m
  | some v => (m.erase k).pushFront k v

/-! ## Keys -/

@[simp] theorem keys_empty : (empty : ListMap K V).keys = [] := rfl

@[simp] theorem mem_keys_mapValues (m : ListMap K V) (f : K → V → V) (x : K) :
    x ∈ (m.mapValues f).keys ↔ x ∈ m.keys := by
  simp [keys, mapValues, Function.comp_def]

theorem mem_keys_filter (m : ListMap K V) (p : K → V → Bool) {x : K} :
    x ∈ (m.filter p).keys → x ∈ m.keys := by
  simp only [keys, filter, List.mem_map, List.mem_filter]
  rintro ⟨e, ⟨mem, _⟩, rfl⟩
  exact ⟨e, mem, rfl⟩

@[simp] theorem mem_keys_modify (m : ListMap K V) (k : K) (f : V → V) (x : K) :
    x ∈ (m.modify k f).keys ↔ x ∈ m.keys :=
  mem_keys_mapValues m _ x

@[simp] theorem mem_keys_erase (m : ListMap K V) (k x : K) :
    x ∈ (m.erase k).keys ↔ x ∈ m.keys ∧ x ≠ k := by
  simp only [keys, erase, filter, List.mem_map, List.mem_filter, decide_eq_true_eq]
  constructor
  · rintro ⟨e, ⟨mem, ne⟩, rfl⟩
    exact ⟨⟨e, mem, rfl⟩, ne⟩
  · rintro ⟨⟨e, mem, rfl⟩, ne⟩
    exact ⟨e, ⟨mem, ne⟩, rfl⟩

@[simp] theorem mem_keys_insertOrAssign (m : ListMap K V) (k : K) (v : V) (x : K) :
    x ∈ (m.insertOrAssign k v).keys ↔ x ∈ m.keys ∨ x = k := by
  unfold insertOrAssign
  split
  · case isTrue present =>
    rw [mem_keys_modify]
    exact (or_iff_left_of_imp fun same => same ▸ present).symm
  · simp [keys]

@[simp] theorem mem_keys_tryEmplaceBack (m : ListMap K V) (k : K) (v : V) (x : K) :
    x ∈ (m.tryEmplaceBack k v).keys ↔ x ∈ m.keys ∨ x = k := by
  unfold tryEmplaceBack
  split
  · case isTrue present => exact (or_iff_left_of_imp fun same => same ▸ present).symm
  · exact mem_keys_insertOrAssign m k v x

@[simp] theorem mem_keys_pushFront (m : ListMap K V) (k : K) (v : V) (x : K) :
    x ∈ (m.pushFront k v).keys ↔ x ∈ m.keys ∨ x = k := by
  unfold pushFront
  split
  · case isTrue present => exact (or_iff_left_of_imp fun same => same ▸ present).symm
  · simp only [keys, List.map_cons, List.mem_cons]
    exact or_comm

theorem mem_keys_dropLast (m : ListMap K V) {x : K} : x ∈ m.dropLast.keys → x ∈ m.keys := by
  simp only [keys, dropLast]
  exact fun mem => ((List.dropLast_sublist _).map Prod.fst).subset mem

theorem mem_keys_of_lookup {m : ListMap K V} {k : K} {v : V} (found : m.lookup k = some v) :
    k ∈ m.keys := by
  by_contra absent
  have none : m.lookup k = none := by
    refine List.lookup_eq_none_iff.mpr fun e mem => ?_
    simp only [bne_iff_ne, ne_eq]
    intro same
    exact absent (List.mem_map.mpr ⟨e, mem, same.symm⟩)
  rw [none] at found
  cases found

@[simp] theorem mem_keys_moveToFront (m : ListMap K V) (k x : K) :
    x ∈ (m.moveToFront k).keys ↔ x ∈ m.keys := by
  unfold moveToFront
  split
  · rfl
  · case h_2 v found =>
    have present := mem_keys_of_lookup found
    simp only [mem_keys_pushFront, mem_keys_erase]
    constructor
    · rintro (⟨mem, _⟩ | rfl)
      · exact mem
      · exact present
    · intro mem
      by_cases same : x = k
      · exact Or.inr same
      · exact Or.inl ⟨mem, same⟩

@[simp] theorem size_eq_zero_iff (m : ListMap K V) : m.size = 0 ↔ m.keys = [] := by
  simp [size, keys]

theorem lookup_isSome_iff (m : ListMap K V) (k : K) : (m.lookup k).isSome ↔ k ∈ m.keys := by
  obtain ⟨entries, nodup⟩ := m
  simp only [lookup, keys]
  clear nodup
  induction entries with
  | nil => simp
  | cons e es ih =>
    obtain ⟨k', v⟩ := e
    by_cases same : k = k'
    · simp [same]
    · simp [List.lookup_cons, beq_false_of_ne same, same, ih]

theorem lookup_eq_none_iff (m : ListMap K V) (k : K) : m.lookup k = none ↔ k ∉ m.keys := by
  rw [← lookup_isSome_iff, Option.not_isSome_iff_eq_none]

theorem lookup_eq_some_of_mem {m : ListMap K V} {k : K} {v : V} (mem : (k, v) ∈ m.entries) :
    m.lookup k = some v := by
  obtain ⟨entries, nodup⟩ := m
  simp only [lookup] at mem ⊢
  induction entries with
  | nil => cases mem
  | cons e es ih =>
    obtain ⟨k', v'⟩ := e
    rw [List.map_cons, List.nodup_cons] at nodup
    rcases List.mem_cons.mp mem with same | later
    · cases same
      simp
    · -- `k` is in the rest, so it is not the first key
      have other : k ≠ k' := by
        rintro rfl
        exact nodup.1 (List.mem_map.mpr ⟨(k, v), later, rfl⟩)
      simp [List.lookup_cons, beq_false_of_ne other, ih nodup.2 later]

theorem lookup_mapValues (m : ListMap K V) (f : K → V → V) (k : K) :
    (m.mapValues f).lookup k = (m.lookup k).map (f k) := by
  obtain ⟨entries, nodup⟩ := m
  simp only [lookup, mapValues]
  clear nodup
  induction entries with
  | nil => rfl
  | cons e es ih =>
    obtain ⟨k', v⟩ := e
    by_cases same : k = k'
    · subst same
      simp
    · simp [List.lookup_cons, beq_false_of_ne same, ih]

theorem lookup_modify_self (m : ListMap K V) (k : K) (f : V → V) :
    (m.modify k f).lookup k = (m.lookup k).map f := by
  simp [modify, lookup_mapValues]

theorem lookup_pushFront_self {m : ListMap K V} {k : K} (absent : k ∉ m.keys) (v : V) :
    (m.pushFront k v).lookup k = some v := by
  simp [pushFront, absent, lookup]

theorem lookup_moveToFront_self (m : ListMap K V) (k : K) :
    (m.moveToFront k).lookup k = m.lookup k := by
  unfold moveToFront
  split
  · rfl
  · case h_2 v found =>
    rw [found]
    exact lookup_pushFront_self (by simp) v

/-! ## Entries -/

theorem ext {a b : ListMap K V} (same : a.entries = b.entries) : a = b := by
  cases a
  cases b
  cases same
  rfl

theorem eq_empty_of_keys {m : ListMap K V} (none : m.keys = []) : m = empty :=
  ext (List.map_eq_nil_iff.mp none)

theorem insertOrAssign_of_not_mem {m : ListMap K V} {k : K} (absent : k ∉ m.keys) (v : V) :
    (m.insertOrAssign k v).entries = m.entries ++ [(k, v)] := by
  simp [insertOrAssign, absent]

theorem tryEmplaceBack_of_mem {m : ListMap K V} {k : K} (present : k ∈ m.keys) (v : V) :
    m.tryEmplaceBack k v = m := by
  simp [tryEmplaceBack, present]

theorem tryEmplaceBack_of_not_mem {m : ListMap K V} {k : K} (absent : k ∉ m.keys) (v : V) :
    m.tryEmplaceBack k v = m.insertOrAssign k v := by
  simp [tryEmplaceBack, absent]

@[simp] theorem entries_erase (m : ListMap K V) (k : K) :
    (m.erase k).entries = m.entries.filter fun e => e.1 ≠ k := rfl

@[simp] theorem entries_dropLast (m : ListMap K V) : m.dropLast.entries = m.entries.dropLast := rfl

theorem erase_of_not_mem {m : ListMap K V} {k : K} (absent : k ∉ m.keys) : m.erase k = m :=
  ext (List.filter_eq_self.mpr fun e mem => by
    simpa using fun same => absent (List.mem_map.mpr ⟨e, mem, same⟩))

theorem moveToFront_of_not_mem {m : ListMap K V} {k : K} (absent : k ∉ m.keys) :
    m.moveToFront k = m := by
  rw [moveToFront, (lookup_eq_none_iff m k).mpr absent]

theorem entries_pushFront {m : ListMap K V} {k : K} (absent : k ∉ m.keys) (v : V) :
    (m.pushFront k v).entries = (k, v) :: m.entries := by
  simp [pushFront, absent]

/-- Moving a key to the front takes its entry out and puts it first. -/
theorem entries_moveToFront {m : ListMap K V} {k : K} {v : V} (found : m.lookup k = some v) :
    (m.moveToFront k).entries = (k, v) :: m.entries.filter fun e => e.1 ≠ k := by
  rw [moveToFront, found, entries_pushFront (by simp), entries_erase]

/-- Changing the value of the first key of a map changes only its first entry. -/
theorem entries_modify_head {m : ListMap K V} {k : K} {v : V} {rest : List (K × V)}
    (first : m.entries = (k, v) :: rest) (f : V → V) :
    (m.modify k f).entries = (k, f v) :: rest := by
  have nodup := m.nodup
  rw [first, List.map_cons, List.nodup_cons] at nodup
  have others : ∀ e ∈ rest, e.1 ≠ k := fun e mem same =>
    nodup.1 (List.mem_map.mpr ⟨e, mem, same⟩)
  simp only [modify, mapValues, first, List.map_cons, if_true, List.cons.injEq, true_and]
  conv_rhs => rw [← List.map_id rest]
  exact List.map_congr_left fun e mem => by simp [others e mem]

/-- Assigning a value and then changing it assigns the changed value. -/
theorem modify_insertOrAssign (m : ListMap K V) (k : K) (v : V) (f : V → V) :
    (m.insertOrAssign k v).modify k f = m.insertOrAssign k (f v) := by
  apply ext
  by_cases present : k ∈ m.keys
  · simp only [insertOrAssign, present, dite_true, modify, mapValues, List.map_map]
    refine List.map_congr_left fun e _ => ?_
    by_cases same : e.1 = k <;> simp [same]
  · have others : ∀ e ∈ m.entries, e.1 ≠ k := fun e mem same =>
      present (List.mem_map.mpr ⟨e, mem, same⟩)
    simp only [modify, mapValues, insertOrAssign_of_not_mem present, List.map_append,
      List.map_cons, List.map_nil, if_pos]
    congr 1
    conv_rhs => rw [← List.map_id m.entries]
    exact List.map_congr_left fun e mem => by simp [others e mem]

/-- Assigning fresh keys one after another appends them. -/
theorem foldl_insertOrAssign (l : List (K × V)) (acc : ListMap K V)
    (fresh : ∀ e ∈ l, e.1 ∉ acc.keys) (nodup : (l.map Prod.fst).Nodup) :
    (l.foldl (fun m e => m.insertOrAssign e.1 e.2) acc).entries = acc.entries ++ l := by
  induction l generalizing acc with
  | nil => simp
  | cons e l ih =>
    rw [List.map_cons, List.nodup_cons] at nodup
    rw [List.foldl_cons, ih, insertOrAssign_of_not_mem (fresh e List.mem_cons_self),
      List.append_assoc, List.singleton_append]
    · intro e' mem present
      rcases (acc.mem_keys_insertOrAssign e.1 e.2 e'.1).mp present with old | same
      · exact fresh e' (List.mem_cons_of_mem e mem) old
      · exact nodup.1 (same ▸ List.mem_map.mpr ⟨e', mem, rfl⟩)
    · exact nodup.2

/-- A map is its entries assigned in order to the empty map. -/
theorem foldl_insertOrAssign_self (m : ListMap K V) :
    m.entries.foldl (fun acc e => acc.insertOrAssign e.1 e.2) empty = m :=
  ext (by rw [foldl_insertOrAssign _ _ (by simp) m.nodup]; rfl)

/-! ## Properties of every entry -/

namespace All

variable {m : ListMap K V} {p : K → V → Prop}

theorem empty (p : K → V → Prop) : (ListMap.empty : ListMap K V).All p := by
  simp [ListMap.All, ListMap.empty]

theorem mapValues (all : m.All p) (f : K → V → V) (keeps : ∀ k v, p k v → p k (f k v)) :
    (m.mapValues f).All p := by
  simp only [ListMap.All, ListMap.mapValues, List.mem_map]
  rintro _ ⟨e, mem, rfl⟩
  exact keeps e.1 e.2 (all e mem)

theorem filter (all : m.All p) (q : K → V → Bool) : (m.filter q).All p := by
  simp only [ListMap.All, ListMap.filter, List.mem_filter]
  exact fun e mem => all e mem.1

theorem modify (all : m.All p) (k : K) (f : V → V) (keeps : ∀ v, p k v → p k (f v)) :
    (m.modify k f).All p := by
  refine all.mapValues _ fun k' v holds => ?_
  split
  · case isTrue same =>
    subst same
    exact keeps v holds
  · exact holds

theorem erase (all : m.All p) (k : K) : (m.erase k).All p := all.filter _

theorem insertOrAssign (all : m.All p) (k : K) (v : V) (new : p k v) :
    (m.insertOrAssign k v).All p := by
  unfold ListMap.insertOrAssign
  split
  · exact all.modify k _ fun _ _ => new
  · simp only [ListMap.All, List.mem_append, List.mem_singleton]
    rintro e (mem | rfl)
    · exact all e mem
    · exact new

theorem tryEmplaceBack (all : m.All p) (k : K) (v : V) (new : p k v) :
    (m.tryEmplaceBack k v).All p := by
  unfold ListMap.tryEmplaceBack
  split
  · exact all
  · exact all.insertOrAssign k v new

theorem pushFront (all : m.All p) (k : K) (v : V) (new : p k v) : (m.pushFront k v).All p := by
  unfold ListMap.pushFront
  split
  · exact all
  · simp only [ListMap.All, List.mem_cons]
    rintro e (rfl | mem)
    · exact new
    · exact all e mem

theorem dropLast (all : m.All p) : m.dropLast.All p :=
  fun e mem => all e ((List.dropLast_sublist _).subset mem)

theorem of_lookup (all : m.All p) {k : K} {v : V} (found : m.lookup k = some v) : p k v := by
  have mem : (k, v) ∈ m.entries := by
    obtain ⟨before, after, split, _⟩ := List.lookup_eq_some_iff.mp found
    rw [split]
    simp
  exact all _ mem

theorem imp (all : m.All p) {q : K → V → Prop} (weaker : ∀ k v, p k v → q k v) : m.All q :=
  fun e mem => weaker e.1 e.2 (all e mem)

/-- Changing the value of `k` turns `q` into `p`, where `q` gives `p` at
every other key and the change gives it at `k`. -/
theorem modify_to {q : K → V → Prop} (all : m.All q) (k : K) (f : V → V)
    (others : ∀ k' v, k' ≠ k → q k' v → p k' v) (changed : ∀ v, q k v → p k (f v)) :
    (m.modify k f).All p := by
  simp only [ListMap.All, ListMap.modify, ListMap.mapValues, List.mem_map]
  rintro _ ⟨⟨k', v⟩, mem, rfl⟩
  by_cases same : k' = k
  · subst same
    simpa using changed v (all _ mem)
  · simpa [same] using others k' v same (all _ mem)

/-- Emplacing `k` and then changing its value keeps what holds of every entry,
when the change makes it hold whatever `k` held, the emplaced value included. -/
theorem tryEmplaceBack_modify (all : m.All p) (k : K) (v₀ : V) (f : V → V)
    (changed : ∀ v, (p k v ∨ v = v₀) → p k (f v)) : ((m.tryEmplaceBack k v₀).modify k f).All p := by
  have emplaced : (m.tryEmplaceBack k v₀).All fun k' v => p k' v ∨ (k' = k ∧ v = v₀) :=
    (all.imp fun _ _ => Or.inl).tryEmplaceBack k v₀ (Or.inr ⟨rfl, rfl⟩)
  refine emplaced.modify_to k f ?_ ?_
  · rintro k' v other (holds | ⟨same, _⟩)
    · exact holds
    · exact absurd same other
  · rintro v (holds | ⟨_, emplaced⟩)
    · exact changed v (Or.inl holds)
    · exact changed v (Or.inr emplaced)

theorem exists_of_mem_keys (all : m.All p) {k : K} (mem : k ∈ m.keys) : ∃ v, p k v := by
  obtain ⟨e, entry, rfl⟩ := List.mem_map.mp mem
  exact ⟨e.2, all e entry⟩

theorem moveToFront (all : m.All p) (k : K) : (m.moveToFront k).All p := by
  unfold ListMap.moveToFront
  split
  · exact all
  · case h_2 v found => exact (all.erase k).pushFront k v (all.of_lookup found)

end All

end ListMap

/-- A `ListMap` ordered most recently used first, holding at most `capacity`
entries: inserting a new key into a full cache evicts the last one. -/
structure LruCache (K V : Type) where
  capacity : ℕ
  listMap : ListMap K V

namespace LruCache

variable {K V : Type} [DecidableEq K]

instance [DecidableEq V] : DecidableEq (LruCache K V) := fun a b =>
  decidable_of_iff (a.capacity = b.capacity ∧ a.listMap = b.listMap) (by cases a; cases b; simp)

def keys (c : LruCache K V) : List K := c.listMap.keys

/-- `find`: the value, with the key moved to the front. -/
def find (c : LruCache K V) (k : K) : Option V × LruCache K V :=
  (c.listMap.lookup k, { c with listMap := c.listMap.moveToFront k })

/-- Room for a new key: the last entry goes when the cache is full. -/
def evictIfFull (c : LruCache K V) : ListMap K V :=
  if c.listMap.size = c.capacity then c.listMap.dropLast else c.listMap

/-- `insert_or_assign`: a key present is moved to the front and assigned; a new
one goes in front, after eviction. -/
def insertOrAssign (c : LruCache K V) (k : K) (v : V) : LruCache K V :=
  if k ∈ c.keys then { c with listMap := (c.listMap.moveToFront k).modify k fun _ => v }
  else { c with listMap := c.evictIfFull.pushFront k v }

/-- `try_emplace`: a key present is only moved to the front. -/
def tryEmplace (c : LruCache K V) (k : K) (v : V) : LruCache K V :=
  if k ∈ c.keys then { c with listMap := c.listMap.moveToFront k }
  else { c with listMap := c.evictIfFull.pushFront k v }

def extract (c : LruCache K V) (k : K) : Option V × LruCache K V :=
  (c.listMap.lookup k, { c with listMap := c.listMap.erase k })

/-- Change an entry in place, through an iterator: the order does not change. -/
def modify (c : LruCache K V) (k : K) (f : V → V) : LruCache K V :=
  { c with listMap := c.listMap.modify k f }

def All (c : LruCache K V) (p : K → V → Prop) : Prop := c.listMap.All p

@[simp] theorem mem_keys_find (c : LruCache K V) (k x : K) :
    x ∈ (c.find k).2.keys ↔ x ∈ c.keys :=
  ListMap.mem_keys_moveToFront c.listMap k x

@[simp] theorem mem_keys_extract (c : LruCache K V) (k x : K) :
    x ∈ (c.extract k).2.keys ↔ x ∈ c.keys ∧ x ≠ k :=
  ListMap.mem_keys_erase c.listMap k x

@[simp] theorem mem_keys_modify (c : LruCache K V) (k : K) (f : V → V) (x : K) :
    x ∈ (c.modify k f).keys ↔ x ∈ c.keys :=
  ListMap.mem_keys_modify c.listMap k f x

theorem mem_keys_evictIfFull (c : LruCache K V) {x : K} : x ∈ c.evictIfFull.keys → x ∈ c.keys := by
  unfold evictIfFull
  split
  · exact ListMap.mem_keys_dropLast c.listMap
  · exact id

theorem mem_keys_insertOrAssign (c : LruCache K V) (k : K) (v : V) {x : K} :
    x ∈ (c.insertOrAssign k v).keys → x ∈ c.keys ∨ x = k := by
  unfold insertOrAssign keys
  split
  · simp only [ListMap.mem_keys_modify, ListMap.mem_keys_moveToFront]
    exact Or.inl
  · simp only [ListMap.mem_keys_pushFront]
    rintro (mem | rfl)
    · exact Or.inl (c.mem_keys_evictIfFull mem)
    · exact Or.inr rfl

theorem mem_keys_tryEmplace (c : LruCache K V) (k : K) (v : V) {x : K} :
    x ∈ (c.tryEmplace k v).keys → x ∈ c.keys ∨ x = k := by
  unfold tryEmplace keys
  split
  · simp only [ListMap.mem_keys_moveToFront]
    exact Or.inl
  · simp only [ListMap.mem_keys_pushFront]
    rintro (mem | rfl)
    · exact Or.inl (c.mem_keys_evictIfFull mem)
    · exact Or.inr rfl

theorem All.insertOrAssign {c : LruCache K V} {p : K → V → Prop} (all : c.All p) (k : K) (v : V)
    (new : p k v) : (c.insertOrAssign k v).All p := by
  unfold LruCache.insertOrAssign LruCache.All
  split
  · exact (all.moveToFront k).modify k _ fun _ _ => new
  · refine ListMap.All.pushFront ?_ k v new
    unfold evictIfFull
    split
    · exact all.dropLast
    · exact all

theorem All.tryEmplace {c : LruCache K V} {p : K → V → Prop} (all : c.All p) (k : K) (v : V)
    (new : p k v) : (c.tryEmplace k v).All p := by
  unfold LruCache.tryEmplace LruCache.All
  split
  · exact all.moveToFront k
  · refine ListMap.All.pushFront ?_ k v new
    unfold evictIfFull
    split
    · exact all.dropLast
    · exact all

theorem All.find {c : LruCache K V} {p : K → V → Prop} (all : c.All p) (k : K) :
    (c.find k).2.All p :=
  ListMap.All.moveToFront all k

theorem All.extract {c : LruCache K V} {p : K → V → Prop} (all : c.All p) (k : K) :
    (c.extract k).2.All p :=
  ListMap.All.erase all k

theorem All.of_lookup {c : LruCache K V} {p : K → V → Prop} (all : c.All p) {k : K} {v : V}
    (found : c.listMap.lookup k = some v) : p k v :=
  ListMap.All.of_lookup all found

/-- `find`, and `try_emplace` when it fails, then a change of the value: what
holds of every entry still does, when the change makes it hold whatever `k`
held, the emplaced value included. -/
theorem All.emplace_modify {c : LruCache K V} {p : K → V → Prop} (all : c.All p) (k : K) (v₀ : V)
    (f : V → V) (changed : ∀ v, (p k v ∨ v = v₀) → p k (f v)) :
    ((if k ∈ c.keys then c else c.tryEmplace k v₀).modify k f).All p := by
  have emplaced : (if k ∈ c.keys then c else c.tryEmplace k v₀).All
      fun k' v => p k' v ∨ (k' = k ∧ v = v₀) := by
    have weaker : c.All fun k' v => p k' v ∨ (k' = k ∧ v = v₀) :=
      ListMap.All.imp all fun _ _ => Or.inl
    split
    · exact weaker
    · exact weaker.tryEmplace k v₀ (Or.inr ⟨rfl, rfl⟩)
  refine ListMap.All.modify_to emplaced k f ?_ ?_
  · rintro k' v other (holds | ⟨same, _⟩)
    · exact holds
    · exact absurd same other
  · rintro v (holds | ⟨_, emplaced⟩)
    · exact changed v (Or.inl holds)
    · exact changed v (Or.inr emplaced)

theorem mem_keys_emplace_modify (c : LruCache K V) (k : K) (v₀ : V) (f : V → V) {x : K}
    (mem : x ∈ ((if k ∈ c.keys then c else c.tryEmplace k v₀).modify k f).keys) :
    x ∈ c.keys ∨ x = k := by
  rw [mem_keys_modify] at mem
  split at mem
  · exact Or.inl mem
  · exact c.mem_keys_tryEmplace k v₀ mem

theorem capacity_emplace_modify (c : LruCache K V) (k : K) (v₀ : V) (f : V → V) :
    ((if k ∈ c.keys then c else c.tryEmplace k v₀).modify k f).capacity = c.capacity := by
  unfold modify tryEmplace
  split <;> rfl

theorem lookup_find_self (c : LruCache K V) (k : K) :
    (c.find k).2.listMap.lookup k = c.listMap.lookup k :=
  ListMap.lookup_moveToFront_self c.listMap k

theorem lookup_emplace_modify_self (c : LruCache K V) (k : K) (v₀ : V) (f : V → V) :
    ((if k ∈ c.keys then c else c.tryEmplace k v₀).modify k f).listMap.lookup k =
      some (f ((c.listMap.lookup k).getD v₀)) := by
  split
  · case isTrue present =>
    obtain ⟨w, found⟩ := Option.isSome_iff_exists.mp ((c.listMap.lookup_isSome_iff k).mpr present)
    simp [LruCache.modify, ListMap.lookup_modify_self, found]
  · case isFalse absent =>
    have none : c.listMap.lookup k = none := (c.listMap.lookup_eq_none_iff k).mpr absent
    simp only [LruCache.modify, tryEmplace, if_neg absent, ListMap.lookup_modify_self, none]
    rw [ListMap.lookup_pushFront_self (fun mem => absent (c.mem_keys_evictIfFull mem))]
    rfl

theorem lookup_insertOrAssign_self (c : LruCache K V) (k : K) (v : V) :
    (c.insertOrAssign k v).listMap.lookup k = some v := by
  unfold insertOrAssign
  split
  · case isTrue present =>
    have moved : ((c.listMap.moveToFront k).lookup k).isSome := by
      rw [ListMap.lookup_isSome_iff, ListMap.mem_keys_moveToFront]
      exact present
    obtain ⟨w, found⟩ := Option.isSome_iff_exists.mp moved
    simp [ListMap.lookup_modify_self, found]
  · case isFalse absent =>
    exact ListMap.lookup_pushFront_self (fun mem => absent (c.mem_keys_evictIfFull mem)) v

end LruCache

end Bluedroid.Theory
