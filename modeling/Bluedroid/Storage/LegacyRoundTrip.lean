import Bluedroid.Storage.LegacyConfigFile
import Mathlib.Data.List.TakeWhile

/-!
# Storage.LegacyRoundTrip -- reading back what was written

`Read` replays the lines of each section through `SetProperty`.  A section that
is not an address is rebuilt in `information_sections_` property by property.
A persistent device goes through three phases: its properties before the first
persistent one land in `temporary_devices_` (`setProperties_temporary`), the
first persistent property moves what was gathered to `persistent_devices_`
(`setProperty_promoted`), and the rest go there (`setProperties_persistent`).
Every persistent device of a reachable cache holds a persistent property
(`CacheInv`), so each is promoted and `temporary_devices_` ends empty.

The round trip (`read_serialize_round_trip`) needs the file format's conditions
on names and values and one more: no property name starts with a NUL character,
since `Read` skips such a line (`read_drops_nul_property`).
-/

namespace Bluedroid.Storage

open Bluedroid.Theory

set_option autoImplicit false

namespace ConfigCache

/-- `SetProperty` of each property in turn, in one section, as `Read` does for
the lines of a section. -/
def setProperties (provider : ParameterProvider) (c : ConfigCache) (name : String) :
    List (String × String) → Option ConfigCache
  | [] => some c
  | property :: properties =>
    (c.setProperty provider name property.1 property.2).bind (·.setProperties provider name properties)

theorem setProperties_append (provider : ParameterProvider) (c : ConfigCache) (name : String)
    (first second : List (String × String)) :
    c.setProperties provider name (first ++ second) =
      (c.setProperties provider name first).bind (·.setProperties provider name second) := by
  induction first generalizing c with
  | nil => rfl
  | cons property first ih =>
    simp only [List.cons_append, setProperties, Option.bind_assoc]
    cases c.setProperty provider name property.1 property.2 with
    | none => rfl
    | some next => exact ih next

end ConfigCache

/-- A property as a line of the file carries it and `SetProperty` takes it. -/
def Carried (property : String × String) : Prop :=
  legacyPropertyName property.1 = true ∧ property.1.toList.head? ≠ some '\x00' ∧
    property.1 ≠ "" ∧ plainText property.2 = true

theorem Carried.newline_free {property : String × String} (carried : Carried property) :
    '\n' ∉ property.1.toList ∧ '\n' ∉ property.2.toList :=
  ⟨(plainText_eq_true.mp (legacyPropertyName_eq_true.mp carried.1).1).1,
    (plainText_eq_true.mp carried.2.2.2).1⟩

/-- The properties a ListMap folds in, in order. -/
abbrev assignAll (acc : Properties) (properties : List (String × String)) : Properties :=
  properties.foldl (fun m property => m.insertOrAssign property.1 property.2) acc

/-! ## The lines of a section -/

variable {provider : ParameterProvider}

theorem readLines_properties (name : String) (properties : List (String × String))
    (carried : ∀ property ∈ properties, Carried property) (cache : ConfigCache)
    (rest : List (List Char)) :
    readLines provider name cache
        (properties.map (fun property => property.1.toList ++ ' ' :: '=' :: ' ' :: property.2.toList) ++
          rest) =
      (cache.setProperties provider name properties).bind (readLines provider name · rest) := by
  induction properties generalizing cache with
  | nil => rfl
  | cons property properties ih =>
    obtain ⟨named, nul, nonempty, plain⟩ := carried property List.mem_cons_self
    rw [List.map_cons, List.cons_append, readLines_property named nul nonempty plain,
      ConfigCache.setProperties]
    cases cache.setProperty provider name property.1 property.2 with
    | none => rfl
    | some next => exact ih (fun other mem => carried other (List.mem_cons_of_mem _ mem)) next

/-- `Read` of a section's lines is `SetProperty` of its properties, in order. -/
theorem readLines_section (sectionName : String) (cache : ConfigCache) (sect : String × Properties)
    (carried : ∀ property ∈ sect.2.entries, Carried property) (rest : List (List Char)) :
    readLines provider sectionName cache (sectionLines sect ++ rest) =
      (cache.setProperties provider sect.1 sect.2.entries).bind (readLines provider sect.1 · rest) := by
  rw [sectionLines, List.cons_append, List.cons_append, readLines_header, List.append_assoc,
    readLines_properties _ _ carried]
  rfl

/-! ## An information section -/

section Information

variable {s : ConfigCache} {name : String}

/-- The properties after the first of a section that is not an address. -/
theorem setProperties_information {base : ListMap String Properties} {acc : Properties}
    (properties : List (String × String)) (carried : ∀ property ∈ properties, Carried property) (device : isDeviceSection name = false)
    (named : name ≠ "") (nameLine : '\n' ∉ name.toList)
    (present : s.informationSections = base.insertOrAssign name acc) :
    s.setProperties provider name properties =
      some { s with informationSections := base.insertOrAssign name (assignAll acc properties) } := by
  induction properties generalizing s acc with
  | nil =>
    rw [assignAll, List.foldl_nil, ← present]
    rfl
  | cons property properties ih =>
    have this := carried property List.mem_cons_self
    have inserted : name ∈ s.informationSections.keys := by simp [present]
    rw [ConfigCache.setProperties, ConfigCache.setProperty_information
      ⟨nameLine, this.newline_free.1, this.newline_free.2⟩ named this.2.2.1 device,
      ListMap.tryEmplaceBack_of_mem inserted, present, ListMap.modify_insertOrAssign]
    exact ih (fun other mem => carried other (List.mem_cons_of_mem _ mem)) rfl

theorem setProperties_information_section {props : Properties} (nonempty : props.keys ≠ [])
    (carried : ∀ property ∈ props.entries, Carried property) (device : isDeviceSection name = false)
    (named : name ≠ "") (nameLine : '\n' ∉ name.toList)
    (absent : name ∉ s.informationSections.keys) :
    s.setProperties provider name props.entries =
      some { s with informationSections := s.informationSections.insertOrAssign name props } := by
  obtain ⟨property, properties, split⟩ := List.exists_cons_of_ne_nil (List.map_eq_nil_iff.not.mp nonempty)
  rw [split] at carried
  have this := carried property List.mem_cons_self
  rw [split, ConfigCache.setProperties, ConfigCache.setProperty_information
    ⟨nameLine, this.newline_free.1, this.newline_free.2⟩ named this.2.2.1 device,
    ListMap.tryEmplaceBack_of_not_mem absent, ListMap.modify_insertOrAssign]
  rw [Option.bind_some, setProperties_information properties
    (fun other mem => carried other (List.mem_cons_of_mem _ mem)) device named nameLine rfl]
  have whole : assignAll ((ListMap.empty : Properties).insertOrAssign property.1 property.2)
      properties = props := by
    rw [← props.foldl_insertOrAssign_self, split]
    rfl
  rw [whole]

end Information

/-! ## A persistent device -/

section Device

variable {s : ConfigCache} {name : String}

/-- A list with an element that fails `p` is its longest prefix satisfying `p`, then the
first element that fails, then the rest. -/
theorem exists_takeWhile_append_cons {α : Type} {p : α → Bool} {l : List α}
    (failing : ∃ x ∈ l, p x = false) :
    ∃ first later, l = l.takeWhile p ++ first :: later ∧ p first = false := by
  have found : l.dropWhile p ≠ [] := by
    intro none
    obtain ⟨x, mem, fails⟩ := failing
    have before : x ∈ l.takeWhile p := by
      rw [← List.append_nil (l.takeWhile p), ← none, List.takeWhile_append_dropWhile]
      exact mem
    simp [List.mem_takeWhile_imp before] at fails
  obtain ⟨first, later, split⟩ := List.exists_cons_of_ne_nil found
  refine ⟨first, later, by rw [← split, List.takeWhile_append_dropWhile], ?_⟩
  simpa [split] using List.head_dropWhile_not p found

/-- Before its first persistent property, a device's property goes to its entry in
`temporary_devices_`: `find`, `try_emplace` if that fails, and the assignment. -/
theorem setProperty_temporary {property : String × String} (carried : Carried property)
    (notKey : property.1 ∉ s.persistentPropertyNames) (device : isDeviceSection name = true)
    (nameLine : '\n' ∉ name.toList) (absent : name ∉ s.persistentDevices.keys)
    (only : ∀ k ∈ s.temporaryDevices.keys, k = name) :
    ∃ t, s.setProperty provider name property.1 property.2 = some { s with temporaryDevices := t } ∧
      t.capacity = s.temporaryDevices.capacity ∧ (∀ k ∈ t.keys, k = name) ∧
      (t.listMap.lookup name).getD .empty =
        ((s.temporaryDevices.listMap.lookup name).getD .empty).insertOrAssign property.1
          property.2 := by
  have notPromoted : ¬(name ∉ s.persistentDevices.keys ∧
      s.isPersistentProperty property.1 = true) := by
    simpa [ConfigCache.isPersistentProperty] using fun _ => notKey
  rw [ConfigCache.setProperty_device ⟨nameLine, carried.newline_free.1, carried.newline_free.2⟩
    carried.2.2.1 device, ConfigCache.promoteDevice, if_neg notPromoted,
    ConfigCache.setDeviceProperty, if_neg absent]
  set found := (s.temporaryDevices.find name).2
  refine ⟨(if name ∈ found.keys then found else found.tryEmplace name .empty).modify name
    (·.insertOrAssign property.1 property.2), rfl, LruCache.capacity_emplace_modify found name _ _,
    ?_, ?_⟩
  · intro k mem
    rcases LruCache.mem_keys_emplace_modify found name _ _ mem with old | same
    · exact only k ((s.temporaryDevices.mem_keys_find name k).mp old)
    · exact same
  · rw [LruCache.lookup_emplace_modify_self, LruCache.lookup_find_self]
    rfl

/-- Before its first persistent property a device's properties go to
`temporary_devices_`, where it is the only device. -/
theorem setProperties_temporary (properties : List (String × String))
    (carried : ∀ property ∈ properties, Carried property)
    (notKey : ∀ property ∈ properties, property.1 ∉ s.persistentPropertyNames)
    (device : isDeviceSection name = true) (nameLine : '\n' ∉ name.toList)
    (absent : name ∉ s.persistentDevices.keys) (only : ∀ k ∈ s.temporaryDevices.keys, k = name) :
    ∃ t, s.setProperties provider name properties = some { s with temporaryDevices := t } ∧
      t.capacity = s.temporaryDevices.capacity ∧ (∀ k ∈ t.keys, k = name) ∧
      (t.listMap.lookup name).getD .empty =
        assignAll ((s.temporaryDevices.listMap.lookup name).getD .empty) properties := by
  induction properties generalizing s with
  | nil => exact ⟨s.temporaryDevices, rfl, rfl, only, rfl⟩
  | cons property properties ih =>
    obtain ⟨stepped, assigned, steppedCapacity, steppedOnly, steppedLookup⟩ :=
      setProperty_temporary (carried property List.mem_cons_self)
        (notKey property List.mem_cons_self) device nameLine absent only
    obtain ⟨t, run, capacity, keys, lookup⟩ := ih (s := { s with temporaryDevices := stepped })
      (fun other mem => carried other (List.mem_cons_of_mem _ mem))
      (fun other mem => notKey other (List.mem_cons_of_mem _ mem)) absent steppedOnly
    refine ⟨t, ?_, capacity.trans steppedCapacity, keys, ?_⟩
    · rw [ConfigCache.setProperties, assigned, Option.bind_some]
      exact run
    · rw [lookup]
      dsimp only
      rw [steppedLookup]
      rfl

/-- The first persistent property moves what the device gathered to
`persistent_devices_`, and empties `temporary_devices_`. -/
theorem setProperty_promoted (inactive : provider.keystoreActive = false)
    {property : String × String} (carried : Carried property)
    (key : property.1 ∈ s.persistentPropertyNames) (device : isDeviceSection name = true)
    (nameLine : '\n' ∉ name.toList) (absent : name ∉ s.persistentDevices.keys)
    (only : ∀ k ∈ s.temporaryDevices.keys, k = name) :
    s.setProperty provider name property.1 property.2 = some { s with
      persistentDevices := s.persistentDevices.insertOrAssign name
        (((s.temporaryDevices.listMap.lookup name).getD .empty).insertOrAssign property.1
          property.2),
      temporaryDevices := { s.temporaryDevices with listMap := .empty } } := by
  have promoted : name ∉ s.persistentDevices.keys ∧ s.isPersistentProperty property.1 = true :=
    ⟨absent, by simpa [ConfigCache.isPersistentProperty] using key⟩
  have present : name ∈ (s.promoteDevice name property.1).persistentDevices.keys := by
    simp [ConfigCache.promoteDevice, promoted]
  have emptied : (s.temporaryDevices.extract name).2 =
      { s.temporaryDevices with listMap := .empty } := by
    simp only [LruCache.extract]
    congr 1
    refine ListMap.eq_empty_of_keys (List.eq_nil_iff_forall_not_mem.mpr fun k mem => ?_)
    obtain ⟨held, other⟩ := (s.temporaryDevices.listMap.mem_keys_erase name k).mp mem
    exact other (only k held)
  rw [ConfigCache.setProperty_device ⟨nameLine, carried.newline_free.1, carried.newline_free.2⟩
    carried.2.2.1 device, ConfigCache.setDeviceProperty, if_pos present]
  simp only [ConfigCache.promoteDevice, if_pos promoted,
    ParameterProvider.encryptKey_of_not_keystoreActive inactive, List.append_nil]
  rw [ListMap.tryEmplaceBack_of_not_mem absent, ListMap.modify_insertOrAssign, emptied]
  rfl

/-- After the first persistent property, the device's properties go to it in
`persistent_devices_`. -/
theorem setProperties_persistent (inactive : provider.keystoreActive = false)
    {base : ListMap String Properties} {acc : Properties} (properties : List (String × String)) (carried : ∀ property ∈ properties, Carried property)
    (device : isDeviceSection name = true) (nameLine : '\n' ∉ name.toList)
    (present : s.persistentDevices = base.insertOrAssign name acc) :
    s.setProperties provider name properties =
      some { s with persistentDevices := base.insertOrAssign name (assignAll acc properties) } := by
  induction properties generalizing s acc with
  | nil =>
    rw [assignAll, List.foldl_nil, ← present]
    rfl
  | cons property properties ih =>
    have this := carried property List.mem_cons_self
    have inserted : name ∈ s.persistentDevices.keys := by simp [present]
    rw [ConfigCache.setProperties, ConfigCache.setProperty_device
      ⟨nameLine, this.newline_free.1, this.newline_free.2⟩ this.2.2.1 device,
      ConfigCache.promoteDevice, if_neg (fun promoted => promoted.1 inserted),
      ConfigCache.setDeviceProperty, if_pos inserted]
    simp only [ParameterProvider.encryptKey_of_not_keystoreActive inactive, List.append_nil, present,
      ListMap.modify_insertOrAssign]
    exact ih (fun other mem => carried other (List.mem_cons_of_mem _ mem)) rfl

/-- A section of a persistent device: the three phases, split at its first
persistent property. -/
theorem setProperties_device_section (inactive : provider.keystoreActive = false)
    {props : Properties} (keyed : ∃ p ∈ props.keys, p ∈ s.persistentPropertyNames)
    (carried : ∀ property ∈ props.entries, Carried property) (device : isDeviceSection name = true)
    (nameLine : '\n' ∉ name.toList) (absent : name ∉ s.persistentDevices.keys)
    (noTemporary : s.temporaryDevices.keys = []) :
    ∃ t, s.setProperties provider name props.entries = some { s with
        persistentDevices := s.persistentDevices.insertOrAssign name props,
        temporaryDevices := t } ∧ t.keys = [] := by
  let notKey := fun (property : String × String) => !decide (property.1 ∈ s.persistentPropertyNames)
  obtain ⟨first, later, whole, firstKey⟩ := exists_takeWhile_append_cons (p := notKey) (by
    obtain ⟨p, held, key⟩ := keyed
    obtain ⟨property, mem, rfl⟩ := List.mem_map.mp held
    exact ⟨property, mem, by simp [notKey, key]⟩)
  replace firstKey : first.1 ∈ s.persistentPropertyNames := by simpa [notKey] using firstKey
  have part : ∀ property ∈ props.entries.takeWhile notKey ++ first :: later, Carried property :=
    whole ▸ carried
  rw [whole, ConfigCache.setProperties_append provider]
  obtain ⟨t, run, -, only, lookup⟩ := setProperties_temporary (props.entries.takeWhile notKey)
    (fun other mem => part other (List.mem_append_left _ mem))
    (fun other mem => by simpa [notKey] using List.mem_takeWhile_imp mem) device nameLine absent
    (by simp [noTemporary])
  rw [run, Option.bind_some, ConfigCache.setProperties, setProperty_promoted inactive
    (s := { s with temporaryDevices := t }) (part first (by simp)) firstKey device nameLine absent
    only, Option.bind_some, setProperties_persistent inactive later
      (fun other mem => part other (by simp [mem])) device nameLine rfl]
  refine ⟨{ t with listMap := .empty }, ?_, rfl⟩
  have none : s.temporaryDevices.listMap.lookup name = none :=
    (ListMap.lookup_eq_none_iff _ _).mpr (by simp [LruCache.keys] at noTemporary; simp [noTemporary])
  have gathered : assignAll (((t.listMap.lookup name).getD .empty).insertOrAssign first.1 first.2)
      later = props := by
    rw [lookup, none]
    conv_rhs => rw [← props.foldl_insertOrAssign_self, whole]
    simp [assignAll, List.foldl_append]
  rw [gathered]

end Device

/-! ## The whole file -/

/-- `Read` of the information sections' lines, into a cache without them. -/
theorem readLines_informationSections (sections : List (String × Properties))
    (filed : ∀ sect ∈ sections, isDeviceSection sect.1 = false ∧ sect.1 ≠ "" ∧ sect.2.keys ≠ [] ∧
      '\n' ∉ sect.1.toList ∧ ∀ property ∈ sect.2.entries, Carried property)
    (nodup : (sections.map Prod.fst).Nodup) (sectionName : String) (s : ConfigCache)
    (fresh : ∀ sect ∈ sections, sect.1 ∉ s.informationSections.keys) (rest : List (List Char)) :
    ∃ last, readLines provider sectionName s (sections.flatMap sectionLines ++ rest) =
      readLines provider last { s with
        informationSections := sections.foldl (fun m sect => m.insertOrAssign sect.1 sect.2)
          s.informationSections } rest := by
  induction sections generalizing s sectionName with
  | nil => exact ⟨sectionName, rfl⟩
  | cons sect sections ih =>
    obtain ⟨device, named, nonempty, nameLine, carried⟩ := filed sect List.mem_cons_self
    rw [List.map_cons, List.nodup_cons] at nodup
    rw [List.flatMap_cons, List.append_assoc, readLines_section _ _ _ carried,
      setProperties_information_section nonempty carried device named nameLine
        (fresh sect List.mem_cons_self), Option.bind_some]
    refine ih (fun other mem => filed other (List.mem_cons_of_mem _ mem)) nodup.2 sect.1 _
      (fun other mem present => ?_)
    rcases (s.informationSections.mem_keys_insertOrAssign _ _ _).mp present with old | same
    · exact fresh other (List.mem_cons_of_mem _ mem) old
    · exact nodup.1 (same ▸ List.mem_map.mpr ⟨other, mem, rfl⟩)

/-- `Read` of the persistent devices' lines, into a cache without them and no
temporary device. -/
theorem readLines_persistentDevices (inactive : provider.keystoreActive = false)
    (sections : List (String × Properties))
    (sectionName : String) (s : ConfigCache)
    (filed : ∀ sect ∈ sections, isDeviceSection sect.1 = true ∧
      (∃ p ∈ sect.2.keys, p ∈ s.persistentPropertyNames) ∧
      '\n' ∉ sect.1.toList ∧ ∀ property ∈ sect.2.entries, Carried property)
    (nodup : (sections.map Prod.fst).Nodup)
    (fresh : ∀ sect ∈ sections, sect.1 ∉ s.persistentDevices.keys)
    (noTemporary : s.temporaryDevices.keys = []) (rest : List (List Char)) :
    ∃ last t, readLines provider sectionName s (sections.flatMap sectionLines ++ rest) =
      readLines provider last { s with
        persistentDevices := sections.foldl (fun m sect => m.insertOrAssign sect.1 sect.2)
          s.persistentDevices,
        temporaryDevices := t } rest ∧ t.keys = [] := by
  induction sections generalizing s sectionName with
  | nil => exact ⟨sectionName, s.temporaryDevices, rfl, noTemporary⟩
  | cons sect sections ih =>
    obtain ⟨device, keyed, nameLine, carried⟩ := filed sect List.mem_cons_self
    rw [List.map_cons, List.nodup_cons] at nodup
    obtain ⟨t, block, emptied⟩ := setProperties_device_section inactive keyed carried device nameLine
      (fresh sect List.mem_cons_self) noTemporary
    rw [List.flatMap_cons, List.append_assoc, readLines_section _ _ _ carried, block,
      Option.bind_some]
    refine ih sect.1 _ (fun other mem => filed other (List.mem_cons_of_mem _ mem)) nodup.2
      (fun other mem present => ?_) emptied
    rcases (s.persistentDevices.mem_keys_insertOrAssign _ _ _).mp present with old | same
    · exact fresh other (List.mem_cons_of_mem _ mem) old
    · exact nodup.1 (same ▸ List.mem_map.mpr ⟨other, mem, rfl⟩)

/-- What `legacyWritable` and `nulFree` say of one section written. -/
theorem written_carried {c : ConfigCache} (writable : c.legacyWritable = true)
    (nul : c.nulFree = true) {sect : String × Properties}
    (mem : sect ∈ c.informationSections.entries ++ c.persistentDevices.entries)
    (named : "" ∉ sect.2.keys) :
    '\n' ∉ sect.1.toList ∧ ∀ property ∈ sect.2.entries, Carried property := by
  have plain := List.all_eq_true.mp writable sect mem
  have nulFree := List.all_eq_true.mp nul sect mem
  simp only [Bool.and_eq_true, List.all_eq_true] at plain nulFree
  refine ⟨(plainText_eq_true.mp plain.1).1, fun property held => ⟨(plain.2 property held).1,
    by simpa using nulFree property held, fun empty => named ?_, (plain.2 property held).2⟩⟩
  exact empty ▸ List.mem_map.mpr ⟨property, held, rfl⟩

/-- The persistent config read back from what was written: `Read` of the text
of any reachable cache whose names and values the file format carries, and
whose property names do not start with a NUL, gives its information sections
and persistent devices, in order, and no temporary device; for a capacity the
constructor takes, and a reader that is not in Common Criteria mode with a
keystore.  The writer's parameters are any. -/
theorem read_serialize_round_trip (writer reader : ParameterProvider)
    (capacity tempDevicesCapacity : ℕ) (calls : List ConfigCache.Call) {c : ConfigCache}
    (reached : (ConfigCache.new capacity kLinkKeyProperties).bind (·.run writer calls) = some c)
    (writable : c.legacyWritable = true) (nul : c.nulFree = true) (positive : 0 < tempDevicesCapacity)
    (inactive : reader.keystoreActive = false) :
    ∃ c', LegacyConfigFile.read reader tempDevicesCapacity c.serializeToLegacyFormat = some c' ∧
      c'.informationSections = c.informationSections ∧
      c'.persistentDevices = c.persistentDevices ∧ c'.temporaryDevices.keys = [] := by
  obtain ⟨fresh, made, ran⟩ := Option.bind_eq_some_iff.mp reached
  have inv := ConfigCache.cacheInv_run (CacheInv.init made) calls ran
  have names : c.persistentPropertyNames = kLinkKeyProperties :=
    (ConfigCache.run_persistentPropertyNames calls ran).trans
      (ConfigCache.new_persistentPropertyNames made)
  have information : ∀ sect ∈ c.informationSections.entries, isDeviceSection sect.1 = false ∧
      sect.1 ≠ "" ∧ sect.2.keys ≠ [] ∧ '\n' ∉ sect.1.toList ∧
      ∀ property ∈ sect.2.entries, Carried property := by
    intro sect mem
    obtain ⟨device, named, stored⟩ := inv.information sect mem
    exact ⟨device, named, stored.1,
      written_carried writable nul (List.mem_append_left _ mem) stored.2⟩
  have persistent : ∀ sect ∈ c.persistentDevices.entries, isDeviceSection sect.1 = true ∧
      (∃ p ∈ sect.2.keys, p ∈ kLinkKeyProperties) ∧ '\n' ∉ sect.1.toList ∧
      ∀ property ∈ sect.2.entries, Carried property := by
    intro sect mem
    obtain ⟨device, stored, keyed⟩ := inv.persistent sect mem
    exact ⟨device, names ▸ keyed,
      written_carried writable nul (List.mem_append_right _ mem) stored.2⟩
  have lines : getLines c.serializeToLegacyFormat.toList =
      c.informationSections.entries.flatMap sectionLines ++
        c.persistentDevices.entries.flatMap sectionLines ++ [] := by
    rw [serializeToLegacyFormat_toList, getLines_flatMap, List.flatMap_append, List.append_nil]
    intro line mem
    obtain ⟨sect, held, line⟩ := List.mem_flatMap.mp mem
    rcases List.mem_append.mp held with held | held
    · obtain ⟨-, -, -, nameLine, carried⟩ := information sect held
      exact sectionLines_newline_free nameLine (fun property mem => (carried property mem).newline_free) _ line
    · obtain ⟨-, -, nameLine, carried⟩ := persistent sect held
      exact sectionLines_newline_free nameLine (fun property mem => (carried property mem).newline_free) _ line
  -- the reader's cache, as the constructor makes it
  unfold LegacyConfigFile.read
  rw [ConfigCache.new_of_pos positive, Option.bind_some, lines, List.append_assoc]
  obtain ⟨last, readInformation⟩ := readLines_informationSections c.informationSections.entries
    information c.informationSections.nodup kDefaultSectionName
    ⟨kLinkKeyProperties, .empty, .empty, ⟨tempDevicesCapacity, .empty⟩, []⟩ (by simp) _
  obtain ⟨last', t, readPersistent, emptied⟩ := readLines_persistentDevices inactive
    c.persistentDevices.entries last ⟨kLinkKeyProperties, c.informationSections.entries.foldl
      (fun m sect => m.insertOrAssign sect.1 sect.2) .empty, .empty, ⟨tempDevicesCapacity, .empty⟩, []⟩
    persistent c.persistentDevices.nodup (by simp) rfl []
  rw [readInformation]
  exact ⟨_, readPersistent.trans rfl, c.informationSections.foldl_insertOrAssign_self,
    c.persistentDevices.foldl_insertOrAssign_self, emptied⟩

example (provider : ParameterProvider) (text : String) :
    LegacyConfigFile.read provider 0 text = none := rfl

/-- An adapter section and a bonded device, with a property before its link key. -/
def bondedAdapter : List ConfigCache.Call :=
  [.setProperty "Adapter" "Address" "01:02:03:04:05:06",
   .setProperty "AA:BB:CC:DD:EE:FF" "Name" "headset",
   .setProperty "AA:BB:CC:DD:EE:FF" "LinkKey" "k"]

/-- Written in Common Criteria mode, where the link key went to the keystore,
and read back without a keystore. -/
theorem read_serialize_round_trip_bonded :
    ∃ c, (ConfigCache.new 10 kLinkKeyProperties).bind
        (·.run ConfigCache.commonCriteriaMode bondedAdapter) = some c ∧
      c.legacyWritable = true ∧ c.nulFree = true ∧ 0 < 1 ∧ noKeystore.keystoreActive = false ∧
      ∃ c', LegacyConfigFile.read noKeystore 1 c.serializeToLegacyFormat = some c' ∧
        c'.informationSections = c.informationSections ∧
        c'.persistentDevices = c.persistentDevices ∧ c'.temporaryDevices.keys = [] :=
  ⟨_, rfl, by decide, by decide, by decide, rfl,
    read_serialize_round_trip ConfigCache.commonCriteriaMode noKeystore 10 1 bondedAdapter rfl
      (by decide) (by decide) (by decide) rfl⟩

end Bluedroid.Storage
