import Bluedroid.Theory.ListMap
import Bluedroid.Theory.Transition

/-!
# Storage.ConfigCache -- the sections of the GD config, `config_cache.cc`

A `ConfigCache` keeps sections of properties in three places: sections whose
name is not a Bluetooth address (`information_sections_`), devices holding one
of the persistent property names, normally a link key (`persistent_devices_`),
and other devices (`temporary_devices_`, an LRU cache that evicts on insert).
The first two are written to disk.

Every operation that stores a section puts it in the one place its name and
properties call for, and removes a section whose last property goes
(`CacheInv`, kept by every call: `cacheInv_apply`).  What does not hold is the
class comment's other half: a device leaves `persistent_devices_` when any one
persistent property is removed, although another may remain, so a bonded device
with a link key left is no longer written to disk
(`remove_property_demotes_keyed_device`).

The calls read `os::ParameterProvider`, a parameter of the model: in Common
Criteria mode with a keystore, `SetProperty` hands a key of a persistent device
to the keystore and keeps `kEncryptedStr` in its place when the keystore takes
it, and `RemoveProperty` removes a key from the keystore too.  The cache's model
keeps the keystore calls it made, in order.  The constructor makes the
`LruCache` of temporary devices, which aborts on a zero capacity.
-/

namespace Bluedroid.Storage

open Bluedroid.Theory

set_option autoImplicit false

/-- A section's properties, in insertion order. -/
abbrev Properties := ListMap String String

/-- The state of a `ConfigCache`, and the calls of `set_encrypt_key_or_remove_key`
it has made, prefix and value, in order; the change callback is not. -/
structure ConfigCache where
  persistentPropertyNames : List String
  informationSections : ListMap String Properties
  persistentDevices : ListMap String Properties
  temporaryDevices : LruCache String Properties
  keystoreCalls : List (String × String)

/-- The explicit constructor: everything empty.  Building `temporary_devices_`
runs the `LruCache` constructor, whose `ASSERT_LOG` aborts on a zero capacity. -/
def ConfigCache.new (tempDeviceCapacity : ℕ) (persistentPropertyNames : List String) :
    Option ConfigCache :=
  if tempDeviceCapacity = 0 then none
  else some ⟨persistentPropertyNames, .empty, .empty, ⟨tempDeviceCapacity, .empty⟩, []⟩

/-- `Device::kLinkKeyProperties`. -/
def kLinkKeyProperties : List String :=
  ["LinkKey", "LE_KEY_PENC", "LE_KEY_PID", "LE_KEY_PCSRK", "LE_KEY_LENC", "LE_KEY_LCSRK"]

def kLePropertyNames : List String :=
  ["LE_KEY_PENC", "LE_KEY_PID", "LE_KEY_PCSRK", "LE_KEY_LENC", "LE_KEY_LCSRK"]

def kClassicPropertyNames : List String :=
  ["LinkKey", "SdpDiMaufacturer", "SdpDiModel", "SdpDiHardwareVersion", "SdpDiVendorSource"]

/-! ## The keystore -/

/-- `kEncryptKeyNameList`: the properties Common Criteria mode keeps in the keystore. -/
def kEncryptKeyNameList : List String :=
  ["LinkKey", "LE_KEY_PENC", "LE_KEY_PID", "LE_KEY_LID", "LE_KEY_PCSRK", "LE_KEY_LENC", "LE_KEY_LCSRK"]

def inEncryptKeyNameList (key : String) : Bool := key ∈ kEncryptKeyNameList

/-- What the cache keeps in place of a key the keystore took. -/
def kEncryptedStr : String := "encrypted"

/-- `bluetooth_keystore::BluetoothKeystoreInterface`, as the cache calls it:
whether `set_encrypt_key_or_remove_key (prefix, value)` succeeds.  The btif
keystore succeeds once its callbacks are registered. -/
structure BtKeystoreInterface where
  setEncryptKeyOrRemoveKey : String → String → Bool

/-- What `os::ParameterProvider` tells the cache: the keystore, once one is set,
and whether Common Criteria mode is on. -/
structure ParameterProvider where
  btKeystoreInterface : Option BtKeystoreInterface
  isCommonCriteriaMode : Bool

namespace ParameterProvider

/-- Common Criteria mode with a keystore: the only case in which the cache calls it. -/
def keystoreActive (provider : ParameterProvider) : Bool :=
  provider.btKeystoreInterface.isSome && provider.isCommonCriteriaMode

/-- The keystore part of `SetProperty` on a persistent device: a key that is not
empty and not yet `kEncryptedStr` goes to the keystore, and the cache stores
`kEncryptedStr` in its place if the keystore took it.  The value to store, and
the calls made. -/
def encryptKey (provider : ParameterProvider) (name property value : String) :
    String × List (String × String) :=
  match provider.btKeystoreInterface with
  | some keystore =>
    if value ≠ "" ∧ provider.isCommonCriteriaMode ∧ inEncryptKeyNameList property ∧
        value ≠ kEncryptedStr then
      (if keystore.setEncryptKeyOrRemoveKey (name ++ "-" ++ property) value then kEncryptedStr
        else value, [(name ++ "-" ++ property, value)])
    else (value, [])
  | none => (value, [])

/-- The keystore part of `RemoveProperty` on a persistent device that held the
property: a key goes from the keystore too; what the keystore answers is not read. -/
def removeKey (provider : ParameterProvider) (name property : String) : List (String × String) :=
  if provider.keystoreActive ∧ inEncryptKeyNameList property then [(name ++ "-" ++ property, "")]
  else []

/-- Out of Common Criteria mode, or with no keystore, a value is stored as given
and nothing is asked of a keystore. -/
theorem encryptKey_of_not_keystoreActive {provider : ParameterProvider}
    (inactive : provider.keystoreActive = false) (name property value : String) :
    provider.encryptKey name property value = (value, []) := by
  unfold encryptKey
  split
  · case h_1 keystore present =>
    have off : provider.isCommonCriteriaMode = false := by simpa [keystoreActive, present] using inactive
    rw [if_neg (by simp [off])]
  · rfl

theorem removeKey_of_not_keystoreActive {provider : ParameterProvider}
    (inactive : provider.keystoreActive = false) (name property : String) :
    provider.removeKey name property = [] := by
  simp [removeKey, inactive]

end ParameterProvider

/-! ## Names -/

/-- `TrimAfterNewLine`: everything from the first newline on goes. -/
def trimAfterNewLine (s : String) : String := String.ofList (s.toList.takeWhile (· ≠ '\n'))

/-- `isspace` in the C locale. -/
def isCSpace (c : Char) : Bool :=
  c = ' ' || c = '\t' || c = '\n' || c = '\x0b' || c = '\x0c' || c = '\r'

def isHexDigit (c : Char) : Bool :=
  ('0' ≤ c && c ≤ '9') || ('a' ≤ c && c ≤ 'f') || ('A' ≤ c && c ≤ 'F')

/-- `strtol (token, &temp, 16)` reads all of a two-character token: two digits,
or one digit after a blank or a sign. -/
def hexTokenParses (a b : Char) : Bool :=
  (isHexDigit a && isHexDigit b) || ((isCSpace a || a = '+' || a = '-') && isHexDigit b)

/-- `Address::IsValidAddress`: seventeen characters, six two-character tokens
between colons, each read whole by `strtol`. -/
def isValidAddress (s : String) : Bool :=
  match s.toList with
  | [a₀, a₁, ':', b₀, b₁, ':', c₀, c₁, ':', d₀, d₁, ':', e₀, e₁, ':', f₀, f₁] =>
      hexTokenParses a₀ a₁ && hexTokenParses b₀ b₁ && hexTokenParses c₀ c₁ &&
        hexTokenParses d₀ d₁ && hexTokenParses e₀ e₁ && hexTokenParses f₀ f₁
  | _ => false

/-- `ConfigCache::IsDeviceSection`. -/
def isDeviceSection (name : String) : Bool := isValidAddress name

namespace ConfigCache

def isPersistentProperty (c : ConfigCache) (property : String) : Bool :=
  property ∈ c.persistentPropertyNames

/-! ## The modifiers -/

/-- The head of `SetProperty`'s device branch: a device not yet persistent
becomes so when a persistent property is set, with what it held. -/
def promoteDevice (c : ConfigCache) (name property : String) : ConfigCache :=
  if name ∉ c.persistentDevices.keys ∧ c.isPersistentProperty property then
    let (held, temporary) := c.temporaryDevices.extract name
    { c with persistentDevices := c.persistentDevices.tryEmplaceBack name (held.getD .empty),
             temporaryDevices := temporary }
  else c

/-- The rest of the device branch: the property goes where the device is, and a
device met for the first time into `temporary_devices_`; a persistent device's
key may go to the keystore. -/
def setDeviceProperty (provider : ParameterProvider) (c : ConfigCache)
    (name property value : String) : ConfigCache :=
  if name ∈ c.persistentDevices.keys then
    let encrypted := provider.encryptKey name property value
    { c with persistentDevices := c.persistentDevices.modify name (·.insertOrAssign property encrypted.1),
             keystoreCalls := c.keystoreCalls ++ encrypted.2 }
  else
    let temporary := (c.temporaryDevices.find name).2
    let temporary := if name ∈ temporary.keys then temporary else temporary.tryEmplace name .empty
    { c with temporaryDevices := temporary.modify name (·.insertOrAssign property value) }

/-- `SetProperty (section, property, value)`; `none` is the abort of
`ASSERT_LOG` on an empty name. -/
def setProperty (provider : ParameterProvider) (c : ConfigCache) (name property value : String) :
    Option ConfigCache :=
  let name := trimAfterNewLine name
  let property := trimAfterNewLine property
  let value := trimAfterNewLine value
  if name = "" ∨ property = "" then none
  else if !isDeviceSection name then
    let sections := c.informationSections.tryEmplaceBack name .empty
    some { c with informationSections := sections.modify name (·.insertOrAssign property value) }
  else some ((c.promoteDevice name property).setDeviceProperty provider name property value)

/-- `RemoveSection (section)`. -/
def removeSection (c : ConfigCache) (name : String) : ConfigCache :=
  if name ∈ c.informationSections.keys then
    { c with informationSections := c.informationSections.erase name }
  else if name ∈ c.persistentDevices.keys then
    { c with persistentDevices := c.persistentDevices.erase name }
  else { c with temporaryDevices := (c.temporaryDevices.extract name).2 }

/-- `RemoveProperty (section, property)`: a section left empty goes; a device
that loses a persistent property becomes temporary, and loses the key from the
keystore too. -/
def removeProperty (provider : ParameterProvider) (c : ConfigCache) (name property : String) :
    ConfigCache :=
  match c.informationSections.lookup name with
  | some props =>
      let props := props.erase property
      { c with informationSections :=
          if props.size = 0 then c.informationSections.erase name
          else c.informationSections.modify name fun _ => props }
  | none =>
      match c.persistentDevices.lookup name with
      | some props =>
          let removed := props.lookup property
          let props := props.erase property
          -- the source calls the keystore after the move; the two touch different state
          let keystoreCalls :=
            c.keystoreCalls ++ if removed.isSome then provider.removeKey name property else []
          if props.size = 0 then
            { c with persistentDevices := c.persistentDevices.erase name, keystoreCalls }
          else if removed.isSome ∧ c.isPersistentProperty property then
            -- "move unpaired device"
            { c with persistentDevices := c.persistentDevices.erase name,
                     temporaryDevices := c.temporaryDevices.insertOrAssign name props, keystoreCalls }
          else
            { c with persistentDevices := c.persistentDevices.modify name (fun _ => props), keystoreCalls }
      | none =>
          let (found, temporary) := c.temporaryDevices.find name
          match found with
          | some props =>
              let props := props.erase property
              { c with temporaryDevices :=
                  if props.size = 0 then (temporary.extract name).2
                  else temporary.modify name fun _ => props }
          | none => c

/-- `RemoveSectionWithProperty (property)`. -/
def removeSectionWithProperty (c : ConfigCache) (property : String) : ConfigCache :=
  let keep := fun (_ : String) (props : Properties) => !props.keys.contains property
  { c with informationSections := c.informationSections.filter keep,
           persistentDevices := c.persistentDevices.filter keep,
           temporaryDevices := { c.temporaryDevices with
             listMap := c.temporaryDevices.listMap.filter keep } }

/-- `std::to_string` of `DeviceType::BR_EDR`, `LE` and `DUAL`. -/
def brEdr : String := "1"
def le : String := "2"
def dual : String := "3"

/-- `FixDeviceTypeInconsistencyInSection`: a device's `DevType` is set from the
keys it holds, unless it is dual. -/
def fixDeviceTypeInconsistencyInSection (name : String) (props : Properties) : Properties :=
  if !isValidAddress name then props
  else if props.lookup "DevType" = some dual then props
  else
    let isLe := props.keys.any (· ∈ kLePropertyNames)
    let isClassic := props.keys.any (· ∈ kClassicPropertyNames)
    let deviceType := if isClassic ∧ isLe then dual else if isLe ∧ !isClassic then le else brEdr
    props.insertOrAssign "DevType" deviceType

/-- `FixDeviceTypeInconsistencies`. -/
def fixDeviceTypeInconsistencies (c : ConfigCache) : ConfigCache :=
  { c with informationSections := c.informationSections.mapValues fixDeviceTypeInconsistencyInSection,
           persistentDevices := c.persistentDevices.mapValues fixDeviceTypeInconsistencyInSection,
           temporaryDevices := { c.temporaryDevices with
             listMap := c.temporaryDevices.listMap.mapValues fixDeviceTypeInconsistencyInSection } }

/-- `Clear`. -/
def clear (c : ConfigCache) : ConfigCache :=
  { c with informationSections := .empty, persistentDevices := .empty,
           temporaryDevices := { c.temporaryDevices with listMap := .empty } }

/-- `MutationEntry::EntryType`. -/
inductive EntryType
  | set
  | removeProperty
  | removeSection
  deriving DecidableEq, Repr

/-- `MutationEntry`; `section` is a keyword here. -/
structure MutationEntry where
  entryType : EntryType
  sectionName : String
  property : String
  value : String
  deriving DecidableEq, Repr

/-- `Commit (mutation_entries)`: the entries in order. -/
def commit (provider : ParameterProvider) (c : ConfigCache) : List MutationEntry → Option ConfigCache
  | [] => some c
  | entry :: entries =>
      match entry.entryType with
      | .set =>
        (c.setProperty provider entry.sectionName entry.property entry.value).bind
          (commit provider · entries)
      | .removeProperty =>
        (c.removeProperty provider entry.sectionName entry.property).commit provider entries
      | .removeSection => (c.removeSection entry.sectionName).commit provider entries

/-- The calls that change a cache. -/
inductive Call
  | setProperty (name property value : String)
  | removeProperty (name property : String)
  | removeSection (name : String)
  | removeSectionWithProperty (property : String)
  | commit (entries : List MutationEntry)
  | fixDeviceTypeInconsistencies
  | clear

def apply (provider : ParameterProvider) (c : ConfigCache) : Call → Option ConfigCache
  | .setProperty name property value => c.setProperty provider name property value
  | .removeProperty name property => some (c.removeProperty provider name property)
  | .removeSection name => some (c.removeSection name)
  | .removeSectionWithProperty property => some (c.removeSectionWithProperty property)
  | .commit entries => c.commit provider entries
  | .fixDeviceTypeInconsistencies => some c.fixDeviceTypeInconsistencies
  | .clear => some c.clear

/-- The calls in order; `none` once one aborts. -/
def run (provider : ParameterProvider) (c : ConfigCache) : List Call → Option ConfigCache
  | [] => some c
  | call :: calls => (c.apply provider call).bind (run provider · calls)

/-- The calls are a run of `apply`, so the rules of `Theory.Transition` hold of them. -/
theorem run_eq (provider : ParameterProvider) (c : ConfigCache) (calls : List Call) :
    c.run provider calls = Theory.run (fun c call => c.apply provider call) c calls := by
  induction calls generalizing c with
  | nil => rfl
  | cons call calls ih => simp only [run, Theory.run_cons, ih]

theorem fixDeviceTypeInconsistencyInSection_keys (name : String) (props : Properties) {x : String} :
    x ∈ (fixDeviceTypeInconsistencyInSection name props).keys ↔ x ∈ props.keys ∨
      (isValidAddress name = true ∧ props.lookup "DevType" ≠ some dual ∧ x = "DevType") := by
  unfold fixDeviceTypeInconsistencyInSection
  split_ifs with address dualType
  · simp_all
  · simp_all
  · simp_all

/-! ## What `SetProperty` does with names it does not trim -/

theorem trimAfterNewLine_of_not_mem {s : String} (plain : '\n' ∉ s.toList) :
    trimAfterNewLine s = s := by
  have whole : ∀ l : List Char, '\n' ∉ l → l.takeWhile (· ≠ '\n') = l := by
    intro l
    induction l with
    | nil => exact fun _ => rfl
    | cons c l ih =>
      intro absent
      have other : c ≠ '\n' := fun same => absent (same ▸ List.mem_cons_self)
      rw [List.takeWhile_cons_of_pos (by simpa using other),
        ih (fun mem => absent (List.mem_cons_of_mem c mem))]
  rw [trimAfterNewLine, whole s.toList plain, String.ofList_toList]

variable {provider : ParameterProvider} {c : ConfigCache} {name property value : String}

theorem new_of_pos {capacity : ℕ} (positive : 0 < capacity) (names : List String) :
    new capacity names = some ⟨names, .empty, .empty, ⟨capacity, .empty⟩, []⟩ := by
  rw [new, if_neg (Nat.pos_iff_ne_zero.mp positive)]

theorem new_persistentPropertyNames {capacity : ℕ} {names : List String}
    (made : new capacity names = some c) : c.persistentPropertyNames = names := by
  unfold new at made
  split at made
  · contradiction
  · rw [← Option.some.inj made]

/-- A section that is not an address goes to `information_sections_`. -/
theorem setProperty_information (plain : '\n' ∉ name.toList ∧ '\n' ∉ property.toList ∧
      '\n' ∉ value.toList) (named : name ≠ "") (nonempty : property ≠ "")
    (device : isDeviceSection name = false) :
    c.setProperty provider name property value = some { c with
      informationSections := (c.informationSections.tryEmplaceBack name .empty).modify name
        (·.insertOrAssign property value) } := by
  simp [setProperty, trimAfterNewLine_of_not_mem, plain, named, nonempty, device]

theorem setProperty_device (plain : '\n' ∉ name.toList ∧ '\n' ∉ property.toList ∧
      '\n' ∉ value.toList) (nonempty : property ≠ "") (device : isDeviceSection name = true) :
    c.setProperty provider name property value =
      some ((c.promoteDevice name property).setDeviceProperty provider name property value) := by
  have named : name ≠ "" := by
    rintro rfl
    exact absurd device (by decide)
  simp [setProperty, trimAfterNewLine_of_not_mem, plain, named, nonempty, device]

/-! ## What no call changes -/

theorem setProperty_persistentPropertyNames {c' : ConfigCache}
    (set : c.setProperty provider name property value = some c') :
    c'.persistentPropertyNames = c.persistentPropertyNames := by
  simp only [setProperty] at set
  split_ifs at set
  · simp only [Option.some.injEq] at set
    exact set ▸ rfl
  · simp only [Option.some.injEq] at set
    subst set
    unfold setDeviceProperty promoteDevice
    split_ifs <;> rfl

theorem removeProperty_persistentPropertyNames :
    (c.removeProperty provider name property).persistentPropertyNames = c.persistentPropertyNames := by
  unfold removeProperty
  split
  · rfl
  · split
    · dsimp only
      split_ifs <;> rfl
    · simp only [LruCache.find]
      split <;> rfl

theorem removeSection_persistentPropertyNames :
    (c.removeSection name).persistentPropertyNames = c.persistentPropertyNames := by
  unfold removeSection
  split_ifs <;> rfl

theorem commit_persistentPropertyNames {c' : ConfigCache} (entries : List MutationEntry)
    (committed : c.commit provider entries = some c') :
    c'.persistentPropertyNames = c.persistentPropertyNames := by
  induction entries generalizing c with
  | nil => exact (Option.some.inj committed) ▸ rfl
  | cons entry entries ih =>
    unfold commit at committed
    split at committed
    · obtain ⟨set, stored, rest⟩ := Option.bind_eq_some_iff.mp committed
      rw [ih rest, setProperty_persistentPropertyNames stored]
    · rw [ih committed, removeProperty_persistentPropertyNames]
    · rw [ih committed, removeSection_persistentPropertyNames]

theorem apply_persistentPropertyNames {c' : ConfigCache} (call : Call)
    (applied : c.apply provider call = some c') : c'.persistentPropertyNames = c.persistentPropertyNames := by
  cases call with
  | setProperty name property value => exact setProperty_persistentPropertyNames applied
  | removeProperty name property =>
    rw [← Option.some.inj applied]
    exact removeProperty_persistentPropertyNames
  | removeSection name =>
    rw [← Option.some.inj applied]
    exact removeSection_persistentPropertyNames
  | commit entries => exact commit_persistentPropertyNames entries applied
  | removeSectionWithProperty property => exact (Option.some.inj applied) ▸ rfl
  | fixDeviceTypeInconsistencies => exact (Option.some.inj applied) ▸ rfl
  | clear => exact (Option.some.inj applied) ▸ rfl

theorem run_persistentPropertyNames {c' : ConfigCache} (calls : List Call)
    (ran : c.run provider calls = some c') : c'.persistentPropertyNames = c.persistentPropertyNames := by
  rw [run_eq] at ran
  exact Reachable.rec_invariant (P := fun d => d.persistentPropertyNames = c.persistentPropertyNames)
    rfl (fun _ call _ same applied => (apply_persistentPropertyNames call applied).trans same)
    (Reachable.of_run ran)

end ConfigCache

/-! ## The sections of a reachable cache -/

/-- A section as the cache stores it: some property, none with an empty name. -/
def Stored (props : Properties) : Prop := props.keys ≠ [] ∧ "" ∉ props.keys

theorem stored_insertOrAssign {props : Properties} (named : "" ∉ props.keys) {property : String}
    (nonempty : property ≠ "") (value : String) : Stored (props.insertOrAssign property value) := by
  refine ⟨List.ne_nil_of_mem ((props.mem_keys_insertOrAssign property value property).mpr
    (Or.inr rfl)), ?_⟩
  rw [ListMap.mem_keys_insertOrAssign]
  rintro (mem | same)
  · exact named mem
  · exact nonempty same.symm

theorem stored_erase {props : Properties} (stored : Stored props) (property : String)
    (left : ¬(props.erase property).size = 0) : Stored (props.erase property) := by
  refine ⟨fun none => left ((ListMap.size_eq_zero_iff _).mpr none), fun mem => stored.2 ?_⟩
  exact ((props.mem_keys_erase property "").mp mem).1

theorem stored_fixDeviceTypeInconsistencyInSection {props : Properties} (stored : Stored props)
    (name : String) : Stored (ConfigCache.fixDeviceTypeInconsistencyInSection name props) := by
  obtain ⟨p, held⟩ := List.exists_mem_of_ne_nil _ stored.1
  refine ⟨List.ne_nil_of_mem ((ConfigCache.fixDeviceTypeInconsistencyInSection_keys name props).mpr
    (Or.inl held)), fun mem => ?_⟩
  rcases (ConfigCache.fixDeviceTypeInconsistencyInSection_keys name props).mp mem with
    mem | ⟨_, _, devType⟩
  · exact stored.2 mem
  · exact absurd devType (by decide)

/-- What holds of the sections of every cache the calls reach: each is filed by
its name and, a device, by whether it holds a persistent property; none is
empty or has a property with no name; and no device is in both device maps. -/
structure CacheInv (c : ConfigCache) : Prop where
  information : c.informationSections.All fun name props =>
    isDeviceSection name = false ∧ name ≠ "" ∧ Stored props
  persistent : c.persistentDevices.All fun name props =>
    isDeviceSection name = true ∧ Stored props ∧ ∃ p ∈ props.keys, p ∈ c.persistentPropertyNames
  temporary : c.temporaryDevices.All fun name props => isDeviceSection name = true ∧ Stored props
  disjoint : ∀ name ∈ c.persistentDevices.keys, name ∉ c.temporaryDevices.keys

namespace CacheInv

open ConfigCache

variable {provider : ParameterProvider} {c : ConfigCache}

/-- A cache the constructor makes has nothing in it; a zero capacity makes none. -/
theorem init {capacity : ℕ} {names : List String} (made : ConfigCache.new capacity names = some c) :
    CacheInv c := by
  unfold ConfigCache.new at made
  split at made
  · contradiction
  · rw [← Option.some.inj made]
    exact ⟨ListMap.All.empty _, ListMap.All.empty _, ListMap.All.empty _, by simp⟩

/-- A name is in at most one of the three maps. -/
theorem information_not_device (inv : CacheInv c) {name : String}
    (mem : name ∈ c.informationSections.keys) :
    name ∉ c.persistentDevices.keys ∧ name ∉ c.temporaryDevices.keys := by
  obtain ⟨_, information, _⟩ := inv.information.exists_of_mem_keys mem
  constructor
  · intro persistent
    obtain ⟨_, device, _⟩ := inv.persistent.exists_of_mem_keys persistent
    rw [information] at device
    cases device
  · intro temporary
    obtain ⟨_, device, _⟩ := ListMap.All.exists_of_mem_keys inv.temporary temporary
    rw [information] at device
    cases device

/-! ### `SetProperty` -/

theorem setInformation (inv : CacheInv c) {name property : String}
    (device : isDeviceSection name = false) (named : name ≠ "") (nonempty : property ≠ "")
    (value : String) :
    CacheInv { c with
      informationSections := (c.informationSections.tryEmplaceBack name .empty).modify name
        (·.insertOrAssign property value) } := by
  refine { inv with information := inv.information.tryEmplaceBack_modify name .empty _ ?_ }
  rintro props (⟨_, _, stored⟩ | rfl)
  · exact ⟨device, named, stored_insertOrAssign stored.2 nonempty value⟩
  · exact ⟨device, named, stored_insertOrAssign (by simp) nonempty value⟩

theorem setPersistent (inv : CacheInv c) {name property : String}
    (nonempty : property ≠ "") (value : String) (calls : List (String × String)) :
    CacheInv { c with
      persistentDevices := c.persistentDevices.modify name (·.insertOrAssign property value),
      keystoreCalls := calls } := by
  refine { inv with persistent := inv.persistent.modify name _ ?_, disjoint := ?_ }
  · rintro props ⟨device, stored, p, held, key⟩
    refine ⟨device, stored_insertOrAssign stored.2 nonempty value, p, ?_, key⟩
    exact (props.mem_keys_insertOrAssign property value p).mpr (Or.inl held)
  · intro x mem
    exact inv.disjoint x ((c.persistentDevices.mem_keys_modify name _ x).mp mem)

/-- A new device, or one in `temporary_devices_`: the property goes there. -/
theorem setTemporary (inv : CacheInv c) {name property : String}
    (device : isDeviceSection name = true) (absent : name ∉ c.persistentDevices.keys)
    (nonempty : property ≠ "") (value : String) :
    CacheInv (c.setDeviceProperty provider name property value) := by
  rw [setDeviceProperty, if_neg absent]
  refine { inv with temporary := ?_, disjoint := ?_ }
  · refine LruCache.All.emplace_modify (inv.temporary.find name) name .empty _ ?_
    rintro props (⟨_, stored⟩ | rfl)
    · exact ⟨device, stored_insertOrAssign stored.2 nonempty value⟩
    · exact ⟨device, stored_insertOrAssign (by simp) nonempty value⟩
  · intro x mem temporary
    rcases LruCache.mem_keys_emplace_modify _ name _ _ temporary with found | rfl
    · exact inv.disjoint x mem ((c.temporaryDevices.mem_keys_find name x).mp found)
    · exact absent mem

/-- A device that gets its first persistent property moves to
`persistent_devices_` with what it held, and gets the property there. -/
theorem setPromoted (inv : CacheInv c) {name property : String}
    (device : isDeviceSection name = true) (nonempty : property ≠ "")
    (key : property ∈ c.persistentPropertyNames) (value : String) (calls : List (String × String)) :
    CacheInv { c with
      persistentDevices := (c.persistentDevices.tryEmplaceBack name
        ((c.temporaryDevices.extract name).1.getD .empty)).modify name
          (·.insertOrAssign property value),
      temporaryDevices := (c.temporaryDevices.extract name).2,
      keystoreCalls := calls } := by
  have held : "" ∉ ((c.temporaryDevices.extract name).1.getD .empty).keys := by
    cases found : c.temporaryDevices.listMap.lookup name with
    | none => simp [LruCache.extract, found]
    | some props => simpa [LruCache.extract, found] using (inv.temporary.of_lookup found).2.2
  refine ⟨inv.information, ?_, inv.temporary.extract name, ?_⟩
  · refine inv.persistent.tryEmplaceBack_modify name _ _ ?_
    rintro props (⟨_, stored, _⟩ | rfl)
    · exact ⟨device, stored_insertOrAssign stored.2 nonempty value, property, by simp, key⟩
    · exact ⟨device, stored_insertOrAssign held nonempty value, property, by simp, key⟩
  · intro x mem temporary
    rw [ListMap.mem_keys_modify, ListMap.mem_keys_tryEmplaceBack] at mem
    rw [LruCache.mem_keys_extract] at temporary
    rcases mem with persistent | same
    · exact inv.disjoint x persistent temporary.1
    · exact temporary.2 same

theorem setDevice (inv : CacheInv c) {name property : String}
    (device : isDeviceSection name = true) (nonempty : property ≠ "") (value : String) :
    CacheInv ((c.promoteDevice name property).setDeviceProperty provider name property value) := by
  by_cases promoted : name ∉ c.persistentDevices.keys ∧ c.isPersistentProperty property
  · have key : property ∈ c.persistentPropertyNames := by
      simpa [isPersistentProperty] using promoted.2
    have present : name ∈ (c.promoteDevice name property).persistentDevices.keys := by
      simp [promoteDevice, promoted]
    rw [setDeviceProperty, if_pos present]
    simp only [promoteDevice, if_pos promoted]
    exact inv.setPromoted device nonempty key _ _
  · rw [promoteDevice, if_neg promoted]
    by_cases persistent : name ∈ c.persistentDevices.keys
    · rw [setDeviceProperty, if_pos persistent]
      exact inv.setPersistent nonempty _ _
    · exact inv.setTemporary device persistent nonempty value

end CacheInv

namespace ConfigCache

variable {provider : ParameterProvider} {c c' : ConfigCache}

theorem cacheInv_setProperty (inv : CacheInv c) {name property value : String}
    (set : c.setProperty provider name property value = some c') : CacheInv c' := by
  simp only [setProperty] at set
  generalize trimAfterNewLine name = name at set
  generalize trimAfterNewLine property = property at set
  generalize trimAfterNewLine value = value at set
  split_ifs at set with empty device
  · simp only [Option.some.injEq] at set
    subst set
    simp only [not_or] at empty
    exact inv.setInformation (by simpa using device) empty.1 empty.2 value
  · simp only [Option.some.injEq] at set
    subst set
    simp only [not_or] at empty
    exact inv.setDevice (by simpa using device) empty.2 value

/-! ### The other calls -/

theorem cacheInv_removeSection (inv : CacheInv c) (name : String) :
    CacheInv (c.removeSection name) := by
  unfold removeSection
  split
  · exact { inv with information := inv.information.erase name }
  · split
    · refine { inv with persistent := inv.persistent.erase name, disjoint := ?_ }
      intro x mem
      exact inv.disjoint x ((c.persistentDevices.mem_keys_erase name x).mp mem).1
    · refine { inv with temporary := inv.temporary.extract name, disjoint := ?_ }
      intro x mem temporary
      exact inv.disjoint x mem ((c.temporaryDevices.mem_keys_extract name x).mp temporary).1

/-- The three branches of `RemoveProperty`: each removes the section it leaves
empty, and the persistent one moves a device that loses a persistent property. -/
theorem cacheInv_removeProperty (inv : CacheInv c) (name property : String) :
    CacheInv (c.removeProperty provider name property) := by
  unfold removeProperty
  split
  · case h_1 props found =>
    have section' := inv.information.of_lookup found
    refine { inv with information := ?_ }
    dsimp only
    split
    · exact inv.information.erase name
    · case isFalse left =>
      exact inv.information.modify name _ fun _ ⟨device, named, _⟩ =>
        ⟨device, named, stored_erase section'.2.2 property left⟩
  · split
    · case h_1 props found =>
      obtain ⟨device, stored, p, held, key⟩ := inv.persistent.of_lookup found
      dsimp only
      split
      · refine { inv with persistent := inv.persistent.erase name, disjoint := ?_ }
        intro x mem
        exact inv.disjoint x ((c.persistentDevices.mem_keys_erase name x).mp mem).1
      · case isFalse left =>
        split
        · -- the device moves to `temporary_devices_`
          refine ⟨inv.information, inv.persistent.erase name, ?_, ?_⟩
          · exact LruCache.All.insertOrAssign inv.temporary name _
              ⟨device, stored_erase stored property left⟩
          · intro x mem temporary
            rw [ListMap.mem_keys_erase] at mem
            rcases c.temporaryDevices.mem_keys_insertOrAssign name _ temporary with old | same
            · exact inv.disjoint x mem.1 old
            · exact mem.2 same
        · case isFalse kept =>
          -- a persistent property left: the one held, unless it was removed
          have still : p ∈ (props.erase property).keys := by
            rw [ListMap.mem_keys_erase]
            refine ⟨held, fun same => kept ⟨?_, ?_⟩⟩
            · rw [ListMap.lookup_isSome_iff, ← same]
              exact held
            · simpa [isPersistentProperty, ← same] using key
          refine { inv with persistent := ?_, disjoint := ?_ }
          · exact inv.persistent.modify name _ fun _ _ =>
              ⟨device, stored_erase stored property left, p, still, key⟩
          · intro x mem
            exact inv.disjoint x ((c.persistentDevices.mem_keys_modify name _ x).mp mem)
    · simp only [LruCache.find]
      split
      · case h_1 props found =>
        obtain ⟨device, stored⟩ := inv.temporary.of_lookup found
        have moved := inv.temporary.find name
        refine { inv with temporary := ?_, disjoint := ?_ }
        · split
          · exact moved.extract name
          · case isFalse left =>
            exact ListMap.All.modify moved name _ fun _ _ =>
              ⟨device, stored_erase stored property left⟩
        · intro x mem temporary
          refine inv.disjoint x mem ?_
          split at temporary
          · have found := ((c.temporaryDevices.find name).2.mem_keys_extract name x).mp temporary
            exact (c.temporaryDevices.mem_keys_find name x).mp found.1
          · exact (c.temporaryDevices.mem_keys_find name x).mp
              (((c.temporaryDevices.find name).2.mem_keys_modify name _ x).mp temporary)
      · exact inv

theorem cacheInv_removeSectionWithProperty (inv : CacheInv c) (property : String) :
    CacheInv (c.removeSectionWithProperty property) := by
  refine ⟨inv.information.filter _, inv.persistent.filter _, ListMap.All.filter inv.temporary _, ?_⟩
  intro x mem temporary
  exact inv.disjoint x (ListMap.mem_keys_filter _ _ mem) (ListMap.mem_keys_filter _ _ temporary)

theorem cacheInv_fixDeviceTypeInconsistencies (inv : CacheInv c) :
    CacheInv c.fixDeviceTypeInconsistencies := by
  refine ⟨inv.information.mapValues _ ?_, inv.persistent.mapValues _ ?_,
    ListMap.All.mapValues inv.temporary _ ?_, ?_⟩
  · rintro name props ⟨device, named, stored⟩
    exact ⟨device, named, stored_fixDeviceTypeInconsistencyInSection stored name⟩
  · rintro name props ⟨device, stored, p, held, key⟩
    refine ⟨device, stored_fixDeviceTypeInconsistencyInSection stored name, p, ?_, key⟩
    exact (fixDeviceTypeInconsistencyInSection_keys name props).mpr (Or.inl held)
  · rintro name props ⟨device, stored⟩
    exact ⟨device, stored_fixDeviceTypeInconsistencyInSection stored name⟩
  · intro x mem temporary
    exact inv.disjoint x ((c.persistentDevices.mem_keys_mapValues _ x).mp mem)
      ((c.temporaryDevices.listMap.mem_keys_mapValues _ x).mp temporary)

theorem cacheInv_clear (c : ConfigCache) : CacheInv c.clear :=
  ⟨ListMap.All.empty _, ListMap.All.empty _, ListMap.All.empty _, by simp [clear]⟩

theorem cacheInv_commit (inv : CacheInv c) (entries : List MutationEntry)
    (committed : c.commit provider entries = some c') : CacheInv c' := by
  induction entries generalizing c with
  | nil =>
    simp only [commit, Option.some.injEq] at committed
    exact committed ▸ inv
  | cons entry entries ih =>
    unfold commit at committed
    split at committed
    · obtain ⟨set, stored, rest⟩ := Option.bind_eq_some_iff.mp committed
      exact ih (cacheInv_setProperty inv stored) rest
    · exact ih (cacheInv_removeProperty inv _ _) committed
    · exact ih (cacheInv_removeSection inv _) committed

/-- One call keeps the invariant. -/
theorem cacheInv_apply (inv : CacheInv c) (call : Call) (applied : c.apply provider call = some c') :
    CacheInv c' := by
  cases call with
  | setProperty name property value => exact cacheInv_setProperty inv applied
  | commit entries => exact cacheInv_commit inv entries applied
  | removeProperty name property =>
    exact Option.some.inj applied ▸ cacheInv_removeProperty inv name property
  | removeSection name => exact Option.some.inj applied ▸ cacheInv_removeSection inv name
  | removeSectionWithProperty property =>
    exact Option.some.inj applied ▸ cacheInv_removeSectionWithProperty inv property
  | fixDeviceTypeInconsistencies =>
    exact Option.some.inj applied ▸ cacheInv_fixDeviceTypeInconsistencies inv
  | clear => exact Option.some.inj applied ▸ cacheInv_clear c

/-- A run of calls keeps the invariant. -/
theorem cacheInv_run (inv : CacheInv c) (calls : List Call) (ran : c.run provider calls = some c') :
    CacheInv c' := by
  rw [run_eq] at ran
  exact Reachable.rec_invariant inv (fun _ call _ held applied => cacheInv_apply held call applied)
    (Reachable.of_run ran)

/-! ## Reachable caches -/

/-- Every cache the calls reach from a new one, whatever the parameters, has its
sections filed by their names, none of them empty, no device in both device
maps, and a persistent property in every persistent device. -/
theorem reachable_sections_filed (provider : ParameterProvider) (capacity : ℕ) (names : List String)
    (calls : List Call) (reached : (new capacity names).bind (·.run provider calls) = some c) :
    CacheInv c := by
  obtain ⟨fresh, made, ran⟩ := Option.bind_eq_some_iff.mp reached
  exact cacheInv_run (CacheInv.init made) calls ran

/-- Common Criteria mode, with a keystore that takes every key. -/
def commonCriteriaMode : ParameterProvider := ⟨some ⟨fun _ _ => true⟩, true⟩

/-- A bonded device: an address that gets a BR/EDR and an LE link key. -/
def bondTwice : List Call :=
  [.setProperty "AA:BB:CC:DD:EE:FF" "Name" "headset",
   .setProperty "AA:BB:CC:DD:EE:FF" "LinkKey" "k",
   .setProperty "AA:BB:CC:DD:EE:FF" "LE_KEY_PENC" "p"]

theorem reachable_sections_filed_bondTwice :
    ∃ c, (new 10 kLinkKeyProperties).bind (·.run commonCriteriaMode bondTwice) = some c ∧
      CacheInv c :=
  ⟨_, rfl, reachable_sections_filed commonCriteriaMode 10 kLinkKeyProperties bondTwice rfl⟩

/-- The other half of the class comment fails: removing one persistent property
of a persistent device moves the device to `temporary_devices_` whatever else
it holds, so a device with a link key left is no longer written to disk. -/
theorem remove_property_demotes_keyed_device (provider : ParameterProvider) (capacity : ℕ)
    (names : List String) (calls : List Call)
    (reached : (new capacity names).bind (·.run provider calls) = some c)
    {name kept removed : String} {props : Properties}
    (persistent : c.persistentDevices.lookup name = some props) (holdsKept : kept ∈ props.keys)
    (holdsRemoved : removed ∈ props.keys) (distinct : kept ≠ removed)
    (key : removed ∈ c.persistentPropertyNames) :
    name ∉ (c.removeProperty provider name removed).persistentDevices.keys ∧
      (c.removeProperty provider name removed).temporaryDevices.listMap.lookup name =
        some (props.erase removed) ∧
      kept ∈ (props.erase removed).keys := by
  obtain ⟨fresh, made, ran⟩ := Option.bind_eq_some_iff.mp reached
  have inv := cacheInv_run (CacheInv.init made) calls ran
  have information : c.informationSections.lookup name = none := by
    rw [ListMap.lookup_eq_none_iff]
    exact fun mem => (inv.information_not_device mem).1 (ListMap.mem_keys_of_lookup persistent)
  have left : kept ∈ (props.erase removed).keys := (props.mem_keys_erase removed kept).mpr
    ⟨holdsKept, distinct⟩
  have nonempty : ¬(props.erase removed).size = 0 := by
    rw [ListMap.size_eq_zero_iff]
    exact List.ne_nil_of_mem left
  have demoted : (props.lookup removed).isSome = true ∧ c.isPersistentProperty removed = true :=
    ⟨(props.lookup_isSome_iff removed).mpr holdsRemoved, by simpa [isPersistentProperty] using key⟩
  simp only [removeProperty, information, persistent, if_neg nonempty, if_pos demoted]
  refine ⟨fun mem => ?_, LruCache.lookup_insertOrAssign_self _ _ _, left⟩
  exact ((c.persistentDevices.mem_keys_erase name name).mp mem).2 rfl

theorem remove_property_demotes_keyed_device_bonded :
    ∃ c props, (new 10 kLinkKeyProperties).bind (·.run commonCriteriaMode bondTwice) = some c ∧
      c.persistentDevices.lookup "AA:BB:CC:DD:EE:FF" = some props ∧
      "AA:BB:CC:DD:EE:FF" ∉ (c.removeProperty commonCriteriaMode "AA:BB:CC:DD:EE:FF"
        "LE_KEY_PENC").persistentDevices.keys ∧
      (c.removeProperty commonCriteriaMode "AA:BB:CC:DD:EE:FF"
        "LE_KEY_PENC").temporaryDevices.listMap.lookup "AA:BB:CC:DD:EE:FF" =
          some (props.erase "LE_KEY_PENC") ∧
      "LinkKey" ∈ (props.erase "LE_KEY_PENC").keys :=
  ⟨_, _, rfl, rfl, remove_property_demotes_keyed_device commonCriteriaMode 10 kLinkKeyProperties
    bondTwice rfl rfl (by decide) (by decide) (by decide) (by decide)⟩

end ConfigCache

end Bluedroid.Storage
