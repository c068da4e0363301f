import Mathlib
import Bluedroid.Theory.Trim

/-!
# Osi.Config -- the legacy `config_t`, its file and its parser (`osi/src/config.cc`)

A `config_t` is a list of sections, each a list of `key = value` entries, and
every name, key and value is a `std::string`: bytes.  `config_set_string` adds
a section at the end the first time it is named and an entry at the end of its
section the first time a key is set; `config_remove_key` and
`config_remove_section` erase the first match.  `config_save` writes each
section as a `[name]` line, a `key = value` line for each entry and a blank
line, with one `fprintf ("%s")`.  `config_parse` reads the file back with
`fgets` into a 4096-byte buffer, so at most 4095 bytes at a time, `trim`s each
line (`isspace` of the C locale, up to the first NUL), skips blank and `#`
lines, takes a `[...]` line as the current section, and gives any other line,
split at its first `=`, to `config_set_string`.

The file, its lines and the config's strings are byte lists here, as the
source's `char`s are, so a line's length is counted in bytes, whatever
characters they encode.

The parser creates a section only when a key of it arrives, so a section left
empty by `config_remove_key` is lost (`config_save_drops_empty_section`).  And
both `fprintf ("%s")` and the C strings of the parser stop at a NUL.  Leaving
those aside, the file gives the config back (`config_save_parse_round_trip`).
-/

namespace Bluedroid.Osi

open Bluedroid.Theory (trimBy trimBy_eq trimBy_separated trimBy_append_blank)

set_option autoImplicit false

/-! ## Bytes -/

/-- The bytes of a `std::string` made from the text `s`. -/
def utf8 (s : String) : List UInt8 := s.toList.flatMap String.utf8EncodeChar

/-- `isspace` in the C locale: `' '`, `'\t'`, `'\n'`, `'\v'`, `'\f'` and `'\r'`. -/
def isSpace (c : UInt8) : Bool := c == 32 || (9 ≤ c && c ≤ 13)

/-- `'\n'`. -/
def newlineByte : UInt8 := 10

/-- `'#'`. -/
def hashByte : UInt8 := 35

/-- `'['`. -/
def openBracketByte : UInt8 := 91

/-- `']'`. -/
def closeBracketByte : UInt8 := 93

/-- `'='`. -/
def equalsByte : UInt8 := 61

/-- `' '`. -/
def spaceByte : UInt8 := 32

/-! ## `config_t` and its setters -/

/-- `entry_t`. -/
structure Entry where
  key : List UInt8
  value : List UInt8
  deriving DecidableEq, Repr

/-- `section_t`. -/
structure Section where
  name : List UInt8
  entries : List Entry
  deriving DecidableEq, Repr

/-- `config_t`: the sections in order. -/
structure Config where
  sections : List Section
  deriving DecidableEq, Repr

/-- `CONFIG_DEFAULT_SECTION`. -/
def configDefaultSection : List UInt8 := utf8 "Global"

/-- `config_new_empty`. -/
def configNewEmpty : Config := ⟨[]⟩

/-- The loop of `config_set_string` over a section's entries: the first entry
with the key takes the value, else a new entry goes at the end. -/
def setEntry (key value : List UInt8) : List Entry → List Entry
  | [] => [⟨key, value⟩]
  | entry :: entries =>
    if entry.key = key then { entry with value := value } :: entries
    else entry :: setEntry key value entries

/-- Apply `f` to the section `section_find` finds: the first one named `name`. -/
def modifySection (name : List UInt8) (f : Section → Section) : List Section → List Section
  | [] => []
  | sec :: secs => if sec.name = name then f sec :: secs else sec :: modifySection name f secs

/-- `config_set_string`: the value up to its first newline. -/
def configSetString (config : Config) (sectionName key value : List UInt8) : Config :=
  let valueNoNewline := value.takeWhile (· ≠ newlineByte)
  let set (sec : Section) : Section := { sec with entries := setEntry key valueNoNewline sec.entries }
  if config.sections.any (·.name = sectionName) then ⟨modifySection sectionName set config.sections⟩
  else ⟨config.sections ++ [set ⟨sectionName, []⟩]⟩

/-- `config_set_int`: `std::to_string` of an `int`. -/
def configSetInt (config : Config) (sectionName key : List UInt8) (value : Int32) : Config :=
  configSetString config sectionName key (utf8 (toString value.toInt))

/-- `config_set_bool`. -/
def configSetBool (config : Config) (sectionName key : List UInt8) (value : Bool) : Config :=
  configSetString config sectionName key (utf8 (if value then "true" else "false"))

/-- `config_remove_section`. -/
def configRemoveSection (config : Config) (sectionName : List UInt8) : Config × Bool :=
  if config.sections.any (·.name = sectionName) then
    (⟨config.sections.eraseP (·.name = sectionName)⟩, true)
  else (config, false)

/-- `config_remove_key`. -/
def configRemoveKey (config : Config) (sectionName key : List UInt8) : Config × Bool :=
  match config.sections.find? (·.name = sectionName) with
  | none => (config, false)
  | some sec =>
    if sec.entries.any (·.key = key) then
      (⟨modifySection sectionName (fun sec => { sec with entries := sec.entries.eraseP (·.key = key) })
        config.sections⟩, true)
    else (config, false)

/-- The calls a config is built with. -/
inductive ConfigCall
  | setString (sectionName key value : List UInt8)
  | setInt (sectionName key : List UInt8) (value : Int32)
  | setBool (sectionName key : List UInt8) (value : Bool)
  | removeKey (sectionName key : List UInt8)
  | removeSection (sectionName : List UInt8)
  deriving DecidableEq, Repr

def ConfigCall.apply (config : Config) : ConfigCall → Config
  | .setString sectionName key value => configSetString config sectionName key value
  | .setInt sectionName key value => configSetInt config sectionName key value
  | .setBool sectionName key value => configSetBool config sectionName key value
  | .removeKey sectionName key => (configRemoveKey config sectionName key).1
  | .removeSection sectionName => (configRemoveSection config sectionName).1

/-- The config the calls build from `config_new_empty`. -/
def configBuild (calls : List ConfigCall) : Config := calls.foldl ConfigCall.apply configNewEmpty

/-! ## The file -/

/-- The `serialized` stream of `config_save`; each `std::endl` is a newline. -/
def configSerialize (config : Config) : List UInt8 :=
  config.sections.flatMap fun sec =>
    openBracketByte :: sec.name ++ [closeBracketByte, newlineByte] ++
      sec.entries.flatMap (fun entry => entry.key ++ [spaceByte, equalsByte, spaceByte] ++ entry.value ++
        [newlineByte]) ++
      [newlineByte]

/-- The bytes `config_save` writes: `fprintf (fp, "%s", ...)` stops at the first NUL. -/
def configSave (config : Config) : List UInt8 :=
  (configSerialize config).takeWhile (· ≠ 0)

/-- `fgets (line, size, fp)` over the whole file: each call takes bytes up to
and including a newline, or `size - 1` of them.  `line` is the current line,
reversed, and `room` how many more bytes it may take. -/
def fgetsLoop (size : ℕ) : ℕ → List UInt8 → List UInt8 → List (List UInt8)
  | _, line, [] => if line = [] then [] else [line.reverse]
  | room, line, c :: cs =>
    if c = newlineByte ∨ room ≤ 1 then (c :: line).reverse :: fgetsLoop size (size - 1) [] cs
    else fgetsLoop size (room - 1) (c :: line) cs

def fgetsLines (size : ℕ) (file : List UInt8) : List (List UInt8) := fgetsLoop size (size - 1) [] file

/-- `trim` of a C string: up to its NUL, the `isspace` bytes go from both ends. -/
def trim (s : List UInt8) : List UInt8 := trimBy isSpace (s.takeWhile (· ≠ 0))

/-- `strchr (line, c)` and the NUL `config_parse` writes over it: the bytes
before the first `c` and the bytes after it. -/
def strchrSplit (c : UInt8) : List UInt8 → Option (List UInt8 × List UInt8)
  | [] => none
  | x :: xs =>
    if x = c then some ([], xs) else (strchrSplit c xs).map fun split => (x :: split.1, split.2)

/-- The loop of `config_parse`, in section `sectionName`; `none` is its `false`. -/
def configParseLines (sectionName : List UInt8) (config : Config) : List (List UInt8) → Option Config
  | [] => some config
  | line :: lines =>
    match trim line with
    | [] => configParseLines sectionName config lines
    | first :: rest =>
      if first = hashByte then configParseLines sectionName config lines
      else if first = openBracketByte then
        if (first :: rest).getLast? ≠ some closeBracketByte then none
        -- `strncpy (section, line_ptr + 1, len - 2)`
        else configParseLines (((first :: rest).drop 1).take ((first :: rest).length - 2)) config lines
      else
        match strchrSplit equalsByte (first :: rest) with
        | none => none
        | some (key, value) =>
          configParseLines sectionName (configSetString config sectionName (trim key) (trim value)) lines

/-- `config_new` on a file with these bytes. -/
def configNew (file : List UInt8) : Option Config :=
  configParseLines configDefaultSection configNewEmpty (fgetsLines 4096 file)

/-! ## The conditions of the round trip -/

/-- The line of a section header and the line of an entry, without the newline. -/
def headerLine (sec : Section) : List UInt8 := openBracketByte :: (sec.name ++ [closeBracketByte])

def entryLine (entry : Entry) : List UInt8 := entry.key ++ spaceByte :: equalsByte :: spaceByte :: entry.value

/-- The line and its newline fit the 4095 bytes `fgets` reads into the
4096-byte buffer of `config_parse`, the last byte being for its NUL. -/
def lineFits (line : List UInt8) : Bool := line.length + 1 < 4096

/-- A name or value the format carries as it is: no newline, no NUL, and no
blank at either end. -/
def plainBytes (s : List UInt8) : Bool :=
  !s.contains newlineByte && !s.contains 0 && !(s.head?.any isSpace) && !(s.getLast?.any isSpace)

/-- A key a line carries: plain, with no `=`, and not starting as a comment or
a section header does. -/
def plainKey (s : List UInt8) : Bool :=
  plainBytes s && !s.contains equalsByte && s.head? ≠ some hashByte && s.head? ≠ some openBracketByte

/-- Names, keys and values the format carries, on lines that fit the buffer. -/
def Config.saveable (config : Config) : Bool :=
  config.sections.all fun sec =>
    plainBytes sec.name && lineFits (headerLine sec) &&
      sec.entries.all fun entry =>
        plainKey entry.key && plainBytes entry.value && lineFits (entryLine entry)

/-- A section the parser gives back: one with an entry. -/
def Section.hasEntries (sec : Section) : Bool := !sec.entries.isEmpty

theorem plainBytes_eq_true {s : List UInt8} :
    plainBytes s = true ↔ newlineByte ∉ s ∧ 0 ∉ s ∧ (∀ c ∈ s.head?, isSpace c = false) ∧
      ∀ c ∈ s.getLast?, isSpace c = false := by
  unfold plainBytes
  cases s.head? <;> cases s.getLast? <;> simp [and_assoc]

theorem plainKey_eq_true {s : List UInt8} :
    plainKey s = true ↔ plainBytes s = true ∧ equalsByte ∉ s ∧ s.head? ≠ some hashByte ∧
      s.head? ≠ some openBracketByte := by
  simp [plainKey, and_assoc]

/-! ## The setters keep names and keys unique -/

/-- What the setters keep: one section for each name, one entry for each key. -/
structure Config.Wf (config : Config) : Prop where
  names : (config.sections.map Section.name).Nodup
  keys : ∀ sec ∈ config.sections, (sec.entries.map Entry.key).Nodup

theorem keys_setEntry (key value : List UInt8) (entries : List Entry) :
    (setEntry key value entries).map Entry.key =
      if key ∈ entries.map Entry.key then entries.map Entry.key else entries.map Entry.key ++ [key] := by
  induction entries with
  | nil => simp [setEntry]
  | cons entry entries ih =>
    by_cases same : entry.key = key
    · simp [setEntry, same]
    · rw [setEntry, if_neg same, List.map_cons, ih]
      by_cases present : key ∈ entries.map Entry.key
      · simp [present]
      · simp [present, Ne.symm same]

theorem names_modifySection (name : List UInt8) {f : Section → Section}
    (keepsName : ∀ sec, (f sec).name = sec.name) :
    ∀ secs : List Section, (modifySection name f secs).map Section.name = secs.map Section.name
  | [] => rfl
  | sec :: secs => by
    rw [modifySection]
    split
    · simp [keepsName]
    · simp [names_modifySection name keepsName secs]

theorem mem_modifySection {name : List UInt8} {f : Section → Section} {sec' : Section} :
    ∀ {secs : List Section}, sec' ∈ modifySection name f secs → sec' ∈ secs ∨ ∃ sec ∈ secs, sec' = f sec
  | [], member => by simp [modifySection] at member
  | sec :: secs, member => by
    rw [modifySection] at member
    split at member
    · rcases List.mem_cons.mp member with rfl | later
      · exact .inr ⟨sec, List.mem_cons_self, rfl⟩
      · exact .inl (List.mem_cons_of_mem sec later)
    · rcases List.mem_cons.mp member with rfl | later
      · exact .inl List.mem_cons_self
      · rcases mem_modifySection later with old | ⟨sec₁, held, rfl⟩
        · exact .inl (List.mem_cons_of_mem sec old)
        · exact .inr ⟨sec₁, List.mem_cons_of_mem sec held, rfl⟩

/-- Changing the entries of one section, keeping its keys unique, keeps `Wf`. -/
theorem Config.Wf.modifySection {config : Config} (wf : config.Wf) (name : List UInt8)
    (g : List Entry → List Entry) (unique : ∀ entries : List Entry, (entries.map Entry.key).Nodup →
      ((g entries).map Entry.key).Nodup) :
    Config.Wf ⟨Osi.modifySection name (fun sec => { sec with entries := g sec.entries }) config.sections⟩ := by
  refine ⟨?_, fun sec' member => ?_⟩
  · have same := names_modifySection name (f := fun sec => { sec with entries := g sec.entries })
      (fun _ => rfl) config.sections
    dsimp only
    rw [same]
    exact wf.names
  · rcases mem_modifySection member with old | ⟨sec, held, rfl⟩
    · exact wf.keys sec' old
    · exact unique _ (wf.keys sec held)

theorem Config.Wf.configSetString {config : Config} (wf : config.Wf) (sectionName key value : List UInt8) :
    (Osi.configSetString config sectionName key value).Wf := by
  have unique : ∀ entries : List Entry, (entries.map Entry.key).Nodup →
      ((setEntry key (value.takeWhile (· ≠ newlineByte)) entries).map Entry.key).Nodup := by
    intro entries nodup
    rw [keys_setEntry]
    split
    · exact nodup
    · rename_i absent
      exact List.nodup_append.mpr ⟨nodup, List.pairwise_singleton _ key,
        fun a member b same => by rintro rfl; simp at same; exact absent (same ▸ member)⟩
  unfold Osi.configSetString
  dsimp only
  split
  · exact wf.modifySection sectionName _ unique
  · rename_i absent
    refine ⟨?_, fun sec member => ?_⟩
    · rw [List.map_append, List.nodup_append]
      refine ⟨wf.names, List.pairwise_singleton _ _, fun a member b same => ?_⟩
      rintro rfl
      simp only [List.map_cons, List.map_nil, List.mem_singleton] at same
      obtain ⟨sec, held, rfl⟩ := List.mem_map.mp member
      exact absent (List.any_eq_true.mpr ⟨sec, held, by simpa using same⟩)
    · rcases List.mem_append.mp member with old | new
      · exact wf.keys sec old
      · rw [List.mem_singleton.mp new]
        exact unique [] List.nodup_nil

theorem Config.Wf.configRemoveSection {config : Config} (wf : config.Wf) (sectionName : List UInt8) :
    (Osi.configRemoveSection config sectionName).1.Wf := by
  unfold Osi.configRemoveSection
  split
  · exact ⟨wf.names.sublist (List.eraseP_sublist.map _),
      fun sec member => wf.keys sec (List.eraseP_sublist.subset member)⟩
  · exact wf

theorem Config.Wf.configRemoveKey {config : Config} (wf : config.Wf) (sectionName key : List UInt8) :
    (Osi.configRemoveKey config sectionName key).1.Wf := by
  unfold Osi.configRemoveKey
  split
  · exact wf
  · split
    · exact wf.modifySection sectionName _ fun entries nodup =>
        nodup.sublist (List.eraseP_sublist.map _)
    · exact wf

theorem configBuild_wf (calls : List ConfigCall) : (configBuild calls).Wf := by
  have step : ∀ (config : Config) (call : ConfigCall), config.Wf → (call.apply config).Wf := by
    intro config call wf
    cases call with
    | setString sectionName key value => exact wf.configSetString sectionName key value
    | setInt sectionName key value => exact wf.configSetString sectionName key _
    | setBool sectionName key value => exact wf.configSetString sectionName key _
    | removeKey sectionName key => exact wf.configRemoveKey sectionName key
    | removeSection sectionName => exact wf.configRemoveSection sectionName
  unfold configBuild
  -- the calls are folded in from the left, from an empty config
  suffices folded : ∀ config : Config, config.Wf → (calls.foldl ConfigCall.apply config).Wf from
    folded _ ⟨List.nodup_nil, fun _ member => absurd member List.not_mem_nil⟩
  induction calls with
  | nil => exact fun _ wf => wf
  | cons call calls ih => exact fun config wf => ih _ (step config call wf)

/-! ## Reading the lines back -/

/-- The lines of a section as `config_save` writes them, without their newlines. -/
def savedLines (sec : Section) : List (List UInt8) :=
  headerLine sec :: sec.entries.map entryLine ++ [[]]

theorem configSerialize_eq (config : Config) :
    configSerialize config = (config.sections.flatMap savedLines).flatMap (· ++ [newlineByte]) := by
  simp [configSerialize, savedLines, headerLine, entryLine, List.flatMap_map, List.flatMap_assoc]

theorem fgetsLoop_line (size : ℕ) {line : List UInt8} (plain : newlineByte ∉ line) {room : ℕ}
    (fits : line.length + 1 ≤ room) (acc rest : List UInt8) :
    fgetsLoop size room acc (line ++ newlineByte :: rest) =
      (acc.reverse ++ line ++ [newlineByte]) :: fgetsLoop size (size - 1) [] rest := by
  induction line generalizing room acc with
  | nil => simp [fgetsLoop]
  | cons c line ih =>
    have other : c ≠ newlineByte := fun same => plain (same ▸ List.mem_cons_self)
    have roomy : ¬ room ≤ 1 := by
      simp only [List.length_cons] at fits
      omega
    rw [List.cons_append, fgetsLoop, if_neg (by rintro (newline | full) <;> contradiction),
      ih (fun mem => plain (List.mem_cons_of_mem c mem)) (by simp only [List.length_cons] at fits; omega)]
    simp

/-- **`fgets` gives back each line written**, with its newline, when every line
and its newline fit the buffer. -/
theorem fgetsLines_flatMap {size : ℕ} {lines : List (List UInt8)} (plain : ∀ line ∈ lines, newlineByte ∉ line)
    (fits : ∀ line ∈ lines, line.length + 1 ≤ size - 1) :
    fgetsLines size (lines.flatMap (· ++ [newlineByte])) = lines.map (· ++ [newlineByte]) := by
  induction lines with
  | nil => simp [fgetsLines, fgetsLoop]
  | cons line lines ih =>
    have rest := ih (fun other mem => plain other (List.mem_cons_of_mem line mem))
      (fun other mem => fits other (List.mem_cons_of_mem line mem))
    unfold fgetsLines at rest ⊢
    rw [List.flatMap_cons, List.append_assoc, List.singleton_append,
      fgetsLoop_line size (plain line List.mem_cons_self) (fits line List.mem_cons_self), rest]
    simp

theorem strchrSplit_append {c : UInt8} {before : List UInt8} (absent : c ∉ before) (after : List UInt8) :
    strchrSplit c (before ++ c :: after) = some (before, after) := by
  induction before with
  | nil => simp [strchrSplit]
  | cons x before ih =>
    have other : x ≠ c := fun same => absent (same ▸ List.mem_cons_self)
    rw [List.cons_append, strchrSplit, if_neg other, ih (fun mem => absent (List.mem_cons_of_mem x mem))]
    rfl

/-! ## `trim` of the lines written -/

theorem not_mem_headerLine {b : UInt8} {sec : Section} (absent : b ∉ sec.name) (notOpen : b ≠ openBracketByte)
    (notClose : b ≠ closeBracketByte) : b ∉ headerLine sec := by
  simp [headerLine, absent, notOpen, notClose]

theorem not_mem_entryLine {b : UInt8} {entry : Entry} (key : b ∉ entry.key) (value : b ∉ entry.value)
    (notSpace : b ≠ spaceByte) (notEquals : b ≠ equalsByte) : b ∉ entryLine entry := by
  simp [entryLine, key, value, notSpace, notEquals]

theorem trim_of_nulFree {s : List UInt8} (nul : 0 ∉ s) : trim s = trimBy isSpace s := by
  rw [trim, List.takeWhile_eq_self_iff.mpr]
  intro c mem
  exact decide_eq_true fun same => nul (same ▸ mem)

theorem trim_headerLine {sec : Section} (plain : plainBytes sec.name = true) :
    trim (headerLine sec ++ [newlineByte]) = headerLine sec := by
  obtain ⟨-, nul, -, -⟩ := plainBytes_eq_true.mp plain
  have ends : (headerLine sec).getLast? = some closeBracketByte := by
    rw [headerLine, ← List.cons_append]
    exact List.getLast?_concat
  rw [trim_of_nulFree (by simp [headerLine, nul, newlineByte, openBracketByte, closeBracketByte]),
    trimBy_append_blank _ _ (by simp [isSpace, newlineByte])]
  simpa using trimBy_eq isSpace [] (headerLine sec) [] (by simp) (by simp)
    (by simp [headerLine, isSpace, openBracketByte]) (by simp [ends, isSpace, closeBracketByte])

/-- The part of an entry line before its `=`, after `trim`. -/
def keyPart (key : List UInt8) : List UInt8 := if key = [] then [] else key ++ [spaceByte]

/-- The part after it: the blank before the value goes with the line's end when
the value is empty. -/
def valuePart (value : List UInt8) : List UInt8 := if value = [] then [] else spaceByte :: value

theorem trimBy_keyPart {key : List UInt8} (first : ∀ c ∈ key.head?, isSpace c = false)
    (last : ∀ c ∈ key.getLast?, isSpace c = false) : trimBy isSpace (keyPart key) = key := by
  unfold keyPart
  split
  · rename_i empty
    rw [empty]
    rfl
  · simpa using trimBy_eq isSpace [] key [spaceByte] (by simp) (by simp [isSpace, spaceByte]) first last

theorem trimBy_valuePart {value : List UInt8} (first : ∀ c ∈ value.head?, isSpace c = false)
    (last : ∀ c ∈ value.getLast?, isSpace c = false) : trimBy isSpace (valuePart value) = value := by
  unfold valuePart
  split
  · rename_i empty
    rw [empty]
    rfl
  · simpa using trimBy_eq isSpace [spaceByte] value [] (by simp [isSpace, spaceByte]) (by simp) first last

theorem trim_entryLine {entry : Entry} (named : plainKey entry.key = true) (plain : plainBytes entry.value = true) :
    trim (entryLine entry ++ [newlineByte]) = keyPart entry.key ++ equalsByte :: valuePart entry.value := by
  obtain ⟨plainName, -, -, -⟩ := plainKey_eq_true.mp named
  obtain ⟨-, keyNul, first, last⟩ := plainBytes_eq_true.mp plainName
  obtain ⟨-, valueNul, valueFirst, valueLast⟩ := plainBytes_eq_true.mp plain
  rw [trim_of_nulFree (by simp [entryLine, keyNul, valueNul, newlineByte, spaceByte, equalsByte]),
    trimBy_append_blank _ _ (by simp [isSpace, newlineByte]), entryLine,
    trimBy_separated isSpace (by decide) (by decide) first last valueFirst valueLast]
  rfl

/-! ## The parse, line by line -/

theorem configParseLines_set {line key value : List UInt8} {first : UInt8} {rest : List UInt8}
    (trimmed : trim line = first :: rest) (other : first ≠ hashByte ∧ first ≠ openBracketByte)
    (split : strchrSplit equalsByte (first :: rest) = some (key, value)) (sectionName : List UInt8)
    (config : Config) (lines : List (List UInt8)) :
    configParseLines sectionName config (line :: lines) =
      configParseLines sectionName (configSetString config sectionName (trim key) (trim value)) lines := by
  simp only [configParseLines, trimmed]
  rw [if_neg other.1, if_neg other.2, split]

/-- A `[name]` line changes the section. -/
theorem configParseLines_header {sec : Section} (plain : plainBytes sec.name = true) (sectionName : List UInt8)
    (config : Config) (lines : List (List UInt8)) :
    configParseLines sectionName config ((headerLine sec ++ [newlineByte]) :: lines) =
      configParseLines sec.name config lines := by
  have ends : (headerLine sec).getLast? = some closeBracketByte := by
    rw [headerLine, ← List.cons_append]
    exact List.getLast?_concat
  have trimmed : trim (headerLine sec ++ [newlineByte]) = openBracketByte :: (sec.name ++ [closeBracketByte]) :=
    trim_headerLine plain
  simp only [configParseLines, trimmed]
  rw [if_neg (by decide), if_pos trivial, if_neg (by simpa [headerLine] using ends)]
  simp

/-- A `key = value` line sets the key, for a key and a value the format carries. -/
theorem configParseLines_entry {entry : Entry} (named : plainKey entry.key = true)
    (plain : plainBytes entry.value = true) (sectionName : List UInt8) (config : Config)
    (lines : List (List UInt8)) :
    configParseLines sectionName config ((entryLine entry ++ [newlineByte]) :: lines) =
      configParseLines sectionName (configSetString config sectionName entry.key entry.value) lines := by
  obtain ⟨plainName, noEquals, notComment, notHeader⟩ := plainKey_eq_true.mp named
  obtain ⟨-, keyNul, first, last⟩ := plainBytes_eq_true.mp plainName
  obtain ⟨-, valueNul, valueFirst, valueLast⟩ := plainBytes_eq_true.mp plain
  have split : strchrSplit equalsByte (keyPart entry.key ++ equalsByte :: valuePart entry.value) =
      some (keyPart entry.key, valuePart entry.value) := by
    refine strchrSplit_append ?_ _
    unfold keyPart
    split <;> simp [noEquals, show equalsByte ≠ spaceByte by decide]
  -- the trimmed line starts with the key, or with the `=` of an empty key
  obtain ⟨c, rest, start, other⟩ : ∃ c rest,
      keyPart entry.key ++ equalsByte :: valuePart entry.value = c :: rest ∧ c ≠ hashByte ∧
        c ≠ openBracketByte := by
    unfold keyPart
    split
    · exact ⟨equalsByte, _, rfl, by decide, by decide⟩
    · rename_i present
      obtain ⟨c, rest, key⟩ := List.exists_cons_of_ne_nil present
      refine ⟨c, _, by rw [key, List.cons_append, List.cons_append], ?_, ?_⟩
      · intro comment
        exact notComment (by rw [key, comment]; rfl)
      · intro header
        exact notHeader (by rw [key, header]; rfl)
  have trimmed := trim_entryLine named plain
  rw [start] at trimmed split
  have keyTrimmed : trim (keyPart entry.key) = entry.key := by
    rw [trim_of_nulFree ?_, trimBy_keyPart first last]
    unfold keyPart
    split <;> simp [keyNul, spaceByte]
  have valueTrimmed : trim (valuePart entry.value) = entry.value := by
    rw [trim_of_nulFree ?_, trimBy_valuePart valueFirst valueLast]
    unfold valuePart
    split <;> simp [valueNul, spaceByte]
  rw [configParseLines_set trimmed other split, keyTrimmed, valueTrimmed]

/-! ## The parse, section by section -/

theorem setEntry_of_not_mem {key : List UInt8} {entries : List Entry} (absent : key ∉ entries.map Entry.key)
    (value : List UInt8) : setEntry key value entries = entries ++ [⟨key, value⟩] := by
  induction entries with
  | nil => rfl
  | cons entry entries ih =>
    have other : entry.key ≠ key := fun same => absent (by simp [same])
    rw [setEntry, if_neg other, ih (fun mem => absent (List.mem_cons_of_mem _ mem))]
    rfl

theorem modifySection_append {name : List UInt8} (f : Section → Section) {secs : List Section}
    (absent : name ∉ secs.map Section.name) (sec : Section) (named : sec.name = name) :
    modifySection name f (secs ++ [sec]) = secs ++ [f sec] := by
  induction secs with
  | nil => simp [modifySection, named]
  | cons sec₁ secs ih =>
    have other : sec₁.name ≠ name := fun same => absent (by simp [same])
    rw [List.cons_append, modifySection, if_neg other, ih (fun mem => absent (List.mem_cons_of_mem _ mem))]
    rfl

theorem takeWhile_ne_newline {value : List UInt8} (plain : newlineByte ∉ value) :
    value.takeWhile (· ≠ newlineByte) = value := by
  rw [List.takeWhile_eq_self_iff.mpr]
  intro c mem
  exact decide_eq_true fun same => plain (same ▸ mem)

/-- **`config_set_string` while a section is read**: the section read so far is
last, or not there yet while it has no entry, and the key is new in it. -/
theorem configSetString_reading {done : List Section} {name key value : List UInt8} {entries : List Entry}
    (fresh : name ∉ done.map Section.name) (newKey : key ∉ entries.map Entry.key)
    (plain : newlineByte ∉ value) :
    configSetString ⟨(done ++ [Section.mk name entries]).filter Section.hasEntries⟩ name key value =
      ⟨(done ++ [Section.mk name (entries ++ [⟨key, value⟩])]).filter Section.hasEntries⟩ := by
  have kept : name ∉ (done.filter Section.hasEntries).map Section.name := fun mem =>
    fresh ((List.filter_sublist.map _).subset mem)
  unfold configSetString
  rw [takeWhile_ne_newline plain]
  dsimp only
  rw [List.filter_append, List.filter_append]
  cases entries with
  | nil =>
    -- the section's first key adds it at the end
    have absent : (done.filter Section.hasEntries ++ []).any (·.name = name) = false := by
      simpa using fun sec held named => kept (List.mem_map.mpr ⟨sec, held, named⟩)
    simp only [Section.hasEntries, List.isEmpty_nil, Bool.not_true, Bool.false_eq_true, not_false_eq_true,
      List.filter_cons_of_neg, List.filter_nil] at absent ⊢
    rw [if_neg (by simpa using absent)]
    simp [setEntry, Section.hasEntries]
  | cons entry entries =>
    have present : (done.filter Section.hasEntries ++ [Section.mk name (entry :: entries)]).any (·.name = name) :=
      List.any_eq_true.mpr ⟨_, List.mem_append_right _ List.mem_cons_self, by simp⟩
    simp only [Section.hasEntries, List.isEmpty_cons, Bool.not_false, List.filter_cons_of_pos,
      List.filter_nil, List.cons_append] at present ⊢
    rw [if_pos present, modifySection_append _ kept _ rfl, setEntry_of_not_mem newKey]
    rfl

/-- A section whose lines the parser reads back: a name and entries the format
carries, and one entry for each key. -/
structure Section.Readable (sec : Section) : Prop where
  name : plainBytes sec.name = true
  entries : ∀ entry ∈ sec.entries, plainKey entry.key = true ∧ plainBytes entry.value = true
  keys : (sec.entries.map Entry.key).Nodup

/-- The entry lines of a section set its keys in turn, the first one adding the
section at the end. -/
theorem configParseLines_entries {name : List UInt8} {done : List Section} (fresh : name ∉ done.map Section.name)
    (rest : List (List UInt8)) :
    ∀ (entries acc : List Entry), ((acc ++ entries).map Entry.key).Nodup →
      (∀ entry ∈ entries, plainKey entry.key = true ∧ plainBytes entry.value = true) →
      configParseLines name ⟨(done ++ [Section.mk name acc]).filter Section.hasEntries⟩
          (entries.map (fun entry => entryLine entry ++ [newlineByte]) ++ rest) =
        configParseLines name ⟨(done ++ [Section.mk name (acc ++ entries)]).filter Section.hasEntries⟩ rest
  | [], acc, _, _ => by rw [List.append_nil]; rfl
  | entry :: entries, acc, unique, carried => by
    obtain ⟨named, plain⟩ := carried entry List.mem_cons_self
    have newKey : entry.key ∉ acc.map Entry.key := by
      rw [List.map_append, List.map_cons] at unique
      exact fun mem => (List.nodup_append.mp unique).2.2 _ mem _ List.mem_cons_self rfl
    rw [List.map_cons, List.cons_append, configParseLines_entry named plain,
      configSetString_reading fresh newKey (plainBytes_eq_true.mp plain).1]
    rw [show acc ++ entry :: entries = acc ++ [⟨entry.key, entry.value⟩] ++ entries by simp]
    exact configParseLines_entries fresh rest entries _ (by simpa using unique)
      fun other mem => carried other (List.mem_cons_of_mem _ mem)

/-- **One section.**  Its lines add it at the end when it has an entry, and
leave the parse in it. -/
theorem configParseLines_savedLines {sec : Section} (readable : sec.Readable) {done : List Section}
    (fresh : sec.name ∉ done.map Section.name) (sectionName : List UInt8) (rest : List (List UInt8)) :
    configParseLines sectionName ⟨done.filter Section.hasEntries⟩
        ((savedLines sec).map (· ++ [newlineByte]) ++ rest) =
      configParseLines sec.name ⟨(done ++ [sec]).filter Section.hasEntries⟩ rest := by
  -- before the first entry the section is not there: it has no entry yet
  have start : done.filter Section.hasEntries = (done ++ [Section.mk sec.name []]).filter Section.hasEntries := by
    simp [Section.hasEntries]
  rw [savedLines, List.map_append, List.map_cons, List.cons_append, List.cons_append,
    configParseLines_header readable.name, start, List.map_map, List.append_assoc]
  rw [show (fun line => line ++ [newlineByte]) ∘ entryLine = fun entry => entryLine entry ++ [newlineByte] from rfl,
    configParseLines_entries fresh _ sec.entries [] (by simpa using readable.keys) readable.entries]
  -- the blank line after the section
  rfl

theorem configParseLines_sections (sectionName : List UInt8) :
    ∀ (secs done : List Section), ((done ++ secs).map Section.name).Nodup → (∀ sec ∈ secs, sec.Readable) →
      configParseLines sectionName ⟨done.filter Section.hasEntries⟩
          (secs.flatMap fun sec => (savedLines sec).map (· ++ [newlineByte])) =
        some ⟨(done ++ secs).filter Section.hasEntries⟩
  | [], done, _, _ => by rw [List.append_nil]; rfl
  | sec :: secs, done, unique, readable => by
    have fresh : sec.name ∉ done.map Section.name := by
      rw [List.map_append, List.map_cons] at unique
      exact fun mem => (List.nodup_append.mp unique).2.2 _ mem _ List.mem_cons_self rfl
    rw [List.flatMap_cons, configParseLines_savedLines (readable sec List.mem_cons_self) fresh,
      show done ++ sec :: secs = done ++ [sec] ++ secs by simp]
    exact configParseLines_sections sec.name secs (done ++ [sec]) (by simpa using unique)
      fun other mem => readable other (List.mem_cons_of_mem _ mem)

/-! ## The round trip -/

theorem configSave_eq {config : Config} (nul : ∀ line ∈ config.sections.flatMap savedLines, 0 ∉ line) :
    configSave config = (config.sections.flatMap savedLines).flatMap (· ++ [newlineByte]) := by
  rw [configSave, configSerialize_eq, List.takeWhile_eq_self_iff.mpr]
  intro c mem
  obtain ⟨line, held, within⟩ := List.mem_flatMap.mp mem
  rcases List.mem_append.mp within with inLine | newline
  · exact decide_eq_true fun same => nul line held (same ▸ inLine)
  · rw [List.mem_singleton.mp newline]
    decide

section Conditions

variable {config : Config} (saveable : config.saveable = true)
include saveable

theorem readable_of_saveable (wf : config.Wf) {sec : Section} (held : sec ∈ config.sections) :
    sec.Readable := by
  have conditions := List.all_eq_true.mp saveable sec held
  simp only [Bool.and_eq_true, List.all_eq_true] at conditions
  obtain ⟨⟨name, -⟩, entries⟩ := conditions
  exact ⟨name, fun entry mem => (entries entry mem).1, wf.keys sec held⟩

/-- Every line written has no newline of its own and no NUL, and fits the buffer. -/
theorem savedLines_carried : ∀ line ∈ config.sections.flatMap savedLines,
    newlineByte ∉ line ∧ 0 ∉ line ∧ line.length + 1 ≤ 4096 - 1 := by
  intro line held
  obtain ⟨sec, member, line_mem⟩ := List.mem_flatMap.mp held
  have conditions := List.all_eq_true.mp saveable sec member
  simp only [Bool.and_eq_true, List.all_eq_true] at conditions
  obtain ⟨⟨name, headerFits⟩, entries⟩ := conditions
  simp only [savedLines, List.cons_append, List.mem_cons, List.mem_append, List.mem_map,
    List.not_mem_nil, or_false] at line_mem
  rcases line_mem with rfl | ⟨entry, mem, rfl⟩ | rfl
  · -- the header
    obtain ⟨nameNewline, nameNul, -, -⟩ := plainBytes_eq_true.mp name
    have fits : (headerLine sec).length + 1 < 4096 := by simpa [lineFits] using headerFits
    exact ⟨not_mem_headerLine nameNewline (by decide) (by decide),
      not_mem_headerLine nameNul (by decide) (by decide), by omega⟩
  · -- an entry
    obtain ⟨⟨named, plain⟩, entryFits⟩ := entries entry mem
    obtain ⟨keyNewline, keyNul, -, -⟩ := plainBytes_eq_true.mp (plainKey_eq_true.mp named).1
    obtain ⟨valueNewline, valueNul, -, -⟩ := plainBytes_eq_true.mp plain
    have fits : (entryLine entry).length + 1 < 4096 := by simpa [lineFits] using entryFits
    exact ⟨not_mem_entryLine keyNewline valueNewline (by decide) (by decide),
      not_mem_entryLine keyNul valueNul (by decide) (by decide), by omega⟩
  · -- the blank line
    simp

end Conditions

/-- **The config comes back from its file, but for its empty sections.**  For a
config built by any calls, whose names, keys and values the format carries and
whose lines fit the buffer, in bytes, `config_new` on the bytes `config_save`
writes gives back its sections in order with their entries in order, the
sections without entries left out. -/
theorem config_save_parse_round_trip (calls : List ConfigCall) (saveable : (configBuild calls).saveable = true) :
    configNew (configSave (configBuild calls)) =
      some ⟨(configBuild calls).sections.filter Section.hasEntries⟩ := by
  have wf := configBuild_wf calls
  have lines := savedLines_carried saveable
  rw [configNew, configSave_eq fun line held => (lines line held).2.1,
    fgetsLines_flatMap (fun line held => (lines line held).1) (fun line held => (lines line held).2.2),
    List.map_flatMap]
  exact configParseLines_sections configDefaultSection _ [] wf.names
    fun sec held => readable_of_saveable saveable wf held

/-- An adapter section whose name is not ASCII, and a section whose only key is
removed. -/
def adapterCalls : List ConfigCall :=
  [.setString (utf8 "Adapter") (utf8 "Address") (utf8 "00:11:22:33:44:55"),
    .setString (utf8 "Adapter") (utf8 "Name") (utf8 "Küche"), .setInt (utf8 "Adapter") (utf8 "DiscoveryTimeout") 120,
    .setBool (utf8 "Metrics") (utf8 "Enabled") true, .removeKey (utf8 "Metrics") (utf8 "Enabled")]

theorem config_save_parse_round_trip_adapter :
    (configBuild adapterCalls).saveable = true ∧
      configNew (configSave (configBuild adapterCalls)) =
        some ⟨(configBuild adapterCalls).sections.filter Section.hasEntries⟩ :=
  ⟨by decide, config_save_parse_round_trip adapterCalls (by decide)⟩

/-- A key set and then removed: its section stays, with no entry. -/
def emptiedSection : List ConfigCall :=
  [.setString (utf8 "Adapter") (utf8 "Address") (utf8 "00:11:22:33:44:55"),
    .removeKey (utf8 "Adapter") (utf8 "Address")]

/-- **An empty section is lost.**  `config_save` writes its header and a blank
line, and `config_parse` never creates it, since no key of it arrives. -/
theorem config_save_drops_empty_section :
    configBuild emptiedSection = ⟨[⟨utf8 "Adapter", []⟩]⟩ ∧ (configBuild emptiedSection).saveable = true ∧
      configSave (configBuild emptiedSection) = utf8 "[Adapter]\n\n" ∧
      configNew (configSave (configBuild emptiedSection)) = some ⟨[]⟩ := by
  decide

end Bluedroid.Osi
