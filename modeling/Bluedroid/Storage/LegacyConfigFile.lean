import Bluedroid.Storage.ConfigCache
import Bluedroid.Theory.Trim

/-!
# Storage.LegacyConfigFile -- the config file, `legacy_config_file.cc`

`SerializeToLegacyFormat` writes the information sections and then the
persistent devices, each as a `[name]` line, a `property = value` line for each
property and a blank line.  `Read` takes the lines back one by one: after
`StringTrim`, an empty line or one that starts with a NUL or `#` is skipped, a
`[...]` line names the section, and any other line is split at its first `=`
and given to `SetProperty`.

A property whose name starts with a NUL character is written on a line that
`Read` skips, so it is lost (`read_drops_nul_property`).  `Read` builds its
cache with `temp_devices_capacity`, and aborts on a zero capacity as the
constructor does; its `SetProperty` calls read the `ParameterProvider` as any
others do.  This module has the
writer, the reader, and what `Read` does with each kind of line the writer
produces; `Storage.LegacyRoundTrip` assembles them into the round trip.
-/

namespace Bluedroid.Storage

open Bluedroid.Theory

set_option autoImplicit false

/-! ## Writing -/

/-- `ConfigCache::SerializeToLegacyFormat`; each `std::endl` is a newline. -/
def ConfigCache.serializeToLegacyFormat (c : ConfigCache) : String :=
  String.join ((c.informationSections.entries ++ c.persistentDevices.entries).map fun sect =>
    "[" ++ sect.1 ++ "]\n" ++
      String.join (sect.2.entries.map fun property => property.1 ++ " = " ++ property.2 ++ "\n") ++
      "\n")

/-! ## Reading -/

/-- `std::getline` over the whole file: the lines without their newlines, the
last one counted when no newline ends it.  `line` is the current line, reversed. -/
def getLinesLoop : List Char → List Char → List (List Char)
  | line, [] => if line = [] then [] else [line.reverse]
  | line, c :: cs => if c = '\n' then line.reverse :: getLinesLoop [] cs else getLinesLoop (c :: line) cs

def getLines (text : List Char) : List (List Char) := getLinesLoop [] text

/-- `common::StringTrim`: the characters of `isspace` go from both ends. -/
def stringTrim (s : List Char) : List Char := trimBy isCSpace s

/-- The loop of `common::StringSplit` for a one-character delimiter: `token` is
the text since the last split, reversed, and `splits` how many more splits it
may make (`none`: no limit). -/
def stringSplitLoop (delim : Char) : Option ℕ → List Char → List Char → List (List Char)
  | _, token, [] => [token.reverse]
  | splits, token, c :: cs =>
    if c = delim ∧ splits ≠ some 0 then token.reverse :: stringSplitLoop delim (splits.map (· - 1)) [] cs
    else stringSplitLoop delim splits (c :: token) cs

/-- `common::StringSplit (str, delim, max_token)`: at most `max_token` tokens, no
limit when it is `0`. -/
def stringSplit (str : List Char) (delim : Char) (maxToken : ℕ) : List (List Char) :=
  stringSplitLoop delim (if maxToken = 0 then none else some (maxToken - 1)) [] str

/-- `ConfigCache::kDefaultSectionName`. -/
def kDefaultSectionName : String := "Global"

/-- The loop of `LegacyConfigFile::Read`, in section `sectionName`; `none` is the
`std::nullopt` of a malformed line, or an abort of `SetProperty`. -/
def readLines (provider : ParameterProvider) (sectionName : String) (cache : ConfigCache) :
    List (List Char) → Option ConfigCache
  | [] => some cache
  | line :: lines =>
    match stringTrim line with
    | [] => readLines provider sectionName cache lines
    | first :: rest =>
      if first = '\x00' ∨ first = '#' then readLines provider sectionName cache lines
      else if first = '[' then
        if (first :: rest).getLast? ≠ some ']' then none
        -- "Read 'test' from '[text]', hence -2"
        else readLines provider
          (String.ofList (((first :: rest).drop 1).take ((first :: rest).length - 2))) cache lines
      else
        match stringSplit (first :: rest) '=' 2 with
        | [key, value] =>
          (cache.setProperty provider sectionName (String.ofList (stringTrim key))
            (String.ofList (stringTrim value))).bind fun cache =>
              readLines provider sectionName cache lines
        | _ => none

/-- `LegacyConfigFile::Read (temp_devices_capacity)`, given the file's text:
`none` also when the cache's constructor aborts. -/
def LegacyConfigFile.read (provider : ParameterProvider) (tempDevicesCapacity : ℕ) (text : String) :
    Option ConfigCache :=
  (ConfigCache.new tempDevicesCapacity kLinkKeyProperties).bind fun cache =>
    readLines provider kDefaultSectionName cache (getLines text.toList)

/-! ## The file format's conditions -/

/-- A name or value the format carries as it is: no newline and no blank at
either end. -/
def plainText (s : String) : Bool :=
  !s.toList.contains '\n' && !(s.toList.head?.any isCSpace) && !(s.toList.getLast?.any isCSpace)

/-- A property name a line carries: plain, with no `=`, and not starting as a
comment or a section header does. -/
def legacyPropertyName (s : String) : Bool :=
  plainText s && !s.toList.contains '=' && s.toList.head? ≠ some '#' && s.toList.head? ≠ some '['

/-- Every section written has a plain name, and plain properties. -/
def ConfigCache.legacyWritable (c : ConfigCache) : Bool :=
  (c.informationSections.entries ++ c.persistentDevices.entries).all fun sect =>
    plainText sect.1 &&
      sect.2.entries.all fun property => legacyPropertyName property.1 && plainText property.2

/-- No property written has a name that starts with a NUL character. -/
def ConfigCache.nulFree (c : ConfigCache) : Bool :=
  (c.informationSections.entries ++ c.persistentDevices.entries).all fun sect =>
    sect.2.entries.all fun property => property.1.toList.head? ≠ some '\x00'

/-- A cache with a property whose name is a NUL and a letter. -/
def nulProperty : List ConfigCache.Call := [.setProperty "Adapter" "\x00N" "v"]

/-- No keystore, and Common Criteria mode off. -/
def noKeystore : ParameterProvider := ⟨none, false⟩

/-- `Read` skips the line of a property whose name starts with a NUL: the
section written is not read back. -/
theorem read_drops_nul_property :
    ∃ c c', (ConfigCache.new 1 kLinkKeyProperties).bind (·.run noKeystore nulProperty) = some c ∧
      c.legacyWritable = true ∧ noKeystore.keystoreActive = false ∧
      LegacyConfigFile.read noKeystore 1 c.serializeToLegacyFormat = some c' ∧
      c'.informationSections ≠ c.informationSections :=
  ⟨_, _, rfl, by decide, rfl, rfl, by decide⟩

theorem plainText_eq_true {s : String} :
    plainText s = true ↔ '\n' ∉ s.toList ∧ (∀ c ∈ s.toList.head?, isCSpace c = false) ∧
      ∀ c ∈ s.toList.getLast?, isCSpace c = false := by
  unfold plainText
  cases s.toList.head? <;> cases s.toList.getLast? <;> simp [and_assoc]

theorem legacyPropertyName_eq_true {s : String} :
    legacyPropertyName s = true ↔ plainText s = true ∧ '=' ∉ s.toList ∧
      s.toList.head? ≠ some '#' ∧ s.toList.head? ≠ some '[' := by
  simp [legacyPropertyName, and_assoc]

/-! ## The lines the writer produces -/

/-- The lines of one section, as the writer puts them, without their newlines. -/
def sectionLines (sect : String × Properties) : List (List Char) :=
  ('[' :: (sect.1.toList ++ [']'])) ::
    sect.2.entries.map (fun property => property.1.toList ++ ' ' :: '=' :: ' ' :: property.2.toList) ++
    [[]]

theorem serializeToLegacyFormat_toList (c : ConfigCache) :
    c.serializeToLegacyFormat.toList =
      ((c.informationSections.entries ++ c.persistentDevices.entries).flatMap sectionLines).flatMap
        (· ++ ['\n']) := by
  simp [ConfigCache.serializeToLegacyFormat, sectionLines, String.toList_join, List.flatMap_map,
    List.flatMap_assoc]

theorem sectionLines_newline_free {sect : String × Properties} (nameLine : '\n' ∉ sect.1.toList)
    (propertyLines : ∀ property ∈ sect.2.entries,
      '\n' ∉ property.1.toList ∧ '\n' ∉ property.2.toList) :
    ∀ line ∈ sectionLines sect, '\n' ∉ line := by
  intro line mem
  simp only [sectionLines, List.cons_append, List.mem_cons, List.mem_append, List.mem_map,
    List.not_mem_nil, or_false] at mem
  rcases mem with rfl | ⟨property, held, rfl⟩ | rfl
  · simpa using nameLine
  · obtain ⟨key, value⟩ := propertyLines property held
    simp [key, value]
  · simp

theorem getLinesLoop_append {line : List Char} (plain : '\n' ∉ line) (acc rest : List Char) :
    getLinesLoop acc (line ++ '\n' :: rest) = (acc.reverse ++ line) :: getLinesLoop [] rest := by
  induction line generalizing acc with
  | nil => simp [getLinesLoop]
  | cons c line ih =>
    have other : c ≠ '\n' := fun same => plain (same ▸ List.mem_cons_self)
    rw [List.cons_append, getLinesLoop, if_neg other,
      ih (fun mem => plain (List.mem_cons_of_mem c mem))]
    simp

/-- `getline` gives back the lines written each with its newline. -/
theorem getLines_flatMap {lines : List (List Char)} (plain : ∀ line ∈ lines, '\n' ∉ line) :
    getLines (lines.flatMap (· ++ ['\n'])) = lines := by
  induction lines with
  | nil => simp [getLines, getLinesLoop]
  | cons line lines ih =>
    have rest := ih fun other mem => plain other (List.mem_cons_of_mem line mem)
    simp only [getLines] at rest ⊢
    rw [List.flatMap_cons, List.append_assoc, List.singleton_append,
      getLinesLoop_append (plain line List.mem_cons_self), rest]
    simp

/-! ## What `Read` does with each line -/

/-- `StringTrim` of text between blanks takes the blanks off, when the text has
none at either end. -/
theorem stringTrim_eq (pre s post : List Char) (blankPre : ∀ c ∈ pre, isCSpace c = true)
    (blankPost : ∀ c ∈ post, isCSpace c = true) (first : ∀ c ∈ s.head?, isCSpace c = false)
    (last : ∀ c ∈ s.getLast?, isCSpace c = false) : stringTrim (pre ++ s ++ post) = s :=
  trimBy_eq isCSpace pre s post blankPre blankPost first last

theorem stringTrim_nil : stringTrim [] = [] := rfl

theorem stringSplitLoop_of_not_mem {delim : Char} {s : List Char} (absent : delim ∉ s)
    (splits : Option ℕ) (token rest : List Char) :
    stringSplitLoop delim splits token (s ++ rest) =
      stringSplitLoop delim splits (s.reverse ++ token) rest := by
  induction s generalizing token with
  | nil => rfl
  | cons c s ih =>
    have other : c ≠ delim := fun same => absent (same ▸ List.mem_cons_self)
    rw [List.cons_append, stringSplitLoop, if_neg (fun split => other split.1),
      ih (fun mem => absent (List.mem_cons_of_mem c mem))]
    simp

theorem stringSplitLoop_last (delim : Char) (token rest : List Char) :
    stringSplitLoop delim (some 0) token rest = [token.reverse ++ rest] := by
  induction rest generalizing token with
  | nil => simp [stringSplitLoop]
  | cons c rest ih =>
    rw [stringSplitLoop, if_neg (fun split => split.2 rfl), ih]
    simp

/-- `StringSplit (line, "=", 2)` splits at the first `=` only. -/
theorem stringSplit_first {key : List Char} (absent : '=' ∉ key) (value : List Char) :
    stringSplit (key ++ '=' :: value) '=' 2 = [key, value] := by
  simp only [stringSplit]
  rw [stringSplitLoop_of_not_mem absent, stringSplitLoop, if_pos ⟨rfl, by decide⟩]
  simp [stringSplitLoop_last]

variable {provider : ParameterProvider}

theorem readLines_blank (sectionName : String) (cache : ConfigCache) (lines : List (List Char)) :
    readLines provider sectionName cache ([] :: lines) = readLines provider sectionName cache lines := rfl

/-- A `[name]` line changes the section. -/
theorem readLines_header (name sectionName : String) (cache : ConfigCache)
    (lines : List (List Char)) :
    readLines provider sectionName cache (('[' :: (name.toList ++ [']'])) :: lines) =
      readLines provider name cache lines := by
  have last : ('[' :: (name.toList ++ [']'])).getLast? = some ']' := by
    rw [← List.cons_append]
    exact List.getLast?_concat
  have trimmed : stringTrim ('[' :: (name.toList ++ [']'])) = '[' :: (name.toList ++ [']']) := by
    simpa using stringTrim_eq [] ('[' :: name.toList ++ [']']) []
      (by simp) (by simp) (by simp [isCSpace]) (by simp [last, isCSpace])
  simp [readLines, trimmed, last]

/-- A line with a text's ends blank-free and the first `=` after `key`: it
sets `key` to `value`. -/
theorem readLines_setProperty {line key value : List Char} {first : Char} {rest : List Char}
    (trimmed : stringTrim line = first :: rest) (other : first ≠ '\x00' ∧ first ≠ '#' ∧ first ≠ '[')
    (split : stringSplit (first :: rest) '=' 2 = [key, value]) (sectionName : String)
    (cache : ConfigCache) (lines : List (List Char)) :
    readLines provider sectionName cache (line :: lines) =
      (cache.setProperty provider sectionName (String.ofList (stringTrim key))
        (String.ofList (stringTrim value))).bind (readLines provider sectionName · lines) := by
  obtain ⟨notNul, notComment, notHeader⟩ := other
  simp only [readLines, trimmed]
  rw [if_neg (by rintro (nul | comment) <;> contradiction), if_neg notHeader, split]

/-- The value part of a line after `StringTrim`: the blank before the value goes
with the line's end when the value is empty. -/
def valuePart (value : List Char) : List Char := if value = [] then [] else ' ' :: value

theorem stringTrim_valuePart {value : List Char} (first : ∀ c ∈ value.head?, isCSpace c = false)
    (last : ∀ c ∈ value.getLast?, isCSpace c = false) : stringTrim (valuePart value) = value := by
  unfold valuePart
  split
  · case isTrue empty => rw [empty]; rfl
  · simpa using stringTrim_eq [' '] _ [] (by simp [isCSpace]) (by simp) first last

/-- A `property = value` line after `StringTrim`: the key, the blank before the
separator, and the value part. -/
theorem stringTrim_propertyLine {property value : List Char} (nonempty : property ≠ [])
    (first : ∀ c ∈ property.head?, isCSpace c = false) (last : ∀ c ∈ property.getLast?, isCSpace c = false)
    (valueFirst : ∀ c ∈ value.head?, isCSpace c = false)
    (valueLast : ∀ c ∈ value.getLast?, isCSpace c = false) :
    stringTrim (property ++ ' ' :: '=' :: ' ' :: value) = property ++ ' ' :: '=' :: valuePart value := by
  have separated := trimBy_separated isCSpace (show isCSpace ' ' = true by decide)
    (show isCSpace '=' = false by decide) first last valueFirst valueLast
  rw [if_neg nonempty, List.append_assoc] at separated
  exact separated

/-- A `property = value` line sets the property, for a name and a value the
format carries, when the name does not start with a NUL. -/
theorem readLines_property {property value : String} (named : legacyPropertyName property = true)
    (nul : property.toList.head? ≠ some '\x00') (nonempty : property ≠ "")
    (plain : plainText value = true) (sectionName : String) (cache : ConfigCache)
    (lines : List (List Char)) :
    readLines provider sectionName cache ((property.toList ++ ' ' :: '=' :: ' ' :: value.toList) :: lines) =
      (cache.setProperty provider sectionName property value).bind (readLines provider sectionName · lines) := by
  obtain ⟨plainName, noEquals, notComment, notHeader⟩ := legacyPropertyName_eq_true.mp named
  obtain ⟨-, first, last⟩ := plainText_eq_true.mp plainName
  obtain ⟨-, valueFirst, valueLast⟩ := plainText_eq_true.mp plain
  obtain ⟨c, rest, split⟩ := List.exists_cons_of_ne_nil (String.toList_eq_nil_iff.not.mpr nonempty)
  have trimmed := stringTrim_propertyLine (by simp [split]) first last valueFirst valueLast
  have key : stringTrim (property.toList ++ [' ']) = property.toList :=
    stringTrim_eq [] _ [' '] (by simp) (by simp [isCSpace]) first last
  have atEquals : stringSplit (property.toList ++ ' ' :: '=' :: valuePart value.toList) '=' 2 =
      [property.toList ++ [' '], valuePart value.toList] := by
    have absent : '=' ∉ property.toList ++ [' '] := by simp [noEquals]
    simpa using stringSplit_first absent (valuePart value.toList)
  have trimmedAt : stringTrim (property.toList ++ ' ' :: '=' :: ' ' :: value.toList) =
      c :: (rest ++ ' ' :: '=' :: valuePart value.toList) := by
    rw [trimmed, split, List.cons_append]
  have splitAt : stringSplit (c :: (rest ++ ' ' :: '=' :: valuePart value.toList)) '=' 2 =
      [property.toList ++ [' '], valuePart value.toList] := by
    rw [← List.cons_append, ← split]
    exact atEquals
  rw [readLines_setProperty trimmedAt ⟨?_, ?_, ?_⟩ splitAt, key,
    stringTrim_valuePart valueFirst valueLast, String.ofList_toList, String.ofList_toList]
  · simpa [split] using nul
  · simpa [split] using notComment
  · simpa [split] using notHeader

end Bluedroid.Storage
