/-
  Proofs/Pattern/HighlightOptions.lean --- what the options of a highlight choose.

  Options are applied in two passes, presets before all others, and write one
  table of style names and one flag.  Still what they choose can be read off the
  values of each key by themselves: the last value of a level, the last preset
  that is known, and whether any value switches escape sequences off.  So the
  order of entries with different keys does not matter, and the flag of two lists
  is that of both.

      applyPreset_upperKey, applyOption_upperKey   what one entry does
      read_eq                                      what a list chooses
      create_highlight                             the converter that is made
-/
import LogLine.Pattern.Builtin
import LogLine.Pattern.Output
import LogLine.Proofs.Lists
import LogLine.Proofs.Text.LetterCase
import LogLine.Proofs.Text.Segments

set_option autoImplicit false

namespace LogLine

/-! ## Names of levels -/

namespace Level

theorem asciiUpper_name (level : Level) : Text.asciiUpper level.name = level.name := by
  cases level <;> rfl

theorem name_injective {a b : Level} (h : a.name = b.name) : a = b := by
  cases a <;> cases b <;> first | rfl | exact absurd h (by decide)

/-- A text is read as the level that it names in upper case. -/
theorem ofName?_eq_some_iff {text : Text} {level : Level} :
    ofName? text = some level ↔ Text.asciiUpper text = level.name := by
  have hfound : ∀ found, ofName? text = some found → Text.asciiUpper text = found.name := by
    intro found h
    have hsame := List.find?_some h
    rw [Text.sameIgnoringCase_iff, asciiUpper_name] at hsame
    exact hsame
  refine ⟨hfound level, fun h => ?_⟩
  cases hname : ofName? text with
  | none =>
    refine absurd ?_ (List.find?_eq_none.1 hname level level.mem_all)
    rw [Text.sameIgnoringCase_iff, asciiUpper_name]
    exact h
  | some found => rw [name_injective ((hfound found hname).symm.trans h)]

end Level

namespace Style.Highlight

/-! ## Entries -/

/-- The entries of a list, without the white space around them; empty ones do not
count. -/
def entries (list : Text) : List Text :=
  ((Text.pieces ',' list).map Text.trim).filter (· ≠ [])

/-- The key and the value of an entry. -/
def keyAndValue? (entry : Text) : Option (Text × Text) :=
  (Text.splitOnce '=' entry).map fun cut => (Text.trim cut.1, Text.trim cut.2)

/-- The keys and the values of the entries that have them. -/
def pairs (list : Text) : List (Text × Text) := (entries list).filterMap keyAndValue?

/-- The value of a pair with this key, in any case. -/
def valueOf? (key : Text) (pair : Text × Text) : Option Text :=
  if Text.sameIgnoringCase pair.1 key then some pair.2 else none

/-- The values of the entries with this key, in the order of the list. -/
def valuesOf (key list : Text) : List Text := (pairs list).filterMap (valueOf? key)

/-- The keys of options. -/
def keys : List Text := styleKey :: disableKey :: noConsoleKey :: Level.all.map Level.name

/-! ## What a list chooses -/

/-- The style names of a level: the last ones given for it, or those of the last
preset that is known, or those without options. -/
def chosenNames (list : Text) : PerLevel Text := fun level =>
  (valuesOf level.name list).getLast?.getD
    (((valuesOf styleKey list).filterMap preset?).getLast?.getD defaultNames level)

/-- Whether the options let escape sequences be written. -/
def allowsAnsi (config : Config) (list : Text) : Bool :=
  config.isAnsiEnabled && !(valuesOf disableKey list).any isOn &&
    (config.host.colorize || !(valuesOf noConsoleKey list).any isOn)

/-! ## What is reported -/

/-- The report of an entry without `=`. -/
def noKey (entry : Text) : Error :=
  (Error.new "syntax error, missing '=': expected \"KEY1=VALUE, KEY2=VALUE, ...\"").withText
    "entry" entry

/-- The report of a key that no option has; it is shown in upper case. -/
def unknownOption (key : Text) : Error :=
  (Error.new "unknown highlight option").withText "option" (Text.asciiUpper key)

/-- The report of a preset that there is not. -/
def unknownPreset (value : Text) : Error :=
  ((Error.new "unknown highlight style preset").withText "option" styleKey).withText "style" value

/-- What is reported of a pair for its preset. -/
def presetProblem? (pair : Text × Text) : Option Error :=
  if Text.sameIgnoringCase pair.1 styleKey && (preset? pair.2).isNone then
    some (unknownPreset pair.2)
  else none

/-- What is reported of a pair for its key. -/
def keyProblem? (pair : Text × Text) : Option Error :=
  if keys.any (Text.sameIgnoringCase pair.1) then none else some (unknownOption pair.1)

/-- What is reported of an entry for the sign that it lacks. -/
def signProblem? (entry : Text) : Option Error :=
  match keyAndValue? entry with
  | none => some (noKey entry)
  | some _ => none

/-- What is reported of an entry. -/
def problem? (entry : Text) : Option Error :=
  (signProblem? entry).or ((keyAndValue? entry).bind fun pair =>
    (presetProblem? pair).or (keyProblem? pair))

/-- The entries of which nothing is reported. -/
def soundEntries (list : Text) : List Text :=
  (entries list).filter fun entry => (problem? entry).isNone

/-! ## One entry -/

/-- A pair as options are read: its key in upper case. -/
def upperKey (pair : Text × Text) : Text × Text := (Text.asciiUpper pair.1, pair.2)

/-- A key is compared in upper case. -/
theorem sameIgnoringCase_key {key : Text} (hkey : key ∈ keys) (text : Text) :
    Text.sameIgnoringCase text key = decide (Text.asciiUpper text = key) := by
  have hupper : Text.asciiUpper key = key := by
    simp only [keys, List.mem_cons, List.mem_map] at hkey
    rcases hkey with rfl | rfl | rfl | ⟨level, -, rfl⟩
    · rfl
    · rfl
    · rfl
    · exact level.asciiUpper_name
  rw [Bool.eq_iff_iff, Text.sameIgnoringCase_iff, hupper, decide_eq_true_iff]

theorem styleKey_mem_keys : styleKey ∈ keys := List.mem_cons_self

theorem disableKey_mem_keys : disableKey ∈ keys := List.mem_cons_of_mem _ List.mem_cons_self

theorem noConsoleKey_mem_keys : noConsoleKey ∈ keys :=
  List.mem_cons_of_mem _ (List.mem_cons_of_mem _ List.mem_cons_self)

theorem name_mem_keys (level : Level) : level.name ∈ keys :=
  List.mem_cons_of_mem _ (List.mem_cons_of_mem _ (List.mem_cons_of_mem _
    (List.mem_map_of_mem level.mem_all)))

/-- No key has two meanings. -/
theorem name_ne_key (level : Level) :
    level.name ≠ styleKey ∧ level.name ≠ disableKey ∧ level.name ≠ noConsoleKey := by
  cases level <;> decide

theorem keys_any (text : Text) :
    keys.any (Text.sameIgnoringCase text) = decide (Text.asciiUpper text ∈ keys) := by
  rw [Bool.eq_iff_iff, List.any_eq_true, decide_eq_true_iff]
  constructor
  · rintro ⟨key, hkey, hsame⟩
    rw [sameIgnoringCase_key hkey, decide_eq_true_iff] at hsame
    rwa [hsame]
  · intro hkey
    exact ⟨_, hkey, by rw [sameIgnoringCase_key hkey, decide_eq_true_iff]⟩

/-- A table with another value for one level, by the name of the level. -/
theorem put_eq {α : Type} (table : PerLevel α) (level : Level) (value : α) :
    table.put level value = fun other =>
      (if level.name = other.name then some value else none).getD (table other) := by
  funext other
  by_cases hsame : other = level
  · rw [hsame, PerLevel.put_self, if_pos rfl, Option.getD_some]
  · have hother : level.name ≠ other.name := fun h => hsame (Level.name_injective h).symm
    rw [PerLevel.put_of_ne _ _ hsame, if_neg hother, Option.getD_none]

/-- Whether a pair lets escape sequences be written. -/
def keepsAnsi (host : Host) (pair : Text × Text) : Bool :=
  (valueOf? disableKey pair).all (fun value => !isOn value) &&
    (valueOf? noConsoleKey pair).all fun value => !isOn value || host.colorize

/-- What an entry does in the first pass. -/
theorem applyPreset_upperKey (state : PerLevel Text × List Error) (pair : Text × Text) :
    applyPreset state (upperKey pair) =
      (((valueOf? styleKey pair).bind preset?).getD state.1,
        state.2 ++ (presetProblem? pair).toList) := by
  have hstyle := sameIgnoringCase_key styleKey_mem_keys pair.1
  unfold applyPreset presetProblem? valueOf? upperKey
  by_cases hkey : Text.asciiUpper pair.1 = styleKey
  · cases hpreset : preset? pair.2 <;> simp [hstyle, hkey, hpreset, unknownPreset]
  · simp [hstyle, hkey]

/-- What an entry does in the second pass. -/
theorem applyOption_upperKey (host : Host) (state : Highlight × List Error) (pair : Text × Text) :
    applyOption host state (upperKey pair) =
      ({ names := fun level => (valueOf? level.name pair).getD (state.1.names level)
         ansi := state.1.ansi && keepsAnsi host pair },
        state.2 ++ (keyProblem? pair).toList) := by
  have hdisable := sameIgnoringCase_key disableKey_mem_keys pair.1
  have hnoConsole := sameIgnoringCase_key noConsoleKey_mem_keys pair.1
  have hlevel : ∀ level : Level, Text.sameIgnoringCase pair.1 level.name =
      decide (Text.asciiUpper pair.1 = level.name) :=
    fun level => sameIgnoringCase_key (name_mem_keys level) pair.1
  have hname : ∀ level, Level.ofName? (Text.asciiUpper pair.1) = some level ↔
      Text.asciiUpper pair.1 = level.name := by
    intro level
    rw [Level.ofName?_eq_some_iff, Text.asciiUpper_asciiUpper]
  unfold applyOption keepsAnsi keyProblem? valueOf? upperKey unknownOption
  rw [keys_any, hdisable, hnoConsole]
  simp only [hlevel]
  generalize Text.asciiUpper pair.1 = key at *
  by_cases hpreset : key = styleKey
  · subst hpreset
    have hne : ∀ level : Level, styleKey ≠ level.name := fun level => (name_ne_key level).1.symm
    have hdisable : styleKey ≠ disableKey := by decide
    have hnoConsole : styleKey ≠ noConsoleKey := by decide
    simp [hne, hdisable, hnoConsole, styleKey_mem_keys]
  by_cases hoff : key = disableKey
  · subst hoff
    have hne : ∀ level : Level, disableKey ≠ level.name := fun level => (name_ne_key level).2.1.symm
    have hnoConsole : disableKey ≠ noConsoleKey := by decide
    simp [hne, hpreset, hnoConsole, disableKey_mem_keys]
  by_cases hquiet : key = noConsoleKey
  · subst hquiet
    have hne : ∀ level : Level, noConsoleKey ≠ level.name :=
      fun level => (name_ne_key level).2.2.symm
    simp [hne, hpreset, hoff, noConsoleKey_mem_keys]
  cases hfound : Level.ofName? key with
  | some found =>
    obtain rfl := (hname found).1 hfound
    simp [hpreset, hoff, hquiet, name_mem_keys, put_eq]
  | none =>
    have hne : ∀ level : Level, key ≠ level.name := fun level hkey => by
      rw [(hname level).2 hkey] at hfound
      cases hfound
    have hunknown : key ∉ keys := by
      simp [keys, hpreset, hoff, hquiet, Ne.symm (hne _)]
    simp [hpreset, hoff, hquiet, hne, hunknown]

/-! ## A whole list -/

theorem readPairs_eq (list : Text) :
    readPairs list = ((pairs list).map upperKey, (entries list).filterMap signProblem?) := by
  have hpair : ∀ entry, (Entry.read entry).pair? = (keyAndValue? entry).map upperKey := by
    intro entry
    unfold Entry.read keyAndValue?
    cases Text.splitOnce '=' entry <;> rfl
  have hreport : ∀ entry, (Entry.read entry).report? = signProblem? entry := by
    intro entry
    unfold Entry.read signProblem? keyAndValue?
    cases Text.splitOnce '=' entry <;> rfl
  have hread : Entry.readAll list = (entries list).map Entry.read := rfl
  rw [readPairs, hread, pairs, List.map_filterMap, List.filterMap_map, List.filterMap_map]
  exact Prod.ext (List.filterMap_congr fun entry _ => hpair entry)
    (List.filterMap_congr fun entry _ => hreport entry)

/-- What the first pass leaves of a preset, and what it reports. -/
theorem foldl_applyPreset (list : List (Text × Text)) :
    (list.map upperKey).foldl applyPreset (defaultNames, []) =
      ((list.filterMap fun pair => (valueOf? styleKey pair).bind preset?).getLast?.getD
          defaultNames,
        list.filterMap presetProblem?) := by
  rw [List.foldl_map]
  refine Prod.ext ?_ ?_
  · exact foldl_getLast? (fun state pair => congrArg Prod.fst (applyPreset_upperKey state pair))
      (defaultNames, []) list
  · exact foldl_append (fun state pair => congrArg Prod.snd (applyPreset_upperKey state pair))
      (defaultNames, []) list

/-- What the second pass leaves of a highlight, and what it reports. -/
theorem foldl_applyOption (host : Host) (highlight : Highlight) (list : List (Text × Text)) :
    (list.map upperKey).foldl (applyOption host) (highlight, []) =
      ({ names := fun level =>
           (list.filterMap (valueOf? level.name)).getLast?.getD (highlight.names level)
         ansi := highlight.ansi && list.all (keepsAnsi host) },
        list.filterMap keyProblem?) := by
  rw [List.foldl_map]
  refine Prod.ext ?_ ?_
  · have hnames (level : Level) := foldl_getLast?
      (v := fun state : Highlight × List Error => state.1.names level)
      (fun state pair => congrArg (·.1.names level) (applyOption_upperKey host state pair))
      (highlight, []) list
    have hansi := foldl_all
      (v := fun state : Highlight × List Error => state.1.ansi)
      (fun state pair => congrArg (·.1.ansi) (applyOption_upperKey host state pair))
      (highlight, []) list
    exact congrArg₂ Highlight.mk (funext hnames) hansi
  · exact foldl_append
      (fun state pair => congrArg Prod.snd (applyOption_upperKey host state pair))
      (highlight, []) list

/-- All pairs let escape sequences be written if no value of either key takes that
back. -/
theorem all_keepsAnsi (host : Host) (list : List (Text × Text)) :
    list.all (keepsAnsi host) =
      (!(list.filterMap (valueOf? disableKey)).any isOn &&
        (host.colorize || !(list.filterMap (valueOf? noConsoleKey)).any isOn)) := by
  induction list with
  | nil => simp
  | cons pair list ih =>
    rw [List.all_cons, ih, keepsAnsi, List.filterMap_cons, List.filterMap_cons]
    -- each value adds its part to one of the two searches
    cases valueOf? disableKey pair <;> cases valueOf? noConsoleKey pair <;>
      simp only [Option.all_none, Option.all_some, List.any_cons, Bool.not_or, Bool.true_and,
        Bool.and_true, Bool.or_and_distrib_left, Bool.and_assoc, Bool.and_left_comm, Bool.or_comm]

/-- What a list of options gives. -/
theorem read_eq (config : Config) (list : Text) :
    read config (some list) =
      ({ names := chosenNames list, ansi := allowsAnsi config list },
        (entries list).filterMap signProblem? ++ (pairs list).filterMap presetProblem? ++
          (pairs list).filterMap keyProblem?) := by
  have hpresets : ((valuesOf styleKey list).filterMap preset?) =
      (pairs list).filterMap fun pair => (valueOf? styleKey pair).bind preset? :=
    List.filterMap_filterMap
  have hansi : allowsAnsi config list =
      (config.isAnsiEnabled && (pairs list).all (keepsAnsi config.host)) := by
    rw [all_keepsAnsi, allowsAnsi, Bool.and_assoc]
    rfl
  unfold read
  simp only [readPairs_eq, foldl_applyPreset, foldl_applyOption]
  rw [hansi]
  refine Prod.ext ?_ rfl
  refine congrArg (Highlight.mk · _) (funext fun level => ?_)
  rw [chosenNames, hpresets]
  rfl

/-- Each entry is reported once at most. -/
theorem perm_reports (list : Text) :
    ((entries list).filterMap signProblem? ++ (pairs list).filterMap presetProblem? ++
      (pairs list).filterMap keyProblem?).Perm ((entries list).filterMap problem?) := by
  have hkeys : ∀ pair, presetProblem? pair = none ∨ keyProblem? pair = none := by
    intro pair
    by_cases hkey : Text.sameIgnoringCase pair.1 styleKey = true
    · right
      exact if_pos (List.any_eq_true.2 ⟨styleKey, styleKey_mem_keys, hkey⟩)
    · left
      exact if_neg fun h => hkey (Bool.and_eq_true_iff.1 h).1
  have hsign : ∀ entry, signProblem? entry = none ∨
      ((keyAndValue? entry).bind fun pair => (presetProblem? pair).or (keyProblem? pair)) =
        none := by
    intro entry
    unfold signProblem?
    cases keyAndValue? entry with
    | none => exact .inr rfl
    | some pair => exact .inl rfl
  rw [List.append_assoc]
  refine ((perm_filterMap_or hkeys (pairs list)).append_left _).trans ?_
  rw [pairs, List.filterMap_filterMap]
  exact perm_filterMap_or hsign (entries list)

/-! ## Entries that are reported -/

/-- A level or a flag that an entry sets is not reported. -/
theorem valueOf?_of_problem {key entry : Text} {error : Error} (hkey : key ∈ keys)
    (hpreset : key ≠ styleKey) (h : problem? entry = some error) :
    (keyAndValue? entry).bind (valueOf? key) = none := by
  unfold problem? signProblem? at h
  cases hpair : keyAndValue? entry with
  | none => rfl
  | some pair =>
    refine if_neg fun hsame => ?_
    have hknown : keyProblem? pair = none := if_pos (List.any_eq_true.2 ⟨key, hkey, hsame⟩)
    have hother : presetProblem? pair = none := by
      rw [sameIgnoringCase_key hkey, decide_eq_true_iff] at hsame
      rw [presetProblem?, sameIgnoringCase_key styleKey_mem_keys, hsame, decide_eq_false hpreset]
      rfl
    simp [hpair, hknown, hother] at h

/-- A preset that an entry chooses is not reported. -/
theorem preset?_of_problem {entry : Text} {error : Error} (h : problem? entry = some error) :
    ((keyAndValue? entry).bind (valueOf? styleKey)).bind preset? = none := by
  unfold problem? signProblem? at h
  cases hpair : keyAndValue? entry with
  | none => rfl
  | some pair =>
    by_cases hsame : Text.sameIgnoringCase pair.1 styleKey = true
    · have hknown : keyProblem? pair = none :=
        if_pos (List.any_eq_true.2 ⟨styleKey, styleKey_mem_keys, hsame⟩)
      cases hpreset : preset? pair.2 with
      | none => simp [valueOf?, hsame, hpreset]
      | some names => simp [hpair, hknown, presetProblem?, hpreset] at h
    · simp [valueOf?, hsame]

/-- Entries that are reported count for nothing where they give nothing. -/
theorem filterMap_soundEntries {β : Type} {f : Text → Option β}
    (h : ∀ entry error, problem? entry = some error → f entry = none) (list : Text) :
    (soundEntries list).filterMap f = (entries list).filterMap f := by
  rw [soundEntries, List.filterMap_filter]
  refine List.filterMap_congr fun entry _ => ?_
  cases hproblem : problem? entry with
  | none => rfl
  | some error => exact (h entry error hproblem).symm

theorem valuesOf_of_soundEntries {key list other : Text} (hkey : key ∈ keys)
    (hpreset : key ≠ styleKey) (h : soundEntries other = soundEntries list) :
    valuesOf key other = valuesOf key list := by
  have hvalue := filterMap_soundEntries fun _ _ => valueOf?_of_problem hkey hpreset
  simp only [valuesOf, pairs, List.filterMap_filterMap, ← hvalue, h]

theorem presets_of_soundEntries {list other : Text} (h : soundEntries other = soundEntries list) :
    (valuesOf styleKey other).filterMap preset? = (valuesOf styleKey list).filterMap preset? := by
  have hpreset := filterMap_soundEntries fun _ _ => preset?_of_problem
  simp only [valuesOf, pairs, List.filterMap_filterMap, Option.bind_assoc] at hpreset ⊢
  rw [← hpreset, ← hpreset, h]

theorem chosenNames_of_soundEntries {list other : Text}
    (h : soundEntries other = soundEntries list) : chosenNames other = chosenNames list := by
  funext level
  rw [chosenNames, chosenNames, presets_of_soundEntries h,
    valuesOf_of_soundEntries (name_mem_keys level) (name_ne_key level).1 h]

theorem allowsAnsi_of_soundEntries (config : Config) {list other : Text}
    (h : soundEntries other = soundEntries list) :
    allowsAnsi config other = allowsAnsi config list := by
  rw [allowsAnsi, allowsAnsi, valuesOf_of_soundEntries disableKey_mem_keys (by decide) h,
    valuesOf_of_soundEntries noConsoleKey_mem_keys (by decide) h]

/-! ## Lists put together -/

theorem valuesOf_append (key a b : Text) :
    valuesOf key (a ++ ',' :: b) = valuesOf key a ++ valuesOf key b := by
  simp only [valuesOf, pairs, entries, Text.pieces_append_separator, List.map_append,
    List.filter_append, List.filterMap_append]

/-- What one list switches off no other switches on. -/
theorem allowsAnsi_append (config : Config) (a b : Text) :
    allowsAnsi config (a ++ ',' :: b) = (allowsAnsi config a && allowsAnsi config b) := by
  simp only [allowsAnsi, valuesOf_append, List.any_append]
  cases config.isAnsiEnabled <;> cases config.host.colorize <;>
    cases (valuesOf disableKey a).any isOn <;> cases (valuesOf disableKey b).any isOn <;>
    cases (valuesOf noConsoleKey a).any isOn <;> rfl

/-- An option is on if its value is `true`, in any case, and off for any other value. -/
theorem isOn_iff {value : Text} : isOn value = true ↔ Text.asciiUpper value = "TRUE".toList :=
  Text.sameIgnoringCase_iff

theorem allowsAnsi_iff {config : Config} {list : Text} :
    allowsAnsi config list = true ↔ config.isAnsiEnabled = true ∧
      (∀ value ∈ valuesOf disableKey list, Text.asciiUpper value ≠ "TRUE".toList) ∧
      (config.host.colorize = true ∨
        ∀ value ∈ valuesOf noConsoleKey list, Text.asciiUpper value ≠ "TRUE".toList) := by
  simp only [allowsAnsi, Bool.and_eq_true, Bool.or_eq_true, Bool.not_eq_true', List.any_eq_false,
    isOn_iff, and_assoc]

theorem isAnsiEnabled_of_allowsAnsi {config : Config} {list : Text}
    (h : allowsAnsi config list = true) : config.isAnsiEnabled = true :=
  (Bool.and_eq_true_iff.1 (Bool.and_eq_true_iff.1 h).1).1

end Style.Highlight

/-! ## The converter -/

namespace Builtin

open Style.Highlight

/-- The list of options among what comes after the inner pattern. -/
def listOf (options : List Argument) : Text := (options.head?.map Argument.text).getD []

/-- What a list of options makes of the output of the inner pattern. -/
def highlighting (config : Config) (list : Text) : Wrapper :=
  .highlight (fun level => Style.sequence config.host.depth (chosenNames list level))
    (allowsAnsi config list)

theorem read_listOf (config : Config) (argument : Argument) (options : List Argument) :
    read config ((argument :: options)[1]?.map Argument.text) =
      read config (some (listOf options)) := by
  cases options <;> rfl

/-- A highlight writes each level in the style of the last names given for it, or
else in that of the last known preset, wherever it stands, or else in that of the
default preset.  It writes escape sequences if the settings have them and no option
switches them off: none of two keys has the value `true`, in any case.  Each entry
without `=`, with a key that there is not or with a preset that there is not is
reported once, and the highlight is the same without it.  So entries with different
keys may change places, and no list of options brings escape sequences back. -/
theorem create_highlight (config : Config) (argument : Argument) (options : List Argument)
    {pattern : Pattern} {inner : List Report}
    (hinner : argument.asPattern.get = .done pattern inner) :
    (∃ reports : List Error,
      highlight.create config (argument :: options) =
        .made (.wrapped (highlighting config (listOf options)) pattern)
          (inner ++ reports.map .ignoredOption) ∧
      reports.Perm ((entries (listOf options)).filterMap problem?)) ∧
    (∀ list level anyVariable text, (highlighting config list).output level anyVariable text =
      if text ≠ [] ∧ allowsAnsi config list = true ∧
          Style.sequence config.host.depth (chosenNames list level) ≠ [] then
        Style.sequence config.host.depth (chosenNames list level) ++ text ++ Style.reset
      else text) ∧
    (∀ list, allowsAnsi config list = true ↔ config.isAnsiEnabled = true ∧
      (∀ value ∈ valuesOf "DISABLEANSI".toList list, Text.asciiUpper value ≠ "TRUE".toList) ∧
      (config.host.colorize = true ∨
        ∀ value ∈ valuesOf "NOCONSOLENOANSI".toList list,
          Text.asciiUpper value ≠ "TRUE".toList)) ∧
    (∀ list, allowsAnsi config list = true → config.isAnsiEnabled = true) ∧
    (∀ a b, allowsAnsi config (a ++ ',' :: b) = (allowsAnsi config a && allowsAnsi config b)) ∧
    (∀ list other, (∀ key ∈ keys, valuesOf key other = valuesOf key list) →
      highlighting config other = highlighting config list) ∧
    (∀ list other, soundEntries other = soundEntries list →
      highlighting config other = highlighting config list) := by
  refine ⟨⟨_, ?_, perm_reports (listOf options)⟩, ?_, fun _ => allowsAnsi_iff,
    fun _ => isAnsiEnabled_of_allowsAnsi, allowsAnsi_append config, ?_, ?_⟩
  · show Creation.ofPattern argument.asPattern.get _ = _
    rw [hinner, read_listOf, read_eq]
    rfl
  · intro list level anyVariable text
    by_cases htext : text = [] <;>
      simp [highlighting, Wrapper.output, Style.styled, htext]
  · intro list other hvalues
    have hnames : chosenNames other = chosenNames list := by
      funext level
      rw [chosenNames, chosenNames, hvalues _ (name_mem_keys level), hvalues _ styleKey_mem_keys]
    have hansi : allowsAnsi config other = allowsAnsi config list := by
      rw [allowsAnsi, allowsAnsi, hvalues _ disableKey_mem_keys, hvalues _ noConsoleKey_mem_keys]
    rw [highlighting, highlighting, hnames, hansi]
  · intro list other hsound
    rw [highlighting, highlighting, chosenNames_of_soundEntries hsound,
      allowsAnsi_of_soundEntries config hsound]

/-- A text as an option, and as an inner pattern without fields. -/
def emptyPattern (text : Text) : Argument := { text, asPattern := .pure (.done [] []) }

/-- Presets and levels, and all that is reported of a list. -/
def mixedList : Text := " error = BLUE,STYLE=neon,,Loud=red,style=Logback,broken,Error=bold".toList

/-- The options of it that count. -/
def soundList : Text := "error = BLUE,style=Logback,Error=bold".toList

/-- The same options with the preset after the others. -/
def reorderedList : Text := "ERROR=BLUE,error=bold,STYLE=Logback".toList

/-- An option that counts where no color is wanted. -/
def quietList : Text := "noConsoleNoAnsi=TRUE".toList

/-- Options that are not switched on by their values. -/
def idleList : Text := "disableAnsi=yes,noConsoleNoAnsi=1,DISABLEANSI=".toList

theorem create_highlight_mixedList :
    (emptyPattern "%m".toList).asPattern.get = .done [] [] ∧
    (∃ reports : List Error,
      highlight.create {} [emptyPattern "%m".toList, emptyPattern mixedList] =
        .made (.wrapped (highlighting {} mixedList) []) ([] ++ reports.map .ignoredOption) ∧
      reports.Perm [unknownPreset "neon".toList, unknownOption "Loud".toList,
        noKey "broken".toList]) ∧
    chosenNames mixedList .error = "bold".toList ∧ chosenNames mixedList .info = "blue".toList ∧
    allowsAnsi {} quietList = true ∧
    allowsAnsi { host := { colorize := false } } quietList = false ∧
    allowsAnsi { host := { colorize := false } } idleList = true ∧
    allowsAnsi {} "disableAnsi=yes,DisableANSI = tRuE".toList = false ∧
    highlighting {} soundList = highlighting {} mixedList ∧
    highlighting {} reorderedList = highlighting {} soundList := by
  have hentries : entries mixedList =
      ["error = BLUE".toList, "STYLE=neon".toList, "Loud=red".toList, "style=Logback".toList,
        "broken".toList, "Error=bold".toList] := by
    decide +kernel
  have hpairs : pairs mixedList =
      [("error".toList, "BLUE".toList), ("STYLE".toList, "neon".toList),
        ("Loud".toList, "red".toList), ("style".toList, "Logback".toList),
        ("Error".toList, "bold".toList)] := by
    rw [pairs, hentries]
    decide +kernel
  have hreports : (entries mixedList).filterMap problem? =
      [unknownPreset "neon".toList, unknownOption "Loud".toList, noKey "broken".toList] := by
    rw [hentries]
    rfl
  have hsame : soundEntries soundList = soundEntries mixedList := by
    rw [soundEntries, soundEntries, hentries]
    decide +kernel
  obtain ⟨⟨reports, hcreate, hperm⟩, -, hansi, -, -, hvalues, hsound⟩ :=
    create_highlight {} (emptyPattern "%m".toList) [emptyPattern mixedList] rfl
  obtain ⟨-, -, hquiet, -⟩ := create_highlight { host := { colorize := false } }
    (emptyPattern "%m".toList) [] rfl
  refine ⟨rfl, ⟨reports, hcreate, hreports ▸ hperm⟩, ?_, ?_,
    (hansi quietList).2 (by decide +kernel),
    Bool.eq_false_iff.2 fun h => absurd ((hquiet quietList).1 h) (by decide +kernel),
    (hquiet idleList).2 (by decide +kernel),
    Bool.eq_false_iff.2 fun h => absurd ((hansi _).1 h) (by decide +kernel),
    hsound mixedList soundList hsame, hvalues soundList reorderedList (by decide +kernel)⟩
  · rw [chosenNames, valuesOf, valuesOf, hpairs]
    decide +kernel
  · rw [chosenNames, valuesOf, valuesOf, hpairs]
    decide +kernel

end Builtin

end LogLine
