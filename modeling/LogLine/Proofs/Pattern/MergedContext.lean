/-
  Proofs/Pattern/MergedContext.lean --- the entries of a record and its context
  as one map.

  The entries of the record come first and those of each source after them; the
  first value of a key counts.  What is collected is sorted at every moment and
  has exactly the first values of the keys asked for among the entries seen so
  far, so it does not depend on how often a key is met again:

      ContextKeys.FirstValues.collect   one more entry
      ContextKeys.exists_visit          the entries of one list
      ContextKeys.exists_collectAll     sources without a failure
      Builtin.create_context            what is written
-/
import LogLine.Pattern.Builtin
import LogLine.Pattern.Output
import LogLine.Proofs.Record.SortedEntries
import LogLine.Proofs.Text.TrimmedPieces

set_option autoImplicit false

namespace LogLine

/-! ## All entries -/

namespace Scene

/-- The entries of some sources, in order. -/
def entriesOf (scene : Scene) (sources : List ContextSource) : Entries :=
  sources.flatMap fun source => (source.contents scene.threadEntries).1

/-- The failure of a source after its entries. -/
def failureOf (scene : Scene) (source : ContextSource) : Option Error :=
  (source.contents scene.threadEntries).2

/-- The entries of the record and then those of the sources. -/
def allEntries (scene : Scene) : Entries :=
  scene.record.entries ++ scene.entriesOf scene.sources

end Scene

namespace ContextKeys

variable {keys : ContextKeys}

/-- Sorted entries that give each key asked for its first value among some
entries, and no other key. -/
structure FirstValues (keys : ContextKeys) (all shown : Entries) : Prop where
  sorted : shown.Sorted
  value : ∀ key, shown.valueOf? key =
    if keys.keys = [] ∨ key ∈ keys.keys then all.valueOf? key else none

theorem wants_iff {key : Text} : keys.wants key = true ↔ keys.keys = [] ∨ key ∈ keys.keys := by
  simp [wants]

theorem firstValues_nil (keys : ContextKeys) : FirstValues keys [] [] :=
  ⟨List.Pairwise.nil, fun key => by rw [Entries.valueOf?_nil, ite_self]⟩

/-- First values are the same if the keys asked for have the same values. -/
theorem FirstValues.unique {all more shown other : Entries} (h : FirstValues keys all shown)
    (hother : FirstValues keys more other)
    (hsame : ∀ key, more.valueOf? key = all.valueOf? key) : shown = other := by
  refine Entries.eq_of_sorted h.sorted hother.sorted fun key => ?_
  rw [h.value, hother.value, hsame]

/-- Collecting one more entry keeps the first values. -/
theorem FirstValues.collect {all shown : Entries} (h : FirstValues keys all shown)
    (entry : Entry) :
    ∃ next, keys.collect shown entry = .ok next ∧ FirstValues keys (all ++ [entry]) next := by
  have hone : ∀ key, Entries.valueOf? [entry] key = if entry.1 = key then some entry.2 else none :=
    fun key => Entries.valueOf?_cons entry [] key
  unfold ContextKeys.collect
  split
  · rename_i hnew
    rw [Bool.and_eq_true, wants_iff, Option.isNone_iff_eq_none, h.value] at hnew
    obtain ⟨hwanted, hnone⟩ := hnew
    rw [if_pos hwanted] at hnone
    refine ⟨_, rfl, Entries.sorted_put h.sorted _ _, fun key => ?_⟩
    rw [Entries.valueOf?_append, hone]
    by_cases hkey : entry.1 = key
    · subst hkey
      rw [Entries.valueOf?_put_self, if_pos hwanted, hnone, if_pos rfl, Option.none_or]
    · rw [Entries.valueOf?_put_of_ne _ _ hkey, if_neg hkey, Option.or_none, h.value]
  · rename_i hold
    rw [Bool.and_eq_true, wants_iff, Option.isNone_iff_eq_none, h.value] at hold
    refine ⟨_, rfl, h.sorted, fun key => ?_⟩
    rw [Entries.valueOf?_append, hone, h.value]
    by_cases hkey : entry.1 = key
    · subst hkey
      -- the key is not asked for, or it has a value already
      by_cases hwanted : keys.keys = [] ∨ entry.1 ∈ keys.keys
      · rw [if_pos hwanted] at hold
        obtain ⟨value, hvalue⟩ := Option.ne_none_iff_exists'.1 fun hnone => hold ⟨hwanted, hnone⟩
        rw [hvalue, Option.some_or]
      · rw [if_neg hwanted, if_neg hwanted]
    · rw [if_neg hkey, Option.or_none]

/-- Visiting entries never fails and keeps the first values. -/
theorem exists_visit {all shown : Entries} (h : FirstValues keys all shown) (entries : Entries) :
    ∃ next, entries.visit keys.collect shown = (next, none) ∧
      FirstValues keys (all ++ entries) next := by
  induction entries generalizing all shown with
  | nil => exact ⟨shown, rfl, by rwa [List.append_nil]⟩
  | cons entry rest ih =>
    obtain ⟨later, hlater, hfirst⟩ := h.collect entry
    obtain ⟨next, hnext, hvalues⟩ := ih hfirst
    rw [List.append_assoc, List.singleton_append] at hvalues
    refine ⟨next, ?_, hvalues⟩
    rw [Entries.visit, hlater]
    exact hnext

/-- A source gives its entries and then its failure. -/
theorem exists_visit_source (scene : Scene) {all shown : Entries}
    (h : FirstValues keys all shown) (source : ContextSource) :
    ∃ next, source.visit scene.threadEntries keys.collect shown = (next, scene.failureOf source) ∧
      FirstValues keys (all ++ scene.entriesOf [source]) next := by
  obtain ⟨next, hnext, hvalues⟩ := exists_visit h (source.contents scene.threadEntries).1
  refine ⟨next, ?_, ?_⟩
  · unfold ContextSource.visit Scene.failureOf
    simp only [hnext]
  · rwa [Scene.entriesOf, List.flatMap_cons, List.flatMap_nil, List.append_nil]

/-- Sources without a failure are collected, and those after them come next. -/
theorem exists_collectAll {scene : Scene} {all shown : Entries} (h : FirstValues keys all shown)
    {sources : List ContextSource} (hsources : ∀ source ∈ sources, scene.failureOf source = none) :
    ∃ next, FirstValues keys (all ++ scene.entriesOf sources) next ∧
      ∀ after, keys.collectAll scene.threadEntries shown (sources ++ after) =
        keys.collectAll scene.threadEntries next after := by
  induction sources generalizing all shown with
  | nil => exact ⟨shown, by rwa [Scene.entriesOf, List.flatMap_nil, List.append_nil], fun _ => rfl⟩
  | cons source rest ih =>
    rw [List.forall_mem_cons] at hsources
    obtain ⟨later, hlater, hfirst⟩ := exists_visit_source scene h source
    obtain ⟨next, hvalues, hnext⟩ := ih hfirst hsources.2
    have hentries : scene.entriesOf (source :: rest) =
        scene.entriesOf [source] ++ scene.entriesOf rest := by
      simp only [Scene.entriesOf, List.flatMap_cons, List.flatMap_nil, List.append_nil]
    refine ⟨next, by rwa [hentries, ← List.append_assoc], fun after => ?_⟩
    rw [hsources.1] at hlater
    rw [List.cons_append, collectAll, hlater]
    exact hnext after

/-- The first sources without a failure are collected after the record. -/
theorem exists_entries (keys : ContextKeys) {scene : Scene} {before after : List ContextSource}
    (hscene : scene.sources = before ++ after)
    (hbefore : ∀ source ∈ before, scene.failureOf source = none) :
    ∃ next, FirstValues keys (scene.record.entries ++ scene.entriesOf before) next ∧
      keys.entries scene = keys.collectAll scene.threadEntries next after := by
  obtain ⟨own, hown, hfirst⟩ := exists_visit (firstValues_nil keys) scene.record.entries
  rw [List.nil_append] at hfirst
  obtain ⟨next, hvalues, hnext⟩ := exists_collectAll hfirst hbefore
  refine ⟨next, hvalues, ?_⟩
  unfold entries
  rw [hown, hscene]
  exact hnext after

/-- Sources are collected up to the first failure. -/
theorem entries_of_failure {scene : Scene} {before after : List ContextSource}
    {source : ContextSource} {error : Error} (hscene : scene.sources = before ++ source :: after)
    (hbefore : ∀ earlier ∈ before, scene.failureOf earlier = none)
    (hsource : scene.failureOf source = some error) : keys.entries scene = .error error := by
  obtain ⟨shown, hvalues, hentries⟩ := exists_entries keys hscene hbefore
  obtain ⟨next, hnext, -⟩ := exists_visit_source scene hvalues source
  rw [hsource] at hnext
  rw [hentries, collectAll, hnext]

theorem forall_or_exists_failure (scene : Scene) (sources : List ContextSource) :
    (∀ source ∈ sources, scene.failureOf source = none) ∨
      ∃ before source after error, sources = before ++ source :: after ∧
        (∀ earlier ∈ before, scene.failureOf earlier = none) ∧
        scene.failureOf source = some error := by
  induction sources with
  | nil => exact .inl fun _ hsource => absurd hsource List.not_mem_nil
  | cons first rest ih =>
    cases hfirst : scene.failureOf first with
    | some error =>
      exact .inr ⟨[], first, rest, error, rfl, fun _ h => absurd h List.not_mem_nil, hfirst⟩
    | none =>
      rcases ih with hrest | ⟨before, source, after, error, rfl, hbefore, hsource⟩
      · exact .inl (List.forall_mem_cons.2 ⟨hfirst, hrest⟩)
      · exact .inr ⟨first :: before, source, after, error, rfl,
          List.forall_mem_cons.2 ⟨hfirst, hbefore⟩, hsource⟩

/-- Sources with keys that have a value before them change nothing. -/
theorem entries_of_repeated {scene : Scene} {before added after : List ContextSource}
    (hscene : scene.sources = before ++ after)
    (hadded : ∀ source ∈ added, scene.failureOf source = none)
    (hrepeated : ∀ entry ∈ scene.entriesOf added,
      ∃ earlier ∈ scene.record.entries ++ scene.entriesOf before, earlier.1 = entry.1) :
    keys.entries { scene with sources := before ++ added ++ after } = keys.entries scene := by
  rcases forall_or_exists_failure scene before with
    hbefore | ⟨front, source, back, error, rfl, hfront, hsource⟩
  · obtain ⟨shown, hvalues, hentries⟩ := exists_entries keys hscene hbefore
    have hsources : ({ scene with sources := before ++ added ++ after } : Scene).sources =
      before ++ added ++ after := rfl
    obtain ⟨other, hothers, hmore⟩ :=
      exists_entries keys hsources (List.forall_mem_append.2 ⟨hbefore, hadded⟩)
    have hsame : shown = other := by
      refine hvalues.unique hothers fun key => ?_
      have hsplit : scene.record.entries ++ scene.entriesOf (before ++ added) =
          scene.record.entries ++ scene.entriesOf before ++ scene.entriesOf added := by
        rw [Scene.entriesOf, List.flatMap_append, ← List.append_assoc]
        rfl
      show Entries.valueOf? (scene.record.entries ++ scene.entriesOf (before ++ added)) key = _
      rw [hsplit, Entries.valueOf?_append]
      cases hkey : Entries.valueOf? (scene.record.entries ++ scene.entriesOf before) key with
      | some value => rfl
      | none =>
        rw [Option.none_or, Entries.valueOf?_eq_none_iff]
        rintro entry hentry rfl
        obtain ⟨earlier, hearlier, hsame⟩ := hrepeated entry hentry
        exact Entries.valueOf?_eq_none_iff.1 hkey earlier hearlier hsame
    rw [hentries, hmore, hsame]
  · have hfails : scene.sources = front ++ source :: (back ++ after) := by rw [hscene]; simp
    have hstill : ({ scene with sources := front ++ source :: back ++ added ++ after } :
        Scene).sources = front ++ source :: (back ++ added ++ after) := by simp
    rw [entries_of_failure hfails hfront hsource, entries_of_failure hstill hfront hsource]

/-- The order of the keys asked for does not matter. -/
theorem entries_of_perm {other : ContextKeys} (h : other.keys.Perm keys.keys) (scene : Scene) :
    other.entries scene = keys.entries scene := by
  have hwants : other.wants = keys.wants := by
    funext key
    have hnil : other.keys = [] ↔ keys.keys = [] :=
      ⟨fun heq => List.perm_nil.1 (heq ▸ h).symm, fun heq => List.perm_nil.1 (heq ▸ h)⟩
    rw [Bool.eq_iff_iff, wants_iff, wants_iff, h.mem_iff, hnil]
  have hcollect : other.collect = keys.collect := by
    funext shown entry
    rw [ContextKeys.collect, ContextKeys.collect, hwants]
  have hall : ∀ threadEntries shown sources, other.collectAll threadEntries shown sources =
      keys.collectAll threadEntries shown sources := by
    intro threadEntries shown sources
    induction sources generalizing shown with
    | nil => rfl
    | cons source rest ih =>
      rw [collectAll, collectAll, hcollect]
      split
      · rfl
      · exact ih _
  unfold entries
  rw [hcollect]
  split
  · rfl
  · exact hall _ _ _

/-! ## What is written -/

/-- What is written of the entries found: the value of the key if one key is asked
for, and the list of all otherwise. -/
def shownText (keys : ContextKeys) (shown : Entries) : Text :=
  match keys.keys with
  | [key] => (shown.valueOf? key).getD []
  | _ => list shown

theorem output_eq (keys : ContextKeys) (scene : Scene) :
    keys.output scene = (keys.entries scene).map keys.shownText := by
  unfold output
  cases keys.entries scene with
  | error error => rfl
  | ok shown =>
    unfold shownText
    cases keys.keys with
    | nil => rfl
    | cons key rest =>
      cases rest with
      | nil => rfl
      | cons other rest => rfl

theorem write_of_entries {scene : Scene} {shown : Entries} (h : keys.entries scene = .ok shown)
    (buffer : Text) :
    Converter.write scene buffer (.context keys) =
      { next := .context keys, buffer := buffer ++ keys.shownText shown } := by
  have houtput : keys.output scene = .ok (keys.shownText shown) := by rw [output_eq, h]; rfl
  unfold Converter.write
  rw [houtput]

theorem write_of_error {scene : Scene} {error : Error} (h : keys.entries scene = .error error)
    (buffer : Text) :
    Converter.write scene buffer (.context keys) =
      { next := .context keys, buffer, failure := some error } := by
  have houtput : keys.output scene = .error error := by rw [output_eq, h]; rfl
  unfold Converter.write
  rw [houtput]

theorem write_congr {other : Scene} {scene : Scene} (h : keys.entries other = keys.entries scene)
    (buffer : Text) :
    Converter.write other buffer (.context keys) =
      Converter.write scene buffer (.context keys) := by
  cases hentries : keys.entries scene with
  | ok shown => rw [write_of_entries hentries, write_of_entries (h.trans hentries)]
  | error error => rw [write_of_error hentries, write_of_error (h.trans hentries)]

/-- If two keys or more are asked for, their order does not matter. -/
theorem write_of_perm {other : ContextKeys} (h : other.keys.Perm keys.keys)
    (hkeys : 2 ≤ keys.keys.length) (scene : Scene) (buffer : Text) :
    (Converter.write scene buffer (.context other)).buffer =
        (Converter.write scene buffer (.context keys)).buffer ∧
      (Converter.write scene buffer (.context other)).failure =
        (Converter.write scene buffer (.context keys)).failure := by
  have hentries := entries_of_perm h scene
  have hlist : ∀ asked : ContextKeys, 2 ≤ asked.keys.length → asked.shownText = list := by
    intro asked hasked
    funext shown
    unfold shownText
    split
    · rename_i key hkey
      rw [hkey, List.length_singleton] at hasked
      omega
    · rfl
  cases hshown : keys.entries scene with
  | ok shown =>
    rw [write_of_entries hshown, write_of_entries (hentries.trans hshown), hlist keys hkeys,
      hlist other (h.length_eq ▸ hkeys)]
    exact ⟨rfl, rfl⟩
  | error error =>
    rw [write_of_error hshown, write_of_error (hentries.trans hshown)]
    exact ⟨rfl, rfl⟩

/-- The entries found are the first ones with the keys asked for. -/
structure FirstEntries (asked : List Text) (all shown : Entries) : Prop where
  /-- They stand in code point order of their keys, each key once. -/
  sorted : shown.Pairwise fun a b => a.1 < b.1
  /-- They are the first entries with their keys. -/
  mem : ∀ entry, entry ∈ shown ↔ (asked = [] ∨ entry.1 ∈ asked) ∧ all.IsFirst entry

/-- The text that shows some entries: for one key its value, if there is one, and a
list between braces otherwise. -/
inductive ShownAs (asked : List Text) (shown : Entries) : Text → Prop where
  | value {key value : Text} (hasked : asked = [key]) (h : (key, value) ∈ shown) :
      ShownAs asked shown value
  | nothing {key : Text} (hasked : asked = [key]) (h : ∀ value, (key, value) ∉ shown) :
      ShownAs asked shown []
  | list (hasked : asked.length ≠ 1) :
      ShownAs asked shown ("\x7b".toList ++
        ", ".toList.intercalate (shown.map fun entry => entry.1 ++ "=".toList ++ entry.2) ++
          "\x7d".toList)

theorem FirstValues.firstEntries {all shown : Entries} (h : FirstValues keys all shown) :
    FirstEntries keys.keys all shown where
  sorted := h.sorted.imp fun hbefore => of_decide_eq_true hbefore
  mem entry := by
    rw [h.sorted.mem_iff, h.value]
    split
    · rename_i hasked
      rw [Entries.valueOf?_eq_some_iff, and_iff_right hasked]
    · rename_i hasked
      exact iff_of_false (fun hnone => nomatch hnone) fun hentry => hasked hentry.1

theorem FirstEntries.sorted_entries {asked : List Text} {all shown : Entries}
    (h : FirstEntries asked all shown) : shown.Sorted :=
  h.sorted.imp fun hbefore => decide_eq_true hbefore

/-- The entries found are determined by the keys asked for. -/
theorem FirstEntries.unique {asked : List Text} {all shown other : Entries}
    (h : FirstEntries asked all shown) (hother : FirstEntries asked all other) :
    shown = other := by
  refine Entries.eq_of_sorted h.sorted_entries hother.sorted_entries fun key =>
    Option.ext fun value => ?_
  have hmem := (h.mem (key, value)).trans (hother.mem (key, value)).symm
  exact (h.sorted_entries.mem_iff.symm.trans hmem).trans hother.sorted_entries.mem_iff

/-- The text that shows them is determined as well. -/
theorem ShownAs.unique {asked : List Text} {shown : Entries} (hsorted : shown.Sorted)
    {text other : Text} (h : ShownAs asked shown text) (hother : ShownAs asked shown other) :
    text = other := by
  cases h with
  | value hasked hvalue =>
    cases hother with
    | value hasked' hvalue' =>
      obtain rfl := (List.cons.inj (hasked.symm.trans hasked')).1
      exact Option.some.inj ((hsorted.mem_iff.1 hvalue).symm.trans (hsorted.mem_iff.1 hvalue'))
    | nothing hasked' hnone =>
      obtain rfl := (List.cons.inj (hasked.symm.trans hasked')).1
      exact absurd hvalue (hnone _)
    | list hmany => exact absurd (congrArg List.length hasked) hmany
  | nothing hasked hnone =>
    cases hother with
    | value hasked' hvalue' =>
      obtain rfl := (List.cons.inj (hasked.symm.trans hasked')).1
      exact absurd hvalue' (hnone _)
    | nothing _ _ => rfl
    | list hmany => exact absurd (congrArg List.length hasked) hmany
  | list hmany =>
    cases hother with
    | value hasked' _ | nothing hasked' _ => exact absurd (congrArg List.length hasked') hmany
    | list _ => rfl

/-- What is collected from sources without a failure. -/
theorem firstEntries_of_entries {scene : Scene} {shown : Entries}
    (hsources : ∀ source ∈ scene.sources, scene.failureOf source = none)
    (h : keys.entries scene = .ok shown) : FirstEntries keys.keys scene.allEntries shown := by
  obtain ⟨found, hvalues, hentries⟩ :=
    keys.exists_entries (List.append_nil scene.sources).symm hsources
  obtain rfl : shown = found := Except.ok.inj (h.symm.trans hentries)
  exact hvalues.firstEntries

theorem FirstValues.shownAs {all shown : Entries} (h : FirstValues keys all shown) :
    ShownAs keys.keys shown (keys.shownText shown) := by
  unfold shownText
  split
  · rename_i key hasked
    cases hvalue : shown.valueOf? key with
    | some value => exact .value hasked (h.sorted.mem_iff.2 hvalue)
    | none =>
      refine .nothing hasked fun value hentry => ?_
      rw [h.sorted.mem_iff.1 hentry] at hvalue
      cases hvalue
  · rename_i hasked
    refine .list fun hone => ?_
    obtain ⟨key, hkey⟩ := List.length_eq_one_iff.1 hone
    exact hasked key hkey

/-- The keys that options ask for: those between the commas of the first one. -/
inductive AskedBy : List Argument → List Text → Prop where
  | nil : AskedBy [] []
  | option {option : Argument} {others : List Argument} {asked : List Text}
      (h : Text.TrimmedPieces ',' option.text asked) : AskedBy (option :: others) asked

end ContextKeys

namespace Builtin

open ContextKeys (AskedBy FirstEntries ShownAs)

/-- The converter shows the keys that the options ask for, and no option asks for
others. -/
theorem create_context_eq (config : Config) (options : List Argument) :
    ∃ keys : ContextKeys, context.create config options = .made (.context keys) [] ∧
      ∀ asked, AskedBy options asked ↔ asked = keys.keys := by
  cases options with
  | nil =>
    refine ⟨{}, rfl, fun asked => ⟨?_, ?_⟩⟩
    · rintro ⟨⟩
      rfl
    · rintro rfl
      exact .nil
  | cons option others =>
    refine ⟨.read option.text, rfl, fun asked => ⟨?_, ?_⟩⟩
    · intro h
      cases h with
      | option h => exact (Text.trimmedPieces_iff.1 h).symm
    · rintro rfl
      exact .option (Text.trimmedPieces_iff.2 rfl)

/-- The keys asked for are the texts between the commas of the option, trimmed and
not empty.  If no source fails, the first values of these keys (of all keys, if there
are none) among the entries of the record and then of the sources are written, sorted
by key: the value itself for one key, a list otherwise.  The first failure of a source
is returned, and nothing is written.  The order of two keys or more does not matter,
and neither do sources whose keys have a value before them. -/
theorem create_context (config : Config) (options : List Argument) :
    (∀ key ∈ ["X", "mdc", "MDC"], rules.find? key.toList = some context) ∧
    ∃ asked converter, context.create config options = .made converter [] ∧
      (∀ other, AskedBy options other ↔ other = asked) ∧
      (∀ scene buffer, (∀ source ∈ scene.sources, scene.failureOf source = none) →
        ∃ shown text, FirstEntries asked scene.allEntries shown ∧ ShownAs asked shown text ∧
          Converter.write scene buffer converter =
            { next := converter, buffer := buffer ++ text }) ∧
      (∀ scene buffer before source after error, scene.sources = before ++ source :: after →
        (∀ earlier ∈ before, scene.failureOf earlier = none) →
        scene.failureOf source = some error →
        Converter.write scene buffer converter =
          { next := converter, buffer, failure := some error }) ∧
      (∀ others reordered, AskedBy others reordered → reordered.Perm asked → 2 ≤ asked.length →
        ∃ other, context.create config others = .made other [] ∧ ∀ scene buffer,
          (Converter.write scene buffer other).buffer =
              (Converter.write scene buffer converter).buffer ∧
            (Converter.write scene buffer other).failure =
              (Converter.write scene buffer converter).failure) ∧
      ∀ (scene : Scene) buffer before added after, scene.sources = before ++ after →
        (∀ source ∈ added, scene.failureOf source = none) →
        (∀ entry ∈ scene.entriesOf added,
          ∃ earlier ∈ scene.record.entries ++ scene.entriesOf before, earlier.1 = entry.1) →
        Converter.write { scene with sources := before ++ added ++ after } buffer converter =
          Converter.write scene buffer converter := by
  obtain ⟨keys, hcreate, hasked⟩ := create_context_eq config options
  refine ⟨?_, keys.keys, .context keys, hcreate, hasked, ?_, ?_, ?_, ?_⟩
  · intro key hkey
    simp only [List.mem_cons, List.not_mem_nil, or_false] at hkey
    rcases hkey with rfl | rfl | rfl <;> rfl
  · intro scene buffer hsources
    obtain ⟨shown, hvalues, hentries⟩ :=
      keys.exists_entries (List.append_nil scene.sources).symm hsources
    exact ⟨shown, _, hvalues.firstEntries, hvalues.shownAs,
      ContextKeys.write_of_entries hentries buffer⟩
  · intro scene buffer before source after error hscene hbefore hsource
    exact ContextKeys.write_of_error (ContextKeys.entries_of_failure hscene hbefore hsource) buffer
  · intro others reordered hothers hperm hkeys
    obtain ⟨other, hother, hreordered⟩ := create_context_eq config others
    obtain rfl := (hreordered reordered).1 hothers
    exact ⟨.context other, hother, fun scene buffer =>
      ContextKeys.write_of_perm hperm hkeys scene buffer⟩
  · intro scene buffer before added after hscene hadded hrepeated
    exact ContextKeys.write_congr
      (ContextKeys.entries_of_repeated hscene hadded hrepeated) buffer

/-- A record whose keys come again, in itself, in a fixed source and in the
thread. -/
def layeredScene : Scene where
  record :=
    { entries := [("user".toList, "alice".toList), ("req".toList, "7".toList),
        ("user".toList, "bob".toList)] }
  sources := [.fixed [("region".toList, "eu".toList), ("user".toList, "host".toList)], .thread]
  threadEntries := [("req".toList, "9".toList)]

/-- A source that fails after an entry. -/
def failingSource : ContextSource :=
  .custom [("before".toList, "failure".toList)] (some (Error.new "no such session"))

/-- Keys as an option, and as an inner pattern that is not looked at. -/
def asKeys (text : Text) : Argument := { text, asPattern := .pure .brokenCharacter }

theorem create_context_layeredScene :
    (∀ source ∈ layeredScene.sources, layeredScene.failureOf source = none) ∧
    AskedBy [asKeys " req,region,,req ".toList] ["req".toList, "region".toList, "req".toList] ∧
    AskedBy [asKeys "region,req,req".toList] ["region".toList, "req".toList, "req".toList] ∧
    (∃ converter other,
      context.create {} [asKeys " req,region,,req ".toList] = .made converter [] ∧
      context.create {} [asKeys "region,req,req".toList] = .made other [] ∧
      Converter.write layeredScene ['>'] converter =
        { next := converter, buffer := ">\x7bregion=eu, req=7\x7d".toList } ∧
      (Converter.write layeredScene ['>'] other).buffer = ">\x7bregion=eu, req=7\x7d".toList ∧
      Converter.write { layeredScene with sources := layeredScene.sources ++ [.thread] ++ [] } ['>']
          converter =
        { next := converter, buffer := ">\x7bregion=eu, req=7\x7d".toList }) ∧
    ∃ converter, context.create {} [asKeys "user ".toList] = .made converter [] ∧
      Converter.write layeredScene ['>'] converter =
        { next := converter, buffer := ">alice".toList } ∧
      Converter.write
          { layeredScene with sources := layeredScene.sources ++ failingSource :: [.thread] }
          ['>'] converter =
        { next := converter, buffer := ['>'], failure := some (Error.new "no such session") } := by
  have hsources : ∀ source ∈ layeredScene.sources, layeredScene.failureOf source = none := by
    simp [layeredScene, Scene.failureOf, ContextSource.contents]
  have hthread : ∀ source ∈ [ContextSource.thread], layeredScene.failureOf source = none := by
    simp [Scene.failureOf, ContextSource.contents]
  have hrepeated : ∀ entry ∈ layeredScene.entriesOf [.thread],
      ∃ earlier ∈ layeredScene.record.entries ++ layeredScene.entriesOf layeredScene.sources,
        earlier.1 = entry.1 := by
    decide +kernel
  have hlist : AskedBy [asKeys " req,region,,req ".toList]
      ["req".toList, "region".toList, "req".toList] :=
    .option (Text.trimmedPieces_iff.2 (by decide +kernel))
  have hother : AskedBy [asKeys "region,req,req".toList]
      ["region".toList, "req".toList, "req".toList] :=
    .option (Text.trimmedPieces_iff.2 (by decide +kernel))
  have huser : AskedBy [asKeys "user ".toList] ["user".toList] :=
    .option (Text.trimmedPieces_iff.2 (by decide +kernel))
  refine ⟨hsources, hlist, hother, ?_, ?_⟩
  · obtain ⟨-, asked, converter, hcreate, hasked, hfound, -, horder, hadd⟩ :=
      create_context {} [asKeys " req,region,,req ".toList]
    obtain rfl := (hasked _).1 hlist
    obtain ⟨other, hcreated, hsame⟩ := horder _ _ hother (by decide) (by decide)
    obtain ⟨shown, text, hshown, htext, hwrite⟩ := hfound layeredScene ['>'] hsources
    have hentries : FirstEntries ["req".toList, "region".toList, "req".toList]
        layeredScene.allEntries
        [("region".toList, "eu".toList), ("req".toList, "7".toList)] :=
      @ContextKeys.firstEntries_of_entries ⟨["req".toList, "region".toList, "req".toList]⟩ _ _
        hsources (by rfl)
    obtain rfl := hshown.unique hentries
    obtain rfl : text = "\x7bregion=eu, req=7\x7d".toList :=
      (htext.unique hentries.sorted_entries (.list (by decide))).trans (by decide +kernel)
    refine ⟨converter, other, hcreate, hcreated, hwrite, ?_, ?_⟩
    · rw [(hsame layeredScene ['>']).1, hwrite]
      rfl
    · exact (hadd layeredScene ['>'] layeredScene.sources [.thread] []
        (List.append_nil _).symm hthread hrepeated).trans hwrite
  · obtain ⟨-, asked, converter, hcreate, hasked, hfound, hfailed, -⟩ :=
      create_context {} [asKeys "user ".toList]
    obtain rfl := (hasked _).1 huser
    obtain ⟨shown, text, hshown, htext, hwrite⟩ := hfound layeredScene ['>'] hsources
    have hentries : FirstEntries ["user".toList] layeredScene.allEntries
        [("user".toList, "alice".toList)] :=
      @ContextKeys.firstEntries_of_entries ⟨["user".toList]⟩ _ _ hsources (by rfl)
    obtain rfl := hshown.unique hentries
    obtain rfl : text = "alice".toList :=
      htext.unique hentries.sorted_entries (.value rfl List.mem_cons_self)
    exact ⟨converter, hcreate, hwrite,
      hfailed _ _ layeredScene.sources failingSource [.thread] _ rfl hsources rfl⟩

end Builtin

end LogLine
