/-
  Proofs/Pattern/ShownTexts.lean --- the characters that single converters show.

  A converter without an inner pattern shows a part of the record, in a form that
  the options of its specifier choose.  Labels, separators and marks of that form
  are parts of the options, and the rest are fixed words and numbers.  So where
  neither the scene nor the options hold an escape character, what is shown holds
  none.  Each form comes with what its reader gives and what it then writes:

      Literal       variables that stand for texts without escapes
      LevelLabels   labels given as a whole
      NameAbbreviation, ThrownText, ContextKeys
-/
import LogLine.Pattern.Output
import LogLine.Proofs.Pattern.ThrownOptions
import LogLine.Proofs.Text.EscapeFree

set_option autoImplicit false

namespace LogLine

/-! ## Scenes -/

/-- Entries whose keys and values hold no escape character. -/
def Entries.EscapeFree (entries : Entries) : Prop :=
  ∀ entry ∈ entries, Text.EscapeFree entry.1 ∧ Text.EscapeFree entry.2

/-- Records none of whose texts holds an escape character. -/
structure Record.EscapeFree (record : Record) : Prop where
  target : Text.EscapeFree record.target
  modulePath : ∀ path ∈ record.modulePath, Text.EscapeFree path
  file : ∀ path ∈ record.file, Text.EscapeFree path
  thread : ∀ name ∈ record.thread, Text.EscapeFree name
  payload : Text.EscapeFree record.payload
  thrown : ∀ message ∈ record.thrown, Text.EscapeFree message
  entries : Entries.EscapeFree record.entries

/-- Scenes whose record and further entries hold no escape character. -/
structure Scene.EscapeFree (scene : Scene) : Prop where
  record : scene.record.EscapeFree
  sources : ∀ source ∈ scene.sources, Entries.EscapeFree (source.contents scene.threadEntries).1

namespace Record

variable {record : Record}

theorem EscapeFree.fileName (h : record.EscapeFree) : Text.EscapeFree record.fileName := by
  unfold Record.fileName
  split
  · rename_i path hpath
    unfold lastName
    split
    · rename_i name hname
      split
      · exact Text.escapeFree_nil
      · have hmem := List.mem_of_mem_filter (List.mem_of_getLast? hname)
        exact (h.file path hpath).of_mem_pieces hmem
    · exact Text.escapeFree_nil
  · exact Text.escapeFree_nil

theorem EscapeFree.location (h : record.EscapeFree) : Text.EscapeFree record.location := by
  have hplace : Text.EscapeFree (record.modulePath.getD record.target) := by
    cases hpath : record.modulePath with
    | none => exact h.target
    | some path => exact h.modulePath path hpath
  have hfile : Text.EscapeFree (if record.fileName = [] then ['?'] else record.fileName) := by
    split
    · decide
    · exact h.fileName
  unfold Record.location
  simp only [Text.escapeFree_append]
  refine ⟨⟨⟨⟨hplace, by decide⟩, hfile⟩, ?_⟩, by decide⟩
  split
  · exact Text.escapeFree_cons.2 ⟨by decide, Text.EscapeFree.ofNat _⟩
  · exact Text.escapeFree_nil

end Record

/-! ## Literal text -/

/-- Variables that stand for texts without an escape character. -/
def Lookups.EscapeFree (lookups : Lookups) : Prop :=
  ∀ name value, lookups.find? name = some value → Text.EscapeFree value

namespace Literal

/-- Literal text that is written without an escape character. -/
structure EscapeFree (literal : Literal) : Prop where
  text : Text.EscapeFree literal.text
  lookups : ∀ lookups ∈ literal.lookups, lookups.EscapeFree

theorem escapeFree_convertBackslashes {s : Text} (h : Text.EscapeFree s) :
    Text.EscapeFree (convertBackslashes s) := by
  have hescaped : ∀ c, c ≠ '\x1b' → escaped c ≠ '\x1b' := by
    intro c hc
    unfold escaped
    split <;> first | decide | exact hc
  fun_induction convertBackslashes s with
  | case1 => exact h
  | case2 => exact h
  | case3 c rest ih =>
    simp only [Text.escapeFree_cons] at h ⊢
    exact ⟨hescaped c h.2.1, ih h.2.2⟩
  | case4 c rest _ _ ih =>
    simp only [Text.escapeFree_cons] at h ⊢
    exact ⟨h.1, ih h.2⟩

section

variable {lookups : Lookups} (hlookups : lookups.EscapeFree)

include hlookups

theorem escapeFree_expand {body : Text} (h : Text.EscapeFree body) :
    Text.EscapeFree (expand lookups body) := by
  have hshown : Text.EscapeFree (opening ++ body ++ ['\x7d']) := by
    simp only [Text.escapeFree_append]
    exact ⟨⟨by decide, h⟩, by decide⟩
  unfold expand
  cases hcut : Text.cutAt defaultMark body with
  | none =>
    simp only
    cases hvalue : lookups.find? body with
    | some value => exact hlookups body value hvalue
    | none => exact hshown
  | some cut =>
    obtain ⟨name, default⟩ := cut
    simp only
    cases hvalue : lookups.find? name with
    | some value => exact hlookups name value hvalue
    | none => exact (h.of_cutAt hcut).2

theorem escapeFree_substituteWithin (fuel : Nat) {s : Text} (h : Text.EscapeFree s) :
    Text.EscapeFree (substituteWithin lookups fuel s) := by
  induction fuel generalizing s with
  | zero => exact h
  | succ fuel ih =>
    unfold substituteWithin
    split
    · exact h
    · rename_i before after hopen
      split
      · exact h
      · rename_i body rest hclose
        have hparts := h.of_cutAt hopen
        have hinside := hparts.2.of_splitOnce hclose
        simp only [Text.escapeFree_append]
        exact ⟨⟨hparts.1, escapeFree_expand hlookups hinside.1⟩, ih hinside.2⟩

end

theorem EscapeFree.output {literal : Literal} (h : literal.EscapeFree) :
    Text.EscapeFree literal.output := by
  unfold Literal.output
  split
  · rename_i lookups hlookups
    exact escapeFree_substituteWithin (h.lookups lookups hlookups) _ h.text
  · exact h.text

theorem escapeFree_ofConfig {config : Config} (hlookups : config.lookups.EscapeFree) {s : Text}
    (h : Text.EscapeFree s) : (ofConfig config s).EscapeFree := by
  refine ⟨?_, ?_⟩
  · show Text.EscapeFree (if config.convertBackslashes then convertBackslashes s else s)
    split
    · exact escapeFree_convertBackslashes h
    · exact h
  · intro lookups hmem
    have hlookups' : (ofConfig config s).lookups =
        if config.hasLookups && Text.contains opening (ofConfig config s).text then
          some config.lookups
        else none := rfl
    rw [hlookups'] at hmem
    split at hmem
    · obtain rfl := Option.some.inj hmem
      exact hlookups
    · cases hmem

end Literal

/-! ## Levels -/

theorem Level.escapeFree_name (level : Level) : Text.EscapeFree level.name := by
  cases level <;> decide

namespace LevelLabels

/-- Labels that hold no escape character. -/
def EscapeFree (labels : LevelLabels) : Prop :=
  ∀ level label, labels.custom level = some label → Text.EscapeFree label

variable {labels : LevelLabels}

theorem EscapeFree.label (h : labels.EscapeFree) (level : Level) :
    Text.EscapeFree (labels.label level) := by
  have hname := level.escapeFree_name
  unfold LevelLabels.label
  split
  · rename_i label hlabel
    exact h level label hlabel
  simp only
  split
  · refine Text.EscapeFree.asciiLower ?_
    split
    · exact hname.take _
    · exact hname
  · split
    · exact hname.take _
    · exact hname

theorem EscapeFree.apply (h : labels.EscapeFree) {option : Text} (hoption : Text.EscapeFree option)
    {changed : LevelLabels} {reports : List Error}
    (happly : labels.apply option = .ok (changed, reports)) : changed.EscapeFree := by
  unfold LevelLabels.apply at happly
  split at happly
  · obtain ⟨rfl, -⟩ := Prod.mk.inj (Except.ok.inj happly)
    exact h
  · rename_i key value hcut
    simp only at happly
    split at happly
    · split at happly
      · obtain ⟨rfl, -⟩ := Prod.mk.inj (Except.ok.inj happly)
        exact h
      · cases happly
    split at happly
    · obtain ⟨rfl, -⟩ := Prod.mk.inj (Except.ok.inj happly)
      exact h
    split at happly
    · rename_i level _
      obtain ⟨rfl, -⟩ := Prod.mk.inj (Except.ok.inj happly)
      intro other label hlabel
      simp only [Style.PerLevel.put] at hlabel
      split at hlabel
      · obtain rfl := Option.some.inj hlabel
        exact (hoption.of_splitOnce hcut).2.trim
      · exact h other label hlabel
    · obtain ⟨rfl, -⟩ := Prod.mk.inj (Except.ok.inj happly)
      exact h

theorem EscapeFree.applyAll (h : labels.EscapeFree) {options : List Text}
    (hoptions : ∀ option ∈ options, Text.EscapeFree option) {changed : LevelLabels}
    (happly : (labels.applyAll options).1 = .ok changed) : changed.EscapeFree := by
  induction options generalizing labels with
  | nil =>
    obtain rfl := Except.ok.inj happly
    exact h
  | cons option rest ih =>
    rw [List.forall_mem_cons] at hoptions
    unfold LevelLabels.applyAll at happly
    split at happly
    · cases happly
    · rename_i next reports hnext
      exact ih (h.apply hoptions.1 hnext) hoptions.2 happly

theorem escapeFree_of_read {list : Text} (h : Text.EscapeFree list) {labels : LevelLabels}
    (hread : (read list).1 = .ok labels) : labels.EscapeFree := by
  have hnew : EscapeFree {} := by
    intro level label hlabel
    cases hlabel
  refine hnew.applyAll (fun option hoption => ?_) hread
  obtain ⟨piece, hpiece, rfl⟩ := List.mem_map.1 (List.mem_of_mem_filter hoption)
  exact (h.of_mem_pieces hpiece).trim

end LevelLabels

/-! ## Names -/

namespace NameAbbreviation

/-- Ways to shorten names that bring in no escape character. -/
def EscapeFree : NameAbbreviation → Prop
  | .fragments list => ∀ fragment ∈ list, '\x1b' ∉ fragment.ellipsis
  | .whole | .keepRight _ | .dropLeft _ => True

theorem escapeFree_of_readFragment? {part : Text} {fragment : Fragment}
    (h : Text.EscapeFree part) (hread : readFragment? part = some fragment) :
    '\x1b' ∉ fragment.ellipsis := by
  unfold readFragment? at hread
  split at hread
  rename_i kept rest hparts
  have hrest : Text.EscapeFree rest := by
    split at hparts
    · obtain ⟨-, rfl⟩ := Prod.mk.inj hparts
      exact (Text.escapeFree_cons.1 h).2
    · obtain ⟨-, rfl⟩ := Prod.mk.inj hparts
      exact h.dropWhile _
  split at hread
  · obtain rfl := Option.some.inj hread
    exact Option.not_mem_none _
  · -- the mark is the last character of the part
    obtain rfl := Option.some.inj hread
    intro hmem
    exact (Text.escapeFree_cons.1 hrest).1 (Option.some.inj hmem)
  · cases hread

theorem escapeFree_of_readFragments? {spec : Text} {list : List Fragment}
    (h : Text.EscapeFree spec) (hread : readFragments? spec = some list) :
    EscapeFree (.fragments list) := by
  have hmap : ((Text.pieces '.' spec).filter (· ≠ [])).mapM readFragment? = some list := by
    unfold readFragments? at hread
    split at hread
    · cases hread
    · exact hread
  intro fragment hfragment
  have hsome : some fragment ∈ list.map some := List.mem_map_of_mem hfragment
  rw [← mapM_eq_some_iff.1 hmap] at hsome
  obtain ⟨part, hpart, hfound⟩ := List.mem_map.1 hsome
  exact escapeFree_of_readFragment? (h.of_mem_pieces (List.mem_of_mem_filter hpart)) hfound

theorem escapeFree_of_read {option : Text} {abbreviation : NameAbbreviation}
    (h : Text.EscapeFree option) (hread : read option = .ok abbreviation) :
    abbreviation.EscapeFree := by
  unfold read at hread
  simp only at hread
  split at hread
  · obtain rfl := Except.ok.inj hread
    exact trivial
  split at hread
  · obtain rfl := Except.ok.inj hread
    split <;> exact trivial
  split at hread
  · rename_i list hlist
    obtain rfl := Except.ok.inj hread
    exact escapeFree_of_readFragments? h.trim hlist
  · cases hread

theorem escapeFree_separatorOf (name : Text) : Text.EscapeFree (separatorOf name) := by
  unfold separatorOf
  split <;> decide

theorem escapeFree_applyFragment {fragment : Fragment} (h : '\x1b' ∉ fragment.ellipsis)
    {segment : Text} (hsegment : Text.EscapeFree segment) :
    Text.EscapeFree (fragment.apply segment) := by
  unfold Fragment.apply
  split
  · exact hsegment
  · split
    · refine Text.escapeFree_append.2 ⟨hsegment.take _, ?_⟩
      exact fun hmem => h (Option.mem_toList.1 hmem)
    · exact hsegment

theorem escapeFree_shorten {separator : Text} (hseparator : Text.EscapeFree separator)
    {fragments : List Fragment} (hfragments : ∀ fragment ∈ fragments, '\x1b' ∉ fragment.ellipsis)
    {segments : List Text} (h : ∀ segment ∈ segments, Text.EscapeFree segment) :
    Text.EscapeFree (shorten separator fragments segments) := by
  fun_induction shorten separator fragments segments with
  | case1 => exact Text.escapeFree_nil
  | case2 _ last => exact h last List.mem_cons_self
  | case3 segment rest _ ih =>
    rw [List.forall_mem_cons] at h
    simp only [Text.escapeFree_append]
    exact ⟨⟨h.1, hseparator⟩, ih hfragments h.2⟩
  | case4 fragment segment rest _ ih =>
    rw [List.forall_mem_cons] at h
    simp only [Text.escapeFree_append]
    have hfragment := hfragments fragment List.mem_cons_self
    exact ⟨⟨escapeFree_applyFragment hfragment h.1, hseparator⟩, ih hfragments h.2⟩
  | case5 fragment more segment rest _ _ ih =>
    rw [List.forall_mem_cons] at h
    simp only [Text.escapeFree_append]
    rw [List.forall_mem_cons] at hfragments
    exact ⟨⟨escapeFree_applyFragment hfragments.1 h.1, hseparator⟩, ih hfragments.2 h.2⟩

theorem escapeFree_of_afterFirst? {separator : Text} {count : Nat} {name rest : Text}
    (h : Text.EscapeFree name) (hcut : afterFirst? separator count name = some rest) :
    Text.EscapeFree rest := by
  induction count generalizing name with
  | zero =>
    obtain rfl := Option.some.inj hcut
    exact h
  | succ count ih =>
    obtain ⟨⟨before, after⟩, hfound, hcut⟩ := Option.bind_eq_some_iff.1 hcut
    exact ih (h.of_cutAt hfound).2 hcut

/-- Names are shortened to parts of them and marks. -/
theorem EscapeFree.apply {abbreviation : NameAbbreviation} (h : abbreviation.EscapeFree)
    {name : Text} (hname : Text.EscapeFree name) : Text.EscapeFree (abbreviation.apply name) := by
  cases abbreviation with
  | whole => exact hname
  | keepRight count =>
    simp only [NameAbbreviation.apply]
    split
    · exact hname.drop _
    · exact hname
  | dropLeft count =>
    simp only [NameAbbreviation.apply]
    cases hcut : afterFirst? (separatorOf name) count name with
    | none => exact hname
    | some rest => exact escapeFree_of_afterFirst? hname hcut
  | fragments list =>
    exact escapeFree_shorten (escapeFree_separatorOf name) h fun _ => hname.of_mem_piecesAt

end NameAbbreviation

/-! ## Attached errors -/

namespace ThrownText

theorem escapeFree_causeLines {message line : Text} (h : Text.EscapeFree message)
    (hline : line ∈ causeLines message) : Text.EscapeFree line := by
  unfold causeLines at hline
  split at hline
  · obtain rfl := List.mem_singleton.1 hline
    decide
  · rename_i first rest hlines
    have hall : ∀ part ∈ first :: rest, Text.EscapeFree part :=
      fun part hpart => h.of_mem_lines (hlines ▸ hpart)
    rw [List.forall_mem_cons] at hall
    rcases List.mem_cons.1 hline with rfl | hline
    · exact Text.escapeFree_append.2 ⟨by decide, hall.1⟩
    · exact hall.2 line hline

theorem escapeFree_lines {thrown : List Text}
    (h : ∀ message ∈ thrown, Text.EscapeFree message) {line : Text} (hline : line ∈ lines thrown) :
    Text.EscapeFree line := by
  cases thrown with
  | nil => cases hline
  | cons message causes =>
    rw [List.forall_mem_cons] at h
    rcases List.mem_append.1 hline with hline | hline
    · exact h.1.of_mem_lines hline
    · obtain ⟨cause, hcause, hline⟩ := List.mem_flatMap.1 hline
      exact escapeFree_causeLines (h.2 cause hcause) hline

theorem escapeFree_output {style : ThrownText} (hseparator : Text.EscapeFree style.separator)
    {thrown : List Text} (h : ∀ message ∈ thrown, Text.EscapeFree message) (buffer : Text) :
    Text.EscapeFree (style.output buffer thrown) := by
  have hkept : ∀ line ∈ style.keptLines thrown, Text.EscapeFree line := by
    intro line hline
    unfold keptLines at hline
    split at hline
    · exact escapeFree_lines h hline
    · exact escapeFree_lines h (List.mem_of_mem_take hline)
  unfold output
  split
  · exact Text.escapeFree_nil
  · refine Text.escapeFree_append.2 ⟨?_, Text.EscapeFree.intercalate hseparator hkept⟩
    unfold leadingSpace
    split
    · split <;> decide
    · decide

/-- A separator is a newline or made of parts of the options. -/
theorem escapeFree_of_read {groups : List Text} (h : ∀ group ∈ groups, Text.EscapeFree group)
    {style : ThrownText} (hread : read groups = .ok style) : Text.EscapeFree style.separator := by
  intro hmem
  rcases mem_separator_of_read hread hmem with hnewline | ⟨group, hgroup, piece, hpiece, hmem⟩
  · cases hnewline
  · exact (h group hgroup).of_mem_pieces hpiece hmem

end ThrownText

/-! ## Entries -/

namespace Entries

theorem EscapeFree.put {entries : Entries} (h : entries.EscapeFree) {key value : Text}
    (hkey : Text.EscapeFree key) (hvalue : Text.EscapeFree value) :
    Entries.EscapeFree (entries.put key value) := by
  induction entries with
  | nil => exact List.forall_mem_cons.2 ⟨⟨hkey, hvalue⟩, h⟩
  | cons entry rest ih =>
    have hparts := List.forall_mem_cons.1 h
    unfold Entries.put
    split
    · exact List.forall_mem_cons.2 ⟨⟨hkey, hvalue⟩, hparts.2⟩
    split
    · exact List.forall_mem_cons.2 ⟨⟨hkey, hvalue⟩, h⟩
    · exact List.forall_mem_cons.2 ⟨hparts.1, ih hparts.2⟩

theorem EscapeFree.valueOf? {entries : Entries} (h : entries.EscapeFree) {key value : Text}
    (hvalue : entries.valueOf? key = some value) : Text.EscapeFree value := by
  obtain ⟨entry, hentry, rfl⟩ := Option.map_eq_some_iff.1 hvalue
  exact (h entry (List.mem_of_find?_eq_some hentry)).2

end Entries

namespace ContextKeys

variable {keys : ContextKeys}

theorem escapeFree_collect {collected next : Entries} (h : collected.EscapeFree) {entry : Entry}
    (hkey : Text.EscapeFree entry.1) (hvalue : Text.EscapeFree entry.2)
    (hcollect : keys.collect collected entry = .ok next) : next.EscapeFree := by
  unfold collect at hcollect
  split at hcollect
  · obtain rfl := Except.ok.inj hcollect
    exact h.put hkey hvalue
  · obtain rfl := Except.ok.inj hcollect
    exact h

theorem escapeFree_visit {entries collected : Entries} (hentries : entries.EscapeFree)
    (h : collected.EscapeFree) :
    Entries.EscapeFree (entries.visit keys.collect collected).1 := by
  induction entries generalizing collected with
  | nil => exact h
  | cons entry rest ih =>
    have hparts := List.forall_mem_cons.1 hentries
    unfold Entries.visit
    split
    · rename_i next hnext
      exact ih hparts.2 (escapeFree_collect h hparts.1.1 hparts.1.2 hnext)
    · exact h

theorem escapeFree_collectAll {threadEntries collected found : Entries}
    {sources : List ContextSource}
    (hsources : ∀ source ∈ sources, Entries.EscapeFree (source.contents threadEntries).1)
    (h : collected.EscapeFree)
    (hcollect : keys.collectAll threadEntries collected sources = .ok found) :
    found.EscapeFree := by
  induction sources generalizing collected with
  | nil =>
    obtain rfl := Except.ok.inj hcollect
    exact h
  | cons source rest ih =>
    rw [List.forall_mem_cons] at hsources
    unfold collectAll at hcollect
    split at hcollect
    · cases hcollect
    · rename_i next hvisit
      refine ih hsources.2 ?_ hcollect
      have hnext := @escapeFree_visit keys _ _ hsources.1 h
      unfold ContextSource.visit at hvisit
      simp only at hvisit
      split at hvisit
      · cases hvisit
      · rename_i state hstate
        obtain ⟨rfl, -⟩ := Prod.mk.inj hvisit
        rwa [hstate] at hnext

theorem escapeFree_entries {scene : Scene} (h : scene.EscapeFree) {found : Entries}
    (hfound : keys.entries scene = .ok found) : found.EscapeFree := by
  unfold entries at hfound
  split at hfound
  · cases hfound
  · rename_i collected hvisit
    have hcollected := @escapeFree_visit keys _ [] h.record.entries nofun
    rw [hvisit] at hcollected
    exact escapeFree_collectAll h.sources hcollected hfound

theorem escapeFree_output {scene : Scene} (h : scene.EscapeFree) {text : Text}
    (htext : keys.output scene = .ok text) : Text.EscapeFree text := by
  unfold output at htext
  split at htext
  · cases htext
  · rename_i found hfound
    have hentries := escapeFree_entries h hfound
    split at htext
    · obtain rfl := Except.ok.inj htext
      exact Text.EscapeFree.getD fun value hvalue => hentries.valueOf? hvalue
    · obtain rfl := Except.ok.inj htext
      unfold list
      refine Text.escapeFree_append.2 ⟨Text.escapeFree_append.2 ⟨by decide, ?_⟩, by decide⟩
      refine Text.EscapeFree.intercalate (by decide) fun shown hshown => ?_
      obtain ⟨entry, hentry, rfl⟩ := List.mem_map.1 hshown
      simp only [Text.escapeFree_append]
      exact ⟨⟨(hentries entry hentry).1, by decide⟩, (hentries entry hentry).2⟩

end ContextKeys

end LogLine
