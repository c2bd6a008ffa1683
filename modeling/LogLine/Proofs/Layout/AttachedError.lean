/-
  Proofs/Layout/AttachedError.lean --- a layout writes an attached error exactly
  where its pattern does not.

  Whether it is to do so is settled once, when the layout is built, from what the
  pattern keeps about itself; no record changes it.  What it then adds is the
  lines of the error after a space of their own and before a newline, and the
  final replacement sees all of it:

      Layout.exists_of_build     what a layout is built of
      Layout.answers_write       one record
      Layout.answers_writeEach   records in turn
      Layout.adds_thrown_iff     patterns, their flags and the layouts around them
-/
import LogLine.Layout
import LogLine.Proofs.Pattern.Assembly

set_option autoImplicit false

namespace LogLine

/-- What follows a text for an attached error: the space that belongs there, all
lines of the error, and a newline. -/
def ThrownText.paragraph (text : Text) (thrown : List Text) : Text :=
  leadingSpace text ++ ['\n'].intercalate (lines thrown) ++ ['\n']

theorem ThrownText.paragraph_eq {thrown : List Text} (h : thrown ≠ []) (text : Text) :
    paragraph text thrown = ({} : ThrownText).output text thrown ++ ['\n'] := by
  simp only [paragraph, output, keptLines, h, reduceCtorEq, or_self, if_false]

namespace Layout

/-! ## What is built -/

theorem exists_of_build {settings : LayoutSettings} {layout : Layout} {reports : List Error}
    (hregistry : settings.registry = none)
    (h : build settings = .ok (layout, reports)) :
    ∃ pattern found replacement,
      Pattern.compile Builtin.rules settings.config settings.pattern = .done pattern found ∧
        readReplacement settings.config.host settings.replace = .ok replacement ∧
        layout = ofPattern pattern settings.alwaysWriteThrown replacement := by
  simp only [build, rulesOf, hregistry, Option.getD_none] at h
  split at h
  · cases h
  rename_i replacement hreplacement
  split at h
  · cases h
  · rename_i pattern found hdone
    obtain ⟨rfl, -⟩ := Prod.mk.inj (Except.ok.inj h)
    exact ⟨pattern, found, replacement, hdone, hreplacement, rfl⟩

/-! ## Records -/

/-- What a layout answers for a record, given what its pattern wrote: the failure
of the pattern, or its output, and after it the attached error if there is one and
the layout adds it.  Only then are matches replaced. -/
inductive Answers (replaced : Text → Text) (adds : Prop) (scene : Scene)
    (written : Written Pattern) : Except Error Text → Prop where
  | failed {error : Error} (h : written.failure = some error) :
      Answers replaced adds scene written (.error error)
  | followed (h : written.failure = none) (hadds : adds) (hthrown : scene.record.thrown ≠ []) :
      Answers replaced adds scene written (.ok (replaced
        (written.buffer ++ ThrownText.paragraph written.buffer scene.record.thrown)))
  | alone (h : written.failure = none) (hnone : ¬(adds ∧ scene.record.thrown ≠ [])) :
      Answers replaced adds scene written (.ok (replaced written.buffer))

/-- Whether a layout adds attached errors. -/
def Adds (layout : Layout) (adds : Prop) : Prop :=
  (adds → layout.thrown = some {}) ∧ (¬adds → layout.thrown = none)

/-- A layout adds what its pattern does not show, if it is to. -/
theorem adds_ofPattern {pattern : Pattern}
    (h : Pattern.handlesThrown pattern = true ↔ Pattern.ShowsThrown pattern) (always : Bool)
    (replacement : Option (Regex × Text)) :
    (ofPattern pattern always replacement).Adds
      (always = true ∧ ¬Pattern.ShowsThrown pattern) := by
  have hadds : (always && !Pattern.handlesThrown pattern) = true ↔
      always = true ∧ ¬Pattern.ShowsThrown pattern := by
    rw [Bool.and_eq_true, Bool.not_eq_true', ← h, Bool.not_eq_true]
  simp only [Adds, ofPattern, ← hadds]
  exact ⟨fun hyes => if_pos hyes, fun hno => if_neg hno⟩

/-- One record. -/
theorem answers_write {layout : Layout} {adds : Prop} (h : layout.Adds adds) (scene : Scene) :
    Answers layout.replaced adds scene (layout.pattern.write scene []) (layout.write scene).2 := by
  simp only [write]
  split
  · rename_i error hfailure
    exact .failed hfailure
  · rename_i hfailure
    by_cases hadds : adds
    · by_cases hthrown : scene.record.thrown = []
      · have hnone : ¬(adds ∧ scene.record.thrown ≠ []) := fun hboth => hboth.2 hthrown
        simp only [thrownText, h.1 hadds, hthrown, if_true, List.append_nil]
        exact .alone hfailure hnone
      · simp only [thrownText, h.1 hadds, hthrown, if_false]
        rw [← ThrownText.paragraph_eq hthrown]
        exact .followed hfailure hadds hthrown
    · have hnone : ¬(adds ∧ scene.record.thrown ≠ []) := fun hboth => hadds hboth.1
      simp only [thrownText, h.2 hadds, List.append_nil]
      exact .alone hfailure hnone

/-- Records in turn: a record changes the pattern, but not what the layout adds. -/
theorem answers_writeEach {layout : Layout} {adds : Prop} (h : layout.Adds adds)
    (scenes : List Scene) :
    List.Forall₂ (fun entry answer => Answers layout.replaced adds entry.1 entry.2 answer)
      (scenes.zip (layout.pattern.writeEach [] scenes)) (layout.writeEach scenes) := by
  -- The pattern is another one after each record; the rest of the layout stays.
  suffices hall : ∀ pattern : Pattern,
      List.Forall₂ (fun entry answer => Answers layout.replaced adds entry.1 entry.2 answer)
        (scenes.zip (pattern.writeEach [] scenes))
        (writeEach { layout with pattern } scenes) from hall layout.pattern
  induction scenes with
  | nil => exact fun _ => .nil
  | cons scene rest ih =>
    intro pattern
    have hadds : ({ layout with pattern } : Layout).Adds adds := h
    exact .cons (answers_write hadds scene) (ih (pattern.write scene []).next)

/-- For every pattern put together from parts, what is kept about the attached
error is what a search would find, and holds exactly where a converter in it shows
the error, at any depth.  What the library compiles is put together like this.  So
a layout with the converters of the library adds an attached error, with its space
and a newline, exactly where nothing in its pattern shows it: for each record in
turn, after what the pattern itself writes, and before matches are replaced. -/
theorem adds_thrown_iff :
    (∀ assembly : Assembly,
      assembly.flag = Pattern.handlesThrown assembly.pattern ∧
        (assembly.flag = true ↔ Pattern.ShowsThrown assembly.pattern)) ∧
    (∀ (config : Config) (text : Text) (pattern : Pattern) (reports : List Report),
      Pattern.compile Builtin.rules config text = .done pattern reports →
        (∃ assembly : Assembly, assembly.pattern = pattern) ∧
          (Pattern.handlesThrown pattern = true ↔ Pattern.ShowsThrown pattern)) ∧
    ∀ (settings : LayoutSettings) (layout : Layout) (reports : List Error),
      settings.registry = none → build settings = .ok (layout, reports) →
        (∃ found, Pattern.compile Builtin.rules settings.config settings.pattern =
          .done layout.pattern found) ∧
        readReplacement settings.config.host settings.replace = .ok layout.replacement ∧
        ∀ scenes : List Scene,
          List.Forall₂
            (fun entry answer =>
              Answers layout.replaced
                (settings.alwaysWriteThrown = true ∧ ¬Pattern.ShowsThrown layout.pattern)
                entry.1 entry.2 answer)
            (scenes.zip (layout.pattern.writeEach [] scenes)) (layout.writeEach scenes) := by
  have hassembled : ∀ assembly : Assembly,
      assembly.flag = Pattern.handlesThrown assembly.pattern ∧
        (assembly.flag = true ↔ Pattern.ShowsThrown assembly.pattern) :=
    fun assembly => ⟨assembly.flag_eq, assembly.flag_iff⟩
  have hcompiled : ∀ (config : Config) (text : Text) (pattern : Pattern) (reports : List Report),
      Pattern.compile Builtin.rules config text = .done pattern reports →
        (∃ assembly : Assembly, assembly.pattern = pattern) ∧
          (Pattern.handlesThrown pattern = true ↔ Pattern.ShowsThrown pattern) := by
    intro config text pattern reports h
    obtain ⟨assembly, rfl⟩ := Pattern.exists_assembly h
    exact ⟨⟨assembly, rfl⟩, by rw [← assembly.flag_eq, assembly.flag_iff]⟩
  refine ⟨hassembled, hcompiled, fun settings layout reports hregistry hbuild => ?_⟩
  obtain ⟨pattern, found, replacement, hdone, hreplacement, rfl⟩ :=
    exists_of_build hregistry hbuild
  refine ⟨⟨found, hdone⟩, hreplacement, answers_writeEach (adds_ofPattern ?_ _ _)⟩
  exact (hcompiled _ _ _ _ hdone).2

/-- Whether a layout was built that passes a test. -/
def isBuiltWith (test : Layout → Bool) : Except Fault (Layout × List Error) → Bool
  | .ok (layout, _) => test layout
  | .error _ => false

theorem exists_of_isBuiltWith {test : Layout → Bool}
    {result : Except Fault (Layout × List Error)} (h : isBuiltWith test result = true) :
    ∃ layout reports, result = .ok (layout, reports) ∧ test layout = true := by
  cases result with
  | ok built => exact ⟨built.1, built.2, rfl, h⟩
  | error fault => cases h

/-- An unknown key leaves the converter in its options as text. -/
def unknownKeySettings : LayoutSettings := { pattern := "%m %absent\x7b%ex\x7d".toList }

/-- A record with an error and one behind it. -/
def causedScene : Scene :=
  { record := { payload := "tick".toList, thrown := ["late".toList, "no answer".toList] } }

theorem adds_thrown_unknownKey :
    ∃ layout reports, unknownKeySettings.registry = none ∧
      build unknownKeySettings = .ok (layout, reports) ∧ ¬Pattern.ShowsThrown layout.pattern ∧
      layout.writeEach [causedScene] =
        [.ok "tick %absent\x7b%ex\x7d late\nCaused by: no answer\n".toList] := by
  have hbuilt : isBuiltWith (fun layout =>
      !Pattern.handlesThrown layout.pattern &&
        ((layout.pattern.write causedScene []).failure.isNone &&
          (layout.pattern.write causedScene []).buffer == "tick %absent\x7b%ex\x7d".toList))
      (build unknownKeySettings) = true := by decide +kernel
  obtain ⟨layout, reports, hbuild, htest⟩ := exists_of_isBuiltWith hbuilt
  simp only [Bool.and_eq_true, Bool.not_eq_true', Option.isNone_iff_eq_none, beq_iff_eq] at htest
  obtain ⟨hflag, hfailure, hbuffer⟩ := htest
  obtain ⟨-, hcompiled, hlayouts⟩ := adds_thrown_iff
  obtain ⟨⟨found, hdone⟩, hreplacement, hruns⟩ :=
    hlayouts unknownKeySettings layout reports rfl hbuild
  have hunshown : ¬Pattern.ShowsThrown layout.pattern := by
    rw [← (hcompiled _ _ _ _ hdone).2, hflag]
    exact Bool.false_ne_true
  have hreplaced : layout.replacement = none := (Except.ok.inj hreplacement).symm
  refine ⟨layout, reports, rfl, hbuild, hunshown, ?_⟩
  cases hruns [causedScene] with
  | cons hfirst _ =>
    change Answers _ _ _ _ (layout.write causedScene).2 at hfirst
    show [(layout.write causedScene).2] = _
    generalize (layout.write causedScene).2 = answer at hfirst
    cases hfirst with
    | failed h =>
      rw [hfailure] at h
      cases h
    | followed h hadds hthrown =>
      rw [hbuffer, replaced, hreplaced]
      rfl
    | alone h hnone => exact absurd ⟨⟨rfl, hunshown⟩, List.cons_ne_nil _ _⟩ hnone

end Layout

end LogLine
