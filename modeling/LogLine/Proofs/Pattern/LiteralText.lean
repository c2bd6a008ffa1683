/-
  Proofs/Pattern/LiteralText.lean --- which literal text stands for itself.

  Literal text is read twice: a backslash takes the character after it, and
  `${name}` is replaced by what is looked up.  Text without backslash and dollar
  sign passes both, whatever follows it.  Other text is written as it is for all
  values of its variables exactly when there is nothing in it to read:

      Literal.output_ofConfig_append    plain text before other text
      Literal.convertBackslashes_eq_self_iff
                                        escapes
      Literal.forall_output_eq_self_iff escapes and variables

  A single choice of values can hide a replacement, for instance a variable whose
  value is its own text.  So the last statement is about all values, and its proof
  looks at the one choice that hides nothing: values that are empty.
-/
import LogLine.Proofs.Pattern.Quoting
import LogLine.Proofs.Text.Slices

set_option autoImplicit false

namespace LogLine

namespace Literal

/-! ## Escapes -/

theorem convertBackslashes_append {s : Text} (h : '\\' ∉ s) (t : Text) :
    convertBackslashes (s ++ t) = s ++ convertBackslashes t := by
  induction s with
  | nil => rfl
  | cons c s ih =>
    rw [List.mem_cons, not_or] at h
    rw [List.cons_append, convertBackslashes_cons (Ne.symm h.1), ih h.2, List.cons_append]

/-- Reading escapes makes no text longer. -/
theorem length_convertBackslashes_le (s : Text) : (convertBackslashes s).length ≤ s.length := by
  fun_induction convertBackslashes s with
  | case1 => exact Nat.le_refl _
  | case2 => exact Nat.le_refl _
  | case3 c rest ih =>
    simp only [List.length_cons]
    omega
  | case4 c rest _ _ ih => exact Nat.succ_le_succ ih

/-- Each escape takes its backslash away. -/
theorem length_convertBackslashes_lt {s : Text} (h : '\\' ∈ s.dropLast) :
    (convertBackslashes s).length < s.length := by
  fun_induction convertBackslashes s with
  | case1 => cases h
  | case2 => cases h
  | case3 c rest ih =>
    have hrest := length_convertBackslashes_le rest
    simp only [List.length_cons]
    omega
  | case4 c rest hlast hescape ih =>
    cases rest with
    | nil => cases h
    | cons d rest =>
      rw [List.dropLast_cons_cons, List.mem_cons] at h
      rcases h with rfl | h
      · exact absurd rfl (hescape d rest rfl)
      · exact Nat.succ_lt_succ (ih h)

/-- Reading escapes keeps a text exactly when no backslash stands before its last
character. -/
theorem convertBackslashes_eq_self_iff {s : Text} :
    convertBackslashes s = s ↔ '\\' ∉ s.dropLast := by
  constructor
  · intro h hmem
    exact absurd (congrArg List.length h) (Nat.ne_of_lt (length_convertBackslashes_lt hmem))
  · intro h
    rcases List.eq_nil_or_concat s with rfl | ⟨init, c, rfl⟩
    · rfl
    · rw [List.concat_eq_append] at h ⊢
      rw [List.dropLast_concat] at h
      rw [convertBackslashes_append h]
      by_cases hc : c = '\\'
      · subst hc
        rfl
      · rw [convertBackslashes_cons hc]
        rfl

/-! ## Variables -/

/-- A text with a variable: what opens one, and a brace that closes it. -/
def HasVariable (s : Text) : Prop := ∃ before after, s = before ++ opening ++ after ∧ '}' ∈ after

/-- The name that is looked up for the variable with this body. -/
def variableName (body : Text) : Text := ((Text.cutAt defaultMark body).map (·.1)).getD body

theorem cutAt_opening_append {s : Text} (h : '$' ∉ s) (t : Text) :
    Text.cutAt opening (s ++ t) =
      (Text.cutAt opening t).map fun cut => (s ++ cut.1, cut.2) := by
  induction s with
  | nil => simp
  | cons c s ih =>
    rw [List.mem_cons, not_or] at h
    have hbegins : opening.isPrefixOf? (c :: (s ++ t)) = none := by
      rw [opening, Text.isPrefixOf?_cons_cons, if_neg h.1]
    rw [List.cons_append, Text.cutAt, hbegins]
    simp only [ih h.2, Option.map_map]
    rfl

section

variable {lookups : Lookups}

/-- A text without variables is written as it is. -/
theorem substituteWithin_of_not_hasVariable {s : Text} (h : ¬ HasVariable s) (fuel : Nat) :
    substituteWithin lookups fuel s = s := by
  cases fuel with
  | zero => rfl
  | succ fuel =>
    rw [substituteWithin]
    split
    · rfl
    · rename_i before after hcut
      split
      · rfl
      · rename_i body rest hsplit
        refine absurd ⟨before, after, (Text.append_of_cutAt hcut).symm, ?_⟩ h
        rw [← Text.append_of_splitOnce hsplit]
        simp

theorem substituteWithin_append {s : Text} (h : '$' ∉ s) (t : Text) (fuel : Nat) :
    substituteWithin lookups fuel (s ++ t) = s ++ substituteWithin lookups fuel t := by
  cases fuel with
  | zero => rfl
  | succ fuel =>
    rw [substituteWithin, substituteWithin, cutAt_opening_append h]
    cases Text.cutAt opening t with
    | none => rfl
    | some cut =>
      simp only [Option.map_some]
      cases Text.splitOnce '\x7d' cut.2 with
      | none => rfl
      | some part => simp

/-- As many variables as characters are enough. -/
theorem substituteWithin_congr {s : Text} {n m : Nat} (hn : s.length ≤ n) (hm : s.length ≤ m) :
    substituteWithin lookups n s = substituteWithin lookups m s := by
  induction n generalizing m s with
  | zero =>
    obtain rfl := List.length_eq_zero_iff.1 (Nat.le_zero.1 hn)
    cases m <;> rfl
  | succ n ih =>
    cases m with
    | zero =>
      obtain rfl := List.length_eq_zero_iff.1 (Nat.le_zero.1 hm)
      rfl
    | succ m =>
      rw [substituteWithin, substituteWithin]
      split
      · rfl
      · rename_i before after hcut
        split
        · rfl
        · rename_i body rest hsplit
          have hlength := congrArg List.length (Text.append_of_cutAt hcut)
          have hlength' := congrArg List.length (Text.append_of_splitOnce hsplit)
          simp only [List.length_append, List.length_cons] at hlength hlength'
          rw [@ih rest m (by omega) (by omega)]

theorem substituteWithin_of_cutAt_eq_none {s : Text} (h : Text.cutAt opening s = none)
    (fuel : Nat) : substituteWithin lookups fuel s = s := by
  cases fuel with
  | zero => rfl
  | succ fuel => rw [substituteWithin, h]

theorem substitute_append {s : Text} (h : '$' ∉ s) (t : Text) :
    substitute lookups (s ++ t) = s ++ substitute lookups t := by
  have hlength : t.length ≤ (s ++ t).length := by
    rw [List.length_append]
    exact Nat.le_add_left _ _
  rw [substitute, substituteWithin_append h, substituteWithin_congr hlength (Nat.le_refl _),
    substitute]

end

/-! ## What is written -/

/-- A text with its escapes read, if the settings say so. -/
def unescaped (config : Config) (text : Text) : Text :=
  if config.convertBackslashes then convertBackslashes text else text

theorem unescaped_eq_self_iff {config : Config} {text : Text} :
    unescaped config text = text ↔ (config.convertBackslashes = true → '\\' ∉ text.dropLast) := by
  unfold unescaped
  split
  · rename_i hb
    rw [convertBackslashes_eq_self_iff]
    exact ⟨fun h _ => h, fun h => h hb⟩
  · rename_i hb
    exact ⟨fun _ h => absurd h hb, fun _ => rfl⟩

/-- Escapes are read first, then variables are replaced. -/
theorem output_ofConfig (config : Config) (text : Text) :
    (ofConfig config text).output =
      if config.hasLookups then substitute config.lookups (unescaped config text)
      else unescaped config text := by
  have htext : (ofConfig config text).text = unescaped config text := rfl
  have hlookups : (ofConfig config text).lookups =
      if config.hasLookups && Text.contains opening (unescaped config text) then
        some config.lookups
      else none := rfl
  rw [output, hlookups, htext]
  cases config.hasLookups with
  | false => rfl
  | true =>
    cases hcontains : Text.contains opening (unescaped config text) with
    | true => rfl
    | false =>
      -- without a mark that opens a variable there is none to replace
      have hcut : Text.cutAt opening (unescaped config text) = none :=
        Option.isNone_iff_eq_none.1 (Option.isSome_eq_false_iff.1 hcontains)
      exact (substituteWithin_of_cutAt_eq_none hcut _).symm

/-- Text without backslash and dollar sign is written as it is, and what follows
it is read as it would be by itself. -/
theorem output_ofConfig_append {s : Text} (hslash : '\\' ∉ s) (hdollar : '$' ∉ s) (config : Config)
    (t : Text) : (ofConfig config (s ++ t)).output = s ++ (ofConfig config t).output := by
  have hread : unescaped config (s ++ t) = s ++ unescaped config t := by
    unfold unescaped
    split
    · exact convertBackslashes_append hslash t
    · rfl
  rw [output_ofConfig, output_ofConfig, hread]
  split
  · exact substitute_append hdollar _
  · rfl

/-! ### For all values -/

/-- A variable that is found is replaced by its value. -/
theorem expand_of_find? {lookups : Lookups} {body value : Text}
    (h : lookups.find? (variableName body) = some value) : expand lookups body = value := by
  cases hcut : Text.cutAt defaultMark body with
  | none =>
    have hname : variableName body = body := by rw [variableName, hcut]; rfl
    rw [hname] at h
    simp only [expand, hcut, h]
  | some cut =>
    have hname : variableName body = cut.1 := by rw [variableName, hcut]; rfl
    rw [hname] at h
    simp only [expand, hcut, h]

/-- Lookups all of whose values are empty. -/
def Erasing (lookups : Lookups) : Prop := ∀ name value, lookups.find? name = some value → value = []

section

variable {lookups : Lookups} (herase : Erasing lookups)

include herase

theorem length_expand_le (body : Text) : (expand lookups body).length ≤ body.length + 3 := by
  cases hcut : Text.cutAt defaultMark body with
  | none =>
    simp only [expand, hcut]
    split
    · rename_i value hvalue
      rw [herase _ _ hvalue]
      exact Nat.zero_le _
    · rename_i hdefault
      cases hdefault
    · simp [opening]
  | some cut =>
    have hlength := congrArg List.length (Text.append_of_cutAt hcut)
    simp only [List.length_append] at hlength
    simp only [expand, hcut]
    split
    · rename_i value hvalue
      rw [herase _ _ hvalue]
      exact Nat.zero_le _
    · rename_i default hdefault
      cases hdefault
      omega
    · rename_i hdefault
      cases hdefault

/-- Empty values make no text longer. -/
theorem length_substituteWithin_le (fuel : Nat) (s : Text) :
    (substituteWithin lookups fuel s).length ≤ s.length := by
  induction fuel generalizing s with
  | zero => exact Nat.le_refl _
  | succ fuel ih =>
    rw [substituteWithin]
    split
    · exact Nat.le_refl _
    · rename_i before after hcut
      split
      · exact Nat.le_refl _
      · rename_i body rest hsplit
        have hexpand := length_expand_le herase body
        have hrest := ih rest
        have hlength := congrArg List.length (Text.append_of_cutAt hcut)
        have hlength' := congrArg List.length (Text.append_of_splitOnce hsplit)
        have hopening : opening.length = 2 := rfl
        simp only [List.length_append, List.length_cons] at hlength hlength' ⊢
        omega

end

/-- The first mark that opens a variable stands no later than any other. -/
theorem exists_cutAt_opening (front after : Text) :
    ∃ before tail, Text.cutAt opening (front ++ opening ++ after) = some (before, tail) ∧
      after <:+ tail := by
  induction front with
  | nil => exact ⟨[], after, rfl, List.suffix_refl after⟩
  | cons c front ih =>
    obtain ⟨before, tail, hcut, hsuffix⟩ := ih
    rw [List.cons_append, List.cons_append, Text.cutAt]
    split
    · rename_i tail' hbegins
      refine ⟨[], tail', rfl, ?_⟩
      have hsplit := Text.append_of_isPrefixOf? hbegins
      have hlength := congrArg List.length hsplit
      simp only [List.length_append, List.length_cons] at hlength
      have hwhole : after <:+ opening ++ tail' := by
        rw [hsplit]
        exact (List.suffix_append _ after).trans (List.suffix_cons c _)
      exact List.suffix_of_suffix_length_le hwhole (List.suffix_append opening tail') (by omega)
    · exact ⟨c :: before, tail, by rw [hcut]; rfl, hsuffix⟩

/-- A text with a variable has a first one, which is what is replaced first. -/
theorem exists_first_variable {s : Text} (h : HasVariable s) :
    ∃ before after body rest, Text.cutAt opening s = some (before, after) ∧
      Text.splitOnce '\x7d' after = some (body, rest) := by
  obtain ⟨front, after, rfl, hclose⟩ := h
  obtain ⟨before, tail, hcut, hsuffix⟩ := exists_cutAt_opening front after
  cases hsplit : Text.splitOnce '\x7d' tail with
  | none => exact absurd (hsuffix.subset hclose) (Text.splitOnce_eq_none_iff.1 hsplit)
  | some part => exact ⟨before, tail, part.1, part.2, hcut, hsplit⟩

/-- Settings under which the only values are empty, and this name has one,
whether it names a property or a variable of the environment. -/
def erasing (escapes : Bool) (name : Text) : Config :=
  { convertBackslashes := escapes
    environmentLookups := true
    properties := [(name, [])]
    host := { environment := [(name.drop Lookups.environmentMark.length, [])] } }

theorem eq_of_valueOf?_singleton {key value : Text} {entry : Entry}
    (h : Entries.valueOf? [entry] key = some value) : value = entry.2 := by
  obtain ⟨found, hfound, rfl⟩ := Option.map_eq_some_iff.1 h
  rw [List.mem_singleton.1 (List.mem_of_find?_eq_some hfound)]

theorem erasing_lookups (escapes : Bool) (name : Text) :
    Erasing (erasing escapes name).lookups := by
  intro other value h
  unfold Lookups.find? at h
  split at h
  · exact eq_of_valueOf?_singleton h
  · exact eq_of_valueOf?_singleton h

theorem find?_erasing (escapes : Bool) (name : Text) :
    (erasing escapes name).lookups.find? name = some [] := by
  unfold Lookups.find?
  split
  · rename_i key hmark
    have hkey : name.drop Lookups.environmentMark.length = key := by
      rw [← Text.append_of_isPrefixOf? hmark, List.drop_left]
    simp [erasing, Config.lookups, Entries.valueOf?, hkey]
  · simp [erasing, Config.lookups, Entries.valueOf?]

/-- An empty value makes the text around its variable shorter. -/
theorem length_substitute_erasing_lt {s before after body rest : Text} (escapes : Bool)
    (hcut : Text.cutAt opening s = some (before, after))
    (hsplit : Text.splitOnce '\x7d' after = some (body, rest)) :
    (substitute (erasing escapes (variableName body)).lookups s).length < s.length := by
  have hlength := congrArg List.length (Text.append_of_cutAt hcut)
  have hlength' := congrArg List.length (Text.append_of_splitOnce hsplit)
  have hopening : opening.length = 2 := rfl
  simp only [List.length_append, List.length_cons] at hlength hlength'
  obtain ⟨n, hn⟩ : ∃ n, s.length = n + 1 := ⟨s.length - 1, by omega⟩
  rw [substitute, hn, substituteWithin, hcut]
  simp only [hsplit, expand_of_find? (find?_erasing escapes (variableName body)),
    List.append_nil, List.length_append]
  have hrest := length_substituteWithin_le (erasing_lookups escapes (variableName body)) n rest
  omega

/-- A text is written as it is, whatever its variables stand for, exactly when
nothing in it is read: where escapes are, no backslash stands before its last
character, and where variables are looked up, it has none. -/
theorem forall_output_eq_self_iff {config : Config} {text : Text} :
    (∀ config' : Config, config'.convertBackslashes = config.convertBackslashes →
        config'.hasLookups = config.hasLookups → (ofConfig config' text).output = text) ↔
      (config.convertBackslashes = true → '\\' ∉ text.dropLast) ∧
        (config.hasLookups = true → ¬ HasVariable text) := by
  constructor
  · intro h
    have hescapes : config.convertBackslashes = true → '\\' ∉ text.dropLast := by
      cases hl : config.hasLookups with
      | false =>
        have hkept := h config rfl rfl
        rw [output_ofConfig, hl] at hkept
        exact unescaped_eq_self_iff.1 hkept
      | true =>
        intro hb hmem
        -- empty values cannot make up for the backslash that is taken away
        have hkept := h (erasing true []) hb.symm hl.symm
        have hlt := length_convertBackslashes_lt hmem
        have hle := length_substituteWithin_le (erasing_lookups true [])
          (convertBackslashes text).length (convertBackslashes text)
        have hlength := congrArg List.length ((output_ofConfig _ text).symm.trans hkept)
        exact absurd hlength (Nat.ne_of_lt (Nat.lt_of_le_of_lt hle hlt))
    refine ⟨hescapes, fun hl hvariable => ?_⟩
    obtain ⟨before, after, body, rest, hcut, hsplit⟩ := exists_first_variable hvariable
    have hlt := length_substitute_erasing_lt config.convertBackslashes hcut hsplit
    have hread : unescaped (erasing config.convertBackslashes (variableName body)) text = text :=
      unescaped_eq_self_iff.2 hescapes
    have hkept := h (erasing config.convertBackslashes (variableName body)) rfl hl.symm
    rw [output_ofConfig, hread] at hkept
    exact absurd (congrArg List.length hkept) (Nat.ne_of_lt hlt)
  · rintro ⟨hescapes, hvariable⟩ config' hb hl
    have hread : unescaped config' text = text := unescaped_eq_self_iff.2 (hb ▸ hescapes)
    rw [output_ofConfig, hread]
    split
    · rename_i hlookups
      exact substituteWithin_of_not_hasVariable (hvariable (hl ▸ hlookups)) _
    · rfl

end Literal

end LogLine
