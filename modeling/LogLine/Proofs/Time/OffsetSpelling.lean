/-
  Proofs/Time/OffsetSpelling.lean --- the fixed offsets that can be written.

  After its sign an offset has hours of one or two digits and, at once or after a
  colon, minutes of two.  In ASCII these are the only texts that are read, and
  each gives an offset that clocks can have; the fields of a date pattern that show
  minutes write offsets in such texts again:

      Zone.offsetParts_iff          the parts of an offset
      Zone.readOffset_eq_ok_iff     the offsets that are read
      Zone.read_offsetText          and read again from what is written for them
      Zone.read_signed              names that begin with a sign
-/
import LogLine.Proofs.Text.ReadNumeral
import LogLine.Proofs.Text.Slices
import LogLine.Time.DateFormat

set_option autoImplicit false

namespace LogLine.Zone

/-! ## Spellings -/

/-- One or two digits. -/
def IsHours (s : Text) : Prop := Text.IsNumeral s ∧ s.length ≤ 2

/-- Two digits. -/
def IsMinutes (s : Text) : Prop := Text.IsNumeral s ∧ s.length = 2

/-- The texts that spell hours and minutes: `H`, `HH`, `HMM`, `HHMM`, `H:MM` and
`HH:MM`. -/
inductive Spells : Text → Nat → Nat → Prop
  | hours {h : Text} (hh : IsHours h) : Spells h (Text.digitsValue 0 h) 0
  | joined {h m : Text} (hh : IsHours h) (hm : IsMinutes m) :
    Spells (h ++ m) (Text.digitsValue 0 h) (Text.digitsValue 0 m)
  | parted {h m : Text} (hh : IsHours h) (hm : IsMinutes m) :
    Spells (h ++ ':' :: m) (Text.digitsValue 0 h) (Text.digitsValue 0 m)

theorem Spells.forall_digit_or_colon {s : Text} {hours minutes : Nat} (h : Spells s hours minutes) :
    ∀ c ∈ s, c.isDigit = true ∨ c = ':' := by
  cases h with
  | hours hh => exact fun c hc => .inl (hh.1.2 c hc)
  | joined hh hm =>
    exact List.forall_mem_append.2 ⟨fun c hc => .inl (hh.1.2 c hc), fun c hc => .inl (hm.1.2 c hc)⟩
  | parted hh hm =>
    exact List.forall_mem_append.2 ⟨fun c hc => .inl (hh.1.2 c hc),
      List.forall_mem_cons.2 ⟨.inr rfl, fun c hc => .inl (hm.1.2 c hc)⟩⟩

theorem Spells.ascii {s : Text} {hours minutes : Nat} (h : Spells s hours minutes) :
    ∀ c ∈ s, c.toNat < 128 := by
  intro c hc
  rcases h.forall_digit_or_colon c hc with hdigit | rfl
  · exact Text.toNat_lt_of_isDigit hdigit
  · decide

theorem Spells.not_blank {s : Text} {hours minutes : Nat} (h : Spells s hours minutes) :
    ∀ c ∈ s, Text.isBlank c = false := by
  intro c hc
  rcases h.forall_digit_or_colon c hc with hdigit | rfl
  · exact Text.isBlank_of_isDigit hdigit
  · decide

theorem digits?_eq_some_iff {s : Text} {n : Nat} :
    digits? s = some n ↔ Text.IsNumeral s ∧ n = Text.digitsValue 0 s := by
  unfold digits?
  simp only [List.all_eq_true, ← Text.IsNumeral.eq_def]
  split
  · rename_i h
    rw [Option.some.injEq, eq_comm]
    exact (and_iff_right h).symm
  · rename_i h
    exact iff_of_false nofun fun hs => h hs.1

/-- Two parts of an offset in ASCII are hours and minutes. -/
theorem offsetParts?_eq_some_iff {a b : Text} (ha : ∀ c ∈ a, c.toNat < 128) {hours minutes : Nat} :
    offsetParts? (some (a, b)) = some (hours, minutes) ↔
      IsHours a ∧ Text.IsNumeral b ∧ hours = Text.digitsValue 0 a ∧
        minutes = Text.digitsValue 0 b ∧ hours ≤ 25 ∧ minutes ≤ 59 := by
  unfold offsetParts? IsHours
  simp only [Text.byteLength_eq_length ha]
  split
  · rename_i hlong
    exact iff_of_false nofun fun h => Nat.not_le.2 hlong h.1.2
  · rename_i hshort
    have hle : a.length ≤ 2 := Nat.le_of_not_lt hshort
    split
    · rename_i h m hh hm
      obtain ⟨hnumeral, rfl⟩ := digits?_eq_some_iff.1 hh
      obtain ⟨hnumeral', rfl⟩ := digits?_eq_some_iff.1 hm
      split
      · rename_i hrange
        rw [Option.some.injEq, Prod.mk.injEq]
        constructor
        · rintro ⟨rfl, rfl⟩
          exact ⟨⟨hnumeral, hle⟩, hnumeral', rfl, rfl, hrange.1, hrange.2⟩
        · rintro ⟨-, -, rfl, rfl, -, -⟩
          exact ⟨rfl, rfl⟩
      · rename_i hrange
        refine iff_of_false nofun ?_
        rintro ⟨-, -, rfl, rfl, hh, hm⟩
        exact hrange ⟨hh, hm⟩
    · rename_i hnone
      refine iff_of_false nofun ?_
      rintro ⟨⟨ha, -⟩, hb, -, -, -, -⟩
      exact hnone _ _ (digits?_eq_some_iff.2 ⟨ha, rfl⟩) (digits?_eq_some_iff.2 ⟨hb, rfl⟩)

/-! ## Where a spelling is cut -/

theorem spells_parted_iff {a b : Text} (ha : ':' ∉ a) {hours minutes : Nat} :
    Spells (a ++ ':' :: b) hours minutes ↔ IsHours a ∧ IsMinutes b ∧
      hours = Text.digitsValue 0 a ∧ minutes = Text.digitsValue 0 b := by
  constructor
  · generalize hs : a ++ ':' :: b = s
    have hmem : ':' ∈ s := hs ▸ List.mem_append_right a List.mem_cons_self
    intro hspells
    cases hspells with
    | hours hh => exact absurd hmem (hh.1.not_mem rfl)
    | joined hh hm =>
      exact absurd (List.mem_append.1 hmem) (not_or.2 ⟨hh.1.not_mem rfl, hm.1.not_mem rfl⟩)
    | @parted h m hh hm =>
      have hcut : Text.splitOnce ':' (h ++ ':' :: m) = some (a, b) :=
        Text.splitOnce_eq_some_iff.2 ⟨hs.symm, ha⟩
      have hsame : Text.splitOnce ':' (h ++ ':' :: m) = some (h, m) :=
        Text.splitOnce_eq_some_iff.2 ⟨rfl, hh.1.not_mem rfl⟩
      rw [hcut, Option.some.injEq, Prod.mk.injEq] at hsame
      obtain ⟨rfl, rfl⟩ := hsame
      exact ⟨hh, hm, rfl, rfl⟩
  · rintro ⟨hh, hm, rfl, rfl⟩
    exact .parted hh hm

theorem spells_joined_iff {a b : Text} (ha : a ≠ []) (hb : b.length = 2) (hno : ':' ∉ a ++ b)
    {hours minutes : Nat} :
    Spells (a ++ b) hours minutes ↔ IsHours a ∧ IsMinutes b ∧
      hours = Text.digitsValue 0 a ∧ minutes = Text.digitsValue 0 b := by
  constructor
  · have hlong : 2 < (a ++ b).length := by
      have hpos := List.length_pos_iff.2 ha
      rw [List.length_append]
      omega
    generalize hs : a ++ b = s at hno hlong
    intro hspells
    cases hspells with
    | hours hh => exact absurd hh.2 (Nat.not_le.2 hlong)
    | joined hh hm =>
      obtain ⟨rfl, rfl⟩ := List.append_inj' hs (hb.trans hm.2.symm)
      exact ⟨hh, hm, rfl, rfl⟩
    | parted => exact absurd (List.mem_append_right _ List.mem_cons_self) hno
  · rintro ⟨hh, hm, rfl, rfl⟩
    exact .joined hh hm

theorem spells_hours_iff {s : Text} (hshort : s.length ≤ 2) (hno : ':' ∉ s)
    {hours minutes : Nat} :
    Spells s hours minutes ↔ IsHours s ∧ hours = Text.digitsValue 0 s ∧ minutes = 0 := by
  constructor
  · intro hspells
    cases hspells with
    | hours hh => exact ⟨hh, rfl, rfl⟩
    | joined hh hm =>
      have hpos := List.length_pos_iff.2 hh.1.1
      rw [List.length_append, hm.2] at hshort
      omega
    | parted => exact absurd (List.mem_append_right _ List.mem_cons_self) hno
  · rintro ⟨hh, rfl, rfl⟩
    exact .hours hh

/-- An offset in ASCII is never cut inside a character, and its parts are hours and
minutes exactly if it spells them. -/
theorem offsetParts_iff {rest : Text} (hascii : ∀ c ∈ rest, c.toNat < 128) :
    ∃ cut, splitOffset rest = .ok cut ∧ ∀ hours minutes,
      offsetParts? cut = some (hours, minutes) ↔
        Spells rest hours minutes ∧ hours ≤ 25 ∧ minutes ≤ 59 := by
  unfold splitOffset
  cases hsplit : Text.splitOnce ':' rest with
  | some cut =>
    obtain ⟨a, b⟩ := cut
    obtain ⟨rfl, ha⟩ := Text.splitOnce_eq_some_iff.1 hsplit
    obtain ⟨hasciiA, hasciiB⟩ := List.forall_mem_append.1 hascii
    rw [List.forall_mem_cons] at hasciiB
    refine ⟨_, rfl, fun hours minutes => ?_⟩
    rw [Text.byteLength_eq_length hasciiB.2, spells_parted_iff ha, IsMinutes]
    split
    · rename_i htwo
      simp only [offsetParts?_eq_some_iff hasciiA, htwo, and_true, and_assoc]
    · rename_i htwo
      exact iff_of_false nofun fun h => htwo h.1.2.1.2
  | none =>
    have hno : ':' ∉ rest := Text.splitOnce_eq_none_iff.1 hsplit
    simp only [Text.byteLength_eq_length hascii]
    split
    · rename_i hlong
      -- the last two characters are cut off
      obtain ⟨a, b, rfl, htwo⟩ : ∃ a b, rest = a ++ b ∧ b.length = 2 :=
        ⟨rest.take (rest.length - 2), rest.drop (rest.length - 2),
          (List.take_append_drop _ _).symm, by rw [List.length_drop]; omega⟩
      obtain ⟨hasciiA, hasciiB⟩ := List.forall_mem_append.1 hascii
      have hcut : Text.cutBytesBeforeEnd? 2 (a ++ b) = some (a, b) := by
        rw [Text.cutBytesBeforeEnd?_eq_some_iff, Text.byteLength_eq_length hasciiB]
        exact ⟨rfl, htwo⟩
      have hne : a ≠ [] := by
        rintro rfl
        rw [List.nil_append, htwo] at hlong
        exact absurd hlong (Nat.lt_irrefl 2)
      rw [hcut]
      refine ⟨_, rfl, fun hours minutes => ?_⟩
      simp only [offsetParts?_eq_some_iff hasciiA, spells_joined_iff hne htwo hno, IsMinutes, htwo,
        and_true, and_assoc]
    · rename_i hshort
      have hzero : Text.IsNumeral ['0'] := by decide
      have hvalue : Text.digitsValue 0 ['0'] = 0 := rfl
      refine ⟨_, rfl, fun hours minutes => ?_⟩
      simp only [offsetParts?_eq_some_iff hascii, spells_hours_iff (Nat.le_of_not_lt hshort) hno,
        hzero, hvalue, true_and, and_assoc]

/-! ## Reading -/

/-- The offset of a sign, hours and minutes, in seconds. -/
def signedSeconds (negative : Bool) (hours minutes : Nat) : Int :=
  if negative then -(3600 * hours + 60 * minutes : Nat) else (3600 * hours + 60 * minutes : Nat)

/-- Hours and minutes in their range are an offset that clocks can have, in whole
minutes. -/
theorem natAbs_signedSeconds (negative : Bool) {hours minutes : Nat} (hhours : hours ≤ 25)
    (hminutes : minutes ≤ 59) :
    (signedSeconds negative hours minutes).natAbs % 60 = 0 ∧
      (signedSeconds negative hours minutes).natAbs ≤ farthestOffset := by
  have hseconds : (signedSeconds negative hours minutes).natAbs = 3600 * hours + 60 * minutes := by
    unfold signedSeconds
    split
    · rw [Int.natAbs_neg, Int.natAbs_natCast]
    · rw [Int.natAbs_natCast]
  rw [hseconds, farthestOffset]
  omega

/-- What spells an offset in the range is read. -/
theorem readOffset_of_spells (name : Text) (negative : Bool) {rest : Text} {hours minutes : Nat}
    (hspells : Spells rest hours minutes) (hhours : hours ≤ 25) (hminutes : minutes ≤ 59) :
    readOffset name negative rest = .ok (.fixed (signedSeconds negative hours minutes)) := by
  obtain ⟨cut, hcut, hparts⟩ := offsetParts_iff hspells.ascii
  have hsome := (hparts hours minutes).2 ⟨hspells, hhours, hminutes⟩
  simp only [readOffset, hcut, hsome]
  exact if_pos (natAbs_signedSeconds negative hhours hminutes).2

/-- Any other text of ASCII has the error for offsets. -/
theorem readOffset_of_not_spells (name : Text) (negative : Bool) {rest : Text}
    (hascii : ∀ c ∈ rest, c.toNat < 128)
    (h : ¬ ∃ hours minutes, Spells rest hours minutes ∧ hours ≤ 25 ∧ minutes ≤ 59) :
    readOffset name negative rest = .error (.error (invalidOffset name)) := by
  obtain ⟨cut, hcut, hparts⟩ := offsetParts_iff hascii
  have hnone : offsetParts? cut = none := by
    refine Option.eq_none_iff_forall_ne_some.2 fun parts hsome => ?_
    exact h ⟨_, _, (hparts parts.1 parts.2).1 hsome⟩
  simp only [readOffset, hcut, hnone]

theorem readOffset_eq_ok_iff (name : Text) (negative : Bool) {rest : Text}
    (hascii : ∀ c ∈ rest, c.toNat < 128) {zone : Zone} :
    readOffset name negative rest = .ok zone ↔ ∃ hours minutes, Spells rest hours minutes ∧
      hours ≤ 25 ∧ minutes ≤ 59 ∧ zone = .fixed (signedSeconds negative hours minutes) := by
  constructor
  · intro hok
    by_cases hspells : ∃ hours minutes, Spells rest hours minutes ∧ hours ≤ 25 ∧ minutes ≤ 59
    · obtain ⟨hours, minutes, hspells, hhours, hminutes⟩ := hspells
      rw [readOffset_of_spells name negative hspells hhours hminutes] at hok
      exact ⟨hours, minutes, hspells, hhours, hminutes, (Except.ok.inj hok).symm⟩
    · rw [readOffset_of_not_spells name negative hascii hspells] at hok
      cases hok
  · rintro ⟨hours, minutes, hspells, hhours, hminutes, rfl⟩
    exact readOffset_of_spells name negative hspells hhours hminutes

/-- A name that begins with a sign is an offset. -/
theorem read_of_sign (zones : ZoneDatabase) {text rest : Text} {sign : Char}
    (htrim : Text.trim text = sign :: rest) (hsign : sign = '+' ∨ sign = '-') :
    read zones text = readOffset (Text.trim text) (sign = '-') rest := by
  have hname : Text.trim text ∉ ["UTC".toList, "GMT".toList, "Z".toList] := by
    rw [htrim]
    rcases hsign with rfl | rfl <;> simp
  rw [read, if_neg hname, htrim]
  rcases hsign with rfl | rfl <;> rfl

/-! ## Reading what is written -/

/-- An offset of whole minutes is the one of its sign, hours and minutes. -/
theorem signedSeconds_natAbs {offset : Int} (hwhole : offset.natAbs % 60 = 0) :
    signedSeconds (offset < 0) (offset.natAbs / 3600) (offset.natAbs % 3600 / 60) = offset := by
  have hparts : 3600 * (offset.natAbs / 3600) + 60 * (offset.natAbs % 3600 / 60) =
      offset.natAbs := by omega
  rw [signedSeconds, hparts]
  split
  · rename_i hneg
    have := of_decide_eq_true hneg
    omega
  · rename_i hpos
    have := of_decide_eq_false (Bool.eq_false_iff.2 hpos)
    omega

theorem isMinutes_zeroPadded {n : Nat} (h : n < 100) : IsMinutes (Text.zeroPadded 2 (n : Int)) :=
  ⟨Text.isNumeral_zeroPadded 2 n, Text.length_zeroPadded (by decide) h⟩

/-- Two padded numbers, at once or with a colon between them, spell an offset. -/
theorem spells_zeroPadded (colon : Bool) {hours minutes : Nat} (hhours : hours < 100)
    (hminutes : minutes < 100) :
    Spells (Text.zeroPadded 2 (hours : Int) ++ (if colon then [':'] else []) ++
      Text.zeroPadded 2 (minutes : Int)) hours minutes := by
  have hh : IsHours (Text.zeroPadded 2 (hours : Int)) :=
    ⟨(isMinutes_zeroPadded hhours).1, Nat.le_of_eq (isMinutes_zeroPadded hhours).2⟩
  have hm := isMinutes_zeroPadded hminutes
  have hspells : ∀ s, Spells s (Text.digitsValue 0 (Text.zeroPadded 2 (hours : Int)))
      (Text.digitsValue 0 (Text.zeroPadded 2 (minutes : Int))) → Spells s hours minutes := by
    intro s hs
    rwa [Text.digitsValue_zeroPadded, Text.digitsValue_zeroPadded] at hs
  cases colon with
  | false =>
    refine hspells _ ?_
    simpa using Spells.joined hh hm
  | true =>
    refine hspells _ ?_
    simpa using Spells.parted hh hm

/-- A sign is written, and then a spelling of the hours and minutes. -/
theorem exists_offsetText (colon : Bool) {offset : Int} (hnear : offset.natAbs ≤ farthestOffset) :
    ∃ sign rest, DateFormat.offsetText colon offset = sign :: rest ∧ (sign = '+' ∨ sign = '-') ∧
      decide (sign = '-') = decide (offset < 0) ∧
      Spells rest (offset.natAbs / 3600) (offset.natAbs % 3600 / 60) := by
  have hhours : offset.natAbs / 3600 < 100 := by
    unfold farthestOffset at hnear
    omega
  have hminutes : offset.natAbs % 3600 / 60 < 100 := by omega
  have hspells := spells_zeroPadded colon hhours hminutes
  unfold DateFormat.offsetText
  by_cases hneg : offset < 0
  · rw [if_pos hneg]
    exact ⟨'-', _, rfl, .inr rfl, (decide_eq_true hneg).symm, hspells⟩
  · rw [if_neg hneg]
    exact ⟨'+', _, rfl, .inl rfl, (decide_eq_false hneg).symm, hspells⟩

/-- An offset of whole minutes is read from the text that is written for it. -/
theorem read_offsetText (zones : ZoneDatabase) {offset : Int} (hwhole : offset.natAbs % 60 = 0)
    (hnear : offset.natAbs ≤ farthestOffset) (colon : Bool) :
    read zones (DateFormat.offsetText colon offset) = .ok (.fixed offset) := by
  have hhours : offset.natAbs / 3600 ≤ 25 := by
    unfold farthestOffset at hnear
    omega
  have hminutes : offset.natAbs % 3600 / 60 ≤ 59 := by omega
  obtain ⟨sign, rest, htext, hsign, hnegative, hspells⟩ := exists_offsetText colon hnear
  have hblank : Text.isBlank sign = false := by
    rcases hsign with rfl | rfl <;> decide
  have htrim : Text.trim (DateFormat.offsetText colon offset) = sign :: rest := by
    rw [htext]
    exact Text.trim_eq_self (List.forall_mem_cons.2 ⟨hblank, hspells.not_blank⟩)
  rw [read_of_sign zones htrim hsign, hnegative, readOffset_of_spells _ _ hspells hhours hminutes,
    signedSeconds_natAbs hwhole]

/-- The form with `Z` is read again as well, unless it leaves the minutes out. -/
theorem read_isoOffsetText (zones : ZoneDatabase) {offset : Int} (hwhole : offset.natAbs % 60 = 0)
    (hnear : offset.natAbs ≤ farthestOffset) {width : Nat} (hwidth : width ≠ 1) :
    read zones (DateFormat.isoOffsetText width offset) = .ok (.fixed offset) := by
  unfold DateFormat.isoOffsetText
  split
  · rename_i hzero
    rw [hzero]
    rfl
  · exact read_offsetText zones hwhole hnear _

/-- The text of a single field. -/
theorem text_field (field : DateField) (width : Nat) (clocks : Clocks) (t : Instant) :
    (DateFormat.pattern [.field field width]).text clocks t =
      DateFormat.fieldText (CivilTime.ofInstant t (clocks.offset t)) (clocks.offset t)
        (clocks.name t) field width :=
  List.append_nil _

/-- A name of ASCII that begins with a sign is an offset exactly if the rest spells
hours up to 25 and minutes up to 59, and otherwise has the error for offsets,
whatever zones are known.  The offset is one that clocks can have, and it is read
again from what the fields that show its minutes write for it. -/
theorem read_signed (zones : ZoneDatabase) {text : Text} (hascii : ∀ c ∈ text, c.toNat < 128)
    {sign : Char} {rest : Text} (htrim : Text.trim text = sign :: rest)
    (hsign : sign = '+' ∨ sign = '-') :
    (∀ zone, read zones text = .ok zone ↔ ∃ hours minutes, Spells rest hours minutes ∧ hours ≤ 25 ∧
      minutes ≤ 59 ∧ zone = .fixed (signedSeconds (sign = '-') hours minutes)) ∧
    ((∀ zone, read zones text ≠ .ok zone) →
      read zones text = .error (.error (invalidOffset (Text.trim text)))) ∧
    ∀ offset, read zones text = .ok (.fixed offset) → offset.natAbs ≤ farthestOffset ∧
      ∀ (t : Instant) (width : Nat),
        read zones ((DateFormat.pattern [.field .plainOffset width]).text (fixed offset).clocks t) =
          .ok (.fixed offset) ∧
        (width ≠ 1 →
          read zones ((DateFormat.pattern [.field .isoOffset width]).text (fixed offset).clocks t) =
            .ok (.fixed offset)) := by
  have hrest : ∀ c ∈ rest, c.toNat < 128 := fun c hc =>
    hascii c (Text.mem_of_mem_trim (htrim ▸ List.mem_cons_of_mem sign hc))
  rw [read_of_sign zones htrim hsign]
  refine ⟨fun zone => readOffset_eq_ok_iff _ _ hrest, fun hnone => ?_, fun offset hoffset => ?_⟩
  · refine readOffset_of_not_spells _ _ hrest ?_
    rintro ⟨hours, minutes, hspells, hhours, hminutes⟩
    exact hnone _ (readOffset_of_spells _ _ hspells hhours hminutes)
  · obtain ⟨hours, minutes, -, hhours, hminutes, heq⟩ := (readOffset_eq_ok_iff _ _ hrest).1 hoffset
    obtain rfl := Zone.fixed.inj heq
    obtain ⟨hwhole, hnear⟩ := natAbs_signedSeconds (sign = '-') hhours hminutes
    refine ⟨hnear, fun t width => ⟨?_, fun hwidth => ?_⟩⟩
    · rw [text_field]
      exact read_offsetText zones hwhole hnear false
    · rw [text_field]
      exact read_isoOffsetText zones hwhole hnear hwidth

theorem read_signed_paddedName :
    (∀ c ∈ " -5:30".toList, c.toNat < 128) ∧ Text.trim " -5:30".toList = '-' :: "5:30".toList ∧
      Spells "5:30".toList 5 30 ∧ read Region.database " -5:30".toList = .ok (.fixed (-19800)) ∧
      ∀ t, read Region.database
          ((DateFormat.pattern [.field .isoOffset 3]).text (fixed (-19800)).clocks t) =
        .ok (.fixed (-19800)) := by
  have hascii : ∀ c ∈ " -5:30".toList, c.toNat < 128 := by simp
  have htrim : Text.trim " -5:30".toList = '-' :: "5:30".toList := by decide
  have hspells : Spells "5:30".toList 5 30 :=
    .parted (h := ['5']) (m := ['3', '0']) ⟨by decide, by decide⟩ ⟨by decide, by decide⟩
  obtain ⟨hiff, -, hagain⟩ := read_signed Region.database hascii htrim (.inr rfl)
  have hread : read Region.database " -5:30".toList = .ok (.fixed (-19800)) :=
    (hiff _).2 ⟨5, 30, hspells, by decide, by decide, rfl⟩
  exact ⟨hascii, htrim, hspells, hread, fun t => ((hagain _ hread).2 t 3).2 (by decide)⟩

end LogLine.Zone
