/-
  Proofs/Time/MillisecondText.lean --- the formats that show milliseconds at most.

  A format has tokens, none of which shows more than three digits of the fraction,
  exactly when its text is the same for all instants of a millisecond, wherever
  clocks turn at whole seconds only.  The fourth digit tells two such instants
  apart, and so do counts that are cut toward zero:

      DateFormat.text_ne_of_wide    a fourth digit
      DateFormat.isCacheable_tfae   the formats that may be kept
-/
import LogLine.Proofs.Lists
import LogLine.Proofs.Time.KeptText

set_option autoImplicit false

namespace LogLine

namespace DateFormat

/-! ## A fourth digit -/

theorem length_fractionText {width nanos : Nat} (h : nanos < 1000000000) :
    (fractionText width nanos).length = width := by
  have hnine : (Text.zeroPadded 9 (nanos : Int)).length = 9 := Text.length_zeroPadded (by decide) h
  rw [fractionText, List.length_append, List.length_take, List.length_replicate, hnine]
  omega

/-- Tokens that show a fourth digit of the fraction tell the beginning of a
millisecond from what comes a tenth of it later. -/
theorem text_ne_of_wide {tokens : List DateToken} {width : Nat}
    (hmem : .field .fraction width ∈ tokens) (hwide : 3 < width) :
    (DateFormat.pattern tokens).text Zone.utc.clocks ⟨0⟩ ≠
      (DateFormat.pattern tokens).text Zone.utc.clocks ⟨100000⟩ := by
  intro heq
  have hlater : CivilTime.ofInstant ⟨100000⟩ 0 =
      { CivilTime.ofInstant ⟨0⟩ 0 with nanos := 100000 } := rfl
  have htexts : tokensText tokens 0 (Zone.offsetName 0) ⟨0⟩ =
      tokensText tokens 0 (Zone.offsetName 0) ⟨100000⟩ := heq
  unfold tokensText at htexts
  rw [hlater] at htexts
  have hfraction := eq_of_flatMap_eq (fun token _ => ?_) htexts _ hmem
  · -- of the fraction, the first four digits are cut off
    have hfour : ∀ nanos, (fractionText width nanos).take 4 =
        (Text.zeroPadded 9 (nanos : Int)).take 4 := by
      intro nanos
      have hnine := Text.le_length_zeroPadded 9 nanos
      rw [fractionText, List.take_append_of_le_length, List.take_take, Nat.min_eq_left hwide]
      rw [List.length_take]
      omega
    have hdigits := congrArg (List.take 4) (show fractionText width 0 = fractionText width 100000
      from hfraction)
    rw [hfour, hfour] at hdigits
    exact absurd hdigits (by decide)
  · cases token with
    | literal text => rfl
    | field field width =>
      cases field with
      | fraction =>
        have hstart : (fractionText width 0).length = width := length_fractionText (by decide)
        have htenth : (fractionText width 100000).length = width := length_fractionText (by decide)
        exact hstart.trans htenth.symm
      | _ => rfl

/-! ## The formats that may be kept -/

/-- The text of a format may be kept for a millisecond exactly if the format has
tokens, none of which shows more than three digits of the fraction; exactly if any
two instants of one millisecond have one text, whatever the clocks, as long as
they turn at whole seconds only; and exactly if they have at every fixed offset. -/
theorem isCacheable_tfae (format : DateFormat) :
    List.TFAE [
      format.isCacheable = true,
      ∃ tokens, format = .pattern tokens ∧
        ∀ width, .field .fraction width ∈ tokens → width ≤ 3,
      ∀ clocks : Clocks, clocks.TurnAtSeconds → ∀ t u : Instant, t.inRange = true →
        u.inRange = true → t.millisecond = u.millisecond →
          format.text clocks t = format.text clocks u,
      ∀ (offset : Int) (t u : Instant), t.inRange = true → u.inRange = true →
        t.millisecond = u.millisecond →
          format.text (Zone.fixed offset).clocks t = format.text (Zone.fixed offset).clocks u] := by
  tfae_have 1 → 3 := fun h _ hclocks _ _ _ _ hmillis =>
    text_eq_of_millisecond_eq h hclocks hmillis
  tfae_have 3 → 4 := fun h offset => h _ (Zone.turnAtSeconds_fixed offset)
  tfae_have 4 → 2 := by
    intro h
    cases format with
    | unixSeconds =>
      exact absurd (h 0 ⟨-1000000000⟩ ⟨-999500000⟩ (by decide) (by decide) (by decide))
        (by decide)
    | unixMillis =>
      exact absurd (h 0 ⟨-1000000⟩ ⟨-500000⟩ (by decide) (by decide) (by decide)) (by decide)
    | pattern tokens =>
      refine ⟨tokens, rfl, fun width hmem => Nat.le_of_not_lt fun hwide => ?_⟩
      exact text_ne_of_wide hmem hwide
        (h 0 ⟨0⟩ ⟨100000⟩ (by decide) (by decide) (by decide))
  tfae_have 2 → 1 := by
    rintro ⟨tokens, rfl, hwidths⟩
    refine List.all_eq_true.2 fun token htoken => ?_
    split
    · exact decide_eq_true (hwidths _ htoken)
    · rfl
  tfae_finish

end DateFormat

end LogLine
