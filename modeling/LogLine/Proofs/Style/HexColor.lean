/-
  Proofs/Style/HexColor.lean --- a mix of colors cut out of its digits by bytes.

  A mix is six hexadecimal digits, two for each of red, green and blue.  Each
  pair can be cut out by its place in bytes: six bytes that are all digits are
  six characters, so that no cut is inside one.

      mixOfHexBytes?_eq       no cut is inside a character, and the mix is the same
-/
import LogLine.Proofs.Lists
import LogLine.Proofs.Text.DecimalDigits
import LogLine.Proofs.Text.Slices
import LogLine.Style.Sequence

set_option autoImplicit false

namespace LogLine.Style

theorem toNat_lt_of_hexValue? {c : Char} (h : (hexValue? c).isSome) : c.toNat < 128 := by
  unfold hexValue? at h
  split at h
  · rename_i hdigit
    exact Text.toNat_lt_of_isDigit hdigit
  · split at h
    · rename_i hletter
      simp only [Bool.and_eq_true, decide_eq_true_eq] at hletter
      exact Nat.lt_of_le_of_lt hletter.2 (by decide)
    · cases h

/-- A hexadecimal digit takes one byte. -/
theorem byteLength_of_hexValue? {s : Text} (h : ∀ c ∈ s, (hexValue? c).isSome) :
    Text.byteLength s = s.length :=
  Text.byteLength_eq_length fun c hc => toNat_lt_of_hexValue? (h c hc)

/-- What is no six digits is no mix. -/
theorem mixOfHex?_eq_none {s : Text}
    (h : ¬ (Text.byteLength s = 6 ∧ ∀ c ∈ s, (hexValue? c).isSome)) : mixOfHex? s = none := by
  unfold mixOfHex?
  split
  · rename_i r₁ r₀ g₁ g₀ b₁ b₀ hvalues
    have hmap := mapM_eq_some_iff.1 hvalues
    have hdigits : ∀ c ∈ s, (hexValue? c).isSome := by
      intro c hc
      have hmem : hexValue? c ∈ [r₁, r₀, g₁, g₀, b₁, b₀].map some := hmap ▸ List.mem_map_of_mem hc
      obtain ⟨value, _, hvalue⟩ := List.mem_map.1 hmem
      rw [← hvalue]
      rfl
    have hlength : s.length = 6 := by
      have := congrArg List.length hmap
      simpa using this
    exact absurd ⟨(byteLength_of_hexValue? hdigits).trans hlength, hdigits⟩ h
  · rfl

/-- No cut is inside a character. -/
theorem mixOfHexBytes?_eq (s : Text) : mixOfHexBytes? s = some (mixOfHex? s) := by
  unfold mixOfHexBytes?
  split
  · rename_i h
    obtain ⟨hbytes, hall⟩ := h
    have hdigits : ∀ c ∈ s, (hexValue? c).isSome := List.all_eq_true.1 hall
    have hlength : s.length = 6 := (byteLength_of_hexValue? hdigits).symm.trans hbytes
    match s, hlength with
    | [r₁, r₀, g₁, g₀, b₁, b₀], _ =>
      have hbytes : ∀ t, t ⊆ [r₁, r₀, g₁, g₀, b₁, b₀] → Text.byteLength t = t.length :=
        fun t ht => byteLength_of_hexValue? fun c hc => hdigits c (ht hc)
      have hred : Text.sliceBytes? [r₁, r₀, g₁, g₀, b₁, b₀] 0 2 = some [r₁, r₀] := by
        have h := Text.sliceBytes?_append [] [r₁, r₀] [g₁, g₀, b₁, b₀]
        rwa [hbytes [] (by simp), hbytes [r₁, r₀] (by simp)] at h
      have hgreen : Text.sliceBytes? [r₁, r₀, g₁, g₀, b₁, b₀] 2 4 = some [g₁, g₀] := by
        have h := Text.sliceBytes?_append [r₁, r₀] [g₁, g₀] [b₁, b₀]
        rwa [hbytes [r₁, r₀] (by simp), hbytes [g₁, g₀] (by simp)] at h
      have hblue : Text.sliceBytes? [r₁, r₀, g₁, g₀, b₁, b₀] 4 6 = some [b₁, b₀] := by
        have h := Text.sliceBytes?_append [r₁, r₀, g₁, g₀] [b₁, b₀] []
        rwa [hbytes [r₁, r₀, g₁, g₀] (by simp), hbytes [b₁, b₀] (by simp)] at h
      simp only [hred, hgreen, hblue, channel?, mixOfHex?, List.mapM_cons, List.mapM_nil,
        Option.bind_eq_bind, Option.bind_some]
      simp only [List.mem_cons, List.not_mem_nil, or_false, forall_eq_or_imp, forall_eq,
        Option.isSome_iff_exists] at hdigits
      obtain ⟨⟨_, h₁⟩, ⟨_, h₂⟩, ⟨_, h₃⟩, ⟨_, h₄⟩, ⟨_, h₅⟩, _, h₆⟩ := hdigits
      simp [h₁, h₂, h₃, h₄, h₅, h₆]
  · rename_i h
    rw [mixOfHex?_eq_none fun hmix => h ⟨hmix.1, List.all_eq_true.2 hmix.2⟩]

end LogLine.Style
