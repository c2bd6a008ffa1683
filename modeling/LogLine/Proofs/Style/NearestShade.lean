/-
  Proofs/Style/NearestShade.lean --- the plain color shown in place of a mix.

  A terminal of sixteen colors has eight dark shades, 0 to 7, and eight bright
  ones, 60 to 67.  In place of a mix it shows the shade at the least distance, and
  of several the one with the least number: candidates are looked at in ascending
  order, and a later one is taken only if it is strictly nearer.

      IsNearest.unique        there is one nearest shade
      isNearest_nearest       the search finds it
-/
import Mathlib.Tactic.Ring
import LogLine.Style.Color

set_option autoImplicit false

namespace LogLine.Style

/-- The shades of a terminal of sixteen colors, by number, each a mix of red, green
and blue. -/
def shades : List (Nat × Nat × Nat × Nat) :=
  [(0, 0, 0, 0), (1, 205, 0, 0), (2, 0, 205, 0), (3, 205, 205, 0), (4, 0, 0, 238),
   (5, 205, 0, 205), (6, 0, 205, 205), (7, 229, 229, 229), (60, 127, 127, 127), (61, 255, 0, 0),
   (62, 0, 255, 0), (63, 255, 255, 0), (64, 92, 92, 255), (65, 255, 0, 255), (66, 0, 255, 255),
   (67, 255, 255, 255)]

/-- The square of the distance of two mixes. -/
def distance (a b : Nat × Nat × Nat) : Int :=
  ((a.1 : Int) - b.1) ^ 2 + ((a.2.1 : Int) - b.2.1) ^ 2 + ((a.2.2 : Int) - b.2.2) ^ 2

/-- Whether no shade is nearer to a mix, and none of a lower number is as near. -/
def IsNearest (mix : Nat × Nat × Nat) (shade : Nat) : Prop :=
  ∃ color, (shade, color) ∈ shades ∧ ∀ other ∈ shades,
    distance mix color < distance mix other.2 ∨
      distance mix color = distance mix other.2 ∧ shade ≤ other.1

theorem IsNearest.unique {mix : Nat × Nat × Nat} {a b : Nat} (ha : IsNearest mix a)
    (hb : IsNearest mix b) : a = b := by
  obtain ⟨color, hcolor, ha⟩ := ha
  obtain ⟨color', hcolor', hb⟩ := hb
  rcases ha _ hcolor' with hnearer | ⟨hsame, hle⟩
  · rcases hb _ hcolor with hfarther | ⟨hsame, -⟩
    · exact absurd hfarther (lt_asymm hnearer)
    · exact absurd hsame hnearer.ne'
  · rcases hb _ hcolor with hfarther | ⟨-, hge⟩
    · exact absurd hsame hfarther.ne'
    · exact Nat.le_antisymm hle hge

/-! ## The search -/

/-- How far the bright shades are from the dark ones. -/
def brightStep : Bool → Nat
  | false => 0
  | true => 60

/-- The number of the shade of a plain color. -/
def shadeNumber (color : Bool × Hue) : Nat := brightStep color.1 + color.2.index

theorem map_palette : Color.palette.map (Prod.map shadeNumber id) = shades := rfl

theorem squaredDistance_eq_distance (a b : Nat × Nat × Nat) :
    (Color.squaredDistance a b : Int) = distance a b := by
  have hgap : ∀ x y : Nat, (Color.squaredGap x y : Int) = ((x : Int) - y) ^ 2 := by
    intro x y
    rw [Color.squaredGap]
    rcases Nat.le_total x y with h | h
    · rw [Nat.sub_eq_zero_of_le h]
      push_cast [h]
      ring
    · rw [Nat.sub_eq_zero_of_le h]
      push_cast [h]
      ring
  rw [Color.squaredDistance, distance]
  push_cast
  rw [hgap, hgap, hgap]

/-- Whether a color at a distance goes before another one. -/
def Precedes (best other : (Bool × Hue) × Nat) : Prop :=
  best.2 < other.2 ∨ best.2 = other.2 ∧ shadeNumber best.1 ≤ shadeNumber other.1

theorem Precedes.trans {a b c : (Bool × Hue) × Nat} (hab : Precedes a b) (hbc : Precedes b c) :
    Precedes a c := by
  simp only [Precedes] at *
  omega

section

variable {mix : Nat × Nat × Nat}

/-- A color with its distance. -/
def measured (mix : Nat × Nat × Nat) (entry : (Bool × Hue) × (Nat × Nat × Nat)) :
    (Bool × Hue) × Nat :=
  (entry.1, Color.squaredDistance mix entry.2)

theorem nearer_eq (best : (Bool × Hue) × Nat) (candidate : (Bool × Hue) × (Nat × Nat × Nat)) :
    Color.nearer mix best candidate =
      if (measured mix candidate).2 < best.2 then measured mix candidate else best := rfl

theorem nearer_eq_or (best : (Bool × Hue) × Nat)
    (candidate : (Bool × Hue) × (Nat × Nat × Nat)) :
    Color.nearer mix best candidate = best ∨
      Color.nearer mix best candidate = measured mix candidate := by
  rw [nearer_eq]
  split
  · exact .inr rfl
  · exact .inl rfl

/-- Of two colors in ascending order the one that goes before the other is taken. -/
theorem precedes_nearer {best : (Bool × Hue) × Nat}
    {candidate : (Bool × Hue) × (Nat × Nat × Nat)}
    (h : shadeNumber best.1 ≤ shadeNumber candidate.1) :
    Precedes (Color.nearer mix best candidate) best ∧
      Precedes (Color.nearer mix best candidate) (measured mix candidate) := by
  rw [nearer_eq]
  split
  · rename_i hnearer
    exact ⟨.inl hnearer, .inr ⟨rfl, Nat.le_refl _⟩⟩
  · rename_i hfarther
    refine ⟨.inr ⟨rfl, Nat.le_refl _⟩, ?_⟩
    rcases Nat.lt_or_eq_of_le (Nat.le_of_not_lt hfarther) with hlt | heq
    · exact .inl hlt
    · exact .inr ⟨heq, h⟩

/-- The search takes one of the colors that it looks at. -/
theorem foldl_nearer_eq (best : (Bool × Hue) × Nat)
    (others : List ((Bool × Hue) × (Nat × Nat × Nat))) :
    others.foldl (Color.nearer mix) best = best ∨
      ∃ other ∈ others, others.foldl (Color.nearer mix) best = measured mix other := by
  induction others generalizing best with
  | nil => exact .inl rfl
  | cons candidate others ih =>
    rcases ih (Color.nearer mix best candidate) with hsame | ⟨other, hmem, hother⟩
    · rcases nearer_eq_or best candidate with hbest | hcandidate
      · exact .inl (hsame.trans hbest)
      · exact .inr ⟨candidate, List.mem_cons_self, hsame.trans hcandidate⟩
    · exact .inr ⟨other, List.mem_cons_of_mem _ hmem, hother⟩

/-- What the search takes goes before all that it looks at in ascending order. -/
theorem precedes_foldl_nearer (best : (Bool × Hue) × Nat)
    (others : List ((Bool × Hue) × (Nat × Nat × Nat)))
    (hsorted : others.Pairwise fun a b => shadeNumber a.1 ≤ shadeNumber b.1)
    (hfirst : ∀ other ∈ others, shadeNumber best.1 ≤ shadeNumber other.1) :
    Precedes (others.foldl (Color.nearer mix) best) best ∧
      ∀ other ∈ others,
        Precedes (others.foldl (Color.nearer mix) best) (measured mix other) := by
  induction others generalizing best with
  | nil => exact ⟨.inr ⟨rfl, Nat.le_refl _⟩, by simp⟩
  | cons candidate others ih =>
    obtain ⟨hnext, hsorted⟩ := List.pairwise_cons.1 hsorted
    obtain ⟨hcandidate, hothers⟩ := List.forall_mem_cons.1 hfirst
    have hlow : ∀ other ∈ others,
        shadeNumber (Color.nearer mix best candidate).1 ≤ shadeNumber other.1 := by
      rcases nearer_eq_or best candidate with h | h
      · rw [h]
        exact hothers
      · rw [h]
        exact hnext
    obtain ⟨hbefore, hall⟩ := ih (Color.nearer mix best candidate) hsorted hlow
    obtain ⟨hbest, hmeasured⟩ := @precedes_nearer mix _ _ hcandidate
    exact ⟨hbefore.trans hbest, List.forall_mem_cons.2 ⟨hbefore.trans hmeasured, hall⟩⟩

end

/-- The search finds the nearest shade. -/
theorem isNearest_nearest (mix : Nat × Nat × Nat) :
    IsNearest mix (shadeNumber (Color.nearest mix)) := by
  have hsorted :
      Color.palette.Pairwise fun a b => shadeNumber a.1 ≤ shadeNumber b.1 := by decide
  have hblack : ((false, .black), (0, 0, 0)) ∈ Color.palette := List.mem_cons_self
  obtain ⟨entry, hentry, hlast⟩ : ∃ entry ∈ Color.palette,
      Color.palette.foldl (Color.nearer mix) (measured mix ((false, .black), (0, 0, 0))) =
        measured mix entry := by
    rcases foldl_nearer_eq (measured mix ((false, .black), (0, 0, 0))) Color.palette with h | h
    · exact ⟨_, hblack, h⟩
    · exact h
  have hnearest : Color.nearest mix = entry.1 := congrArg Prod.fst hlast
  have hprecedes := (@precedes_foldl_nearer mix
    (measured mix ((false, .black), (0, 0, 0))) Color.palette hsorted (fun _ _ => Nat.zero_le _)).2
  refine ⟨entry.2, ?_, ?_⟩
  · rw [hnearest, ← map_palette]
    exact List.mem_map_of_mem (f := Prod.map shadeNumber id) hentry
  · rw [← map_palette, List.forall_mem_map]
    intro other hother
    have hother := hprecedes other hother
    rw [hlast] at hother
    rw [hnearest, ← squaredDistance_eq_distance, ← squaredDistance_eq_distance, Nat.cast_lt,
      Nat.cast_inj]
    exact hother

end LogLine.Style
