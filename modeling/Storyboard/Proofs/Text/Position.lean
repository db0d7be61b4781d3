import Mathlib.Data.List.Infix
import Mathlib.Data.Nat.Find
import Storyboard.Text.Search

/-!
# The first place of a text in another

A pattern stands at a place of a text if the text goes on with it there.  The search for a pattern
ends at the first such place, and fails only where there is none.
-/

namespace Storyboard
namespace Text

variable {pattern text : List Char} {place : Nat}

/-- A pattern stands at a place of a text, the number of characters in front of it. -/
def StandsAt (pattern text : List Char) (place : Nat) : Prop :=
  pattern <+: text.drop place

instance (pattern text : List Char) (place : Nat) : Decidable (StandsAt pattern text place) :=
  inferInstanceAs (Decidable (_ <+: _))

/-- As much of the text as the pattern is long is the pattern, from its place on. -/
theorem StandsAt.take_drop
    (stands : StandsAt pattern text place) :
    (text.drop place).take pattern.length = pattern :=
  (List.prefix_iff_eq_take.mp stands).symm

/-- What is cut out of a text stands where it was cut out. -/
theorem standsAt_of_take_drop
    {count : Nat}
    (cut : (text.drop place).take count = pattern) :
    StandsAt pattern text place :=
  cut ▸ List.take_prefix count (text.drop place)

/-- A text is what is in front of a pattern, the pattern, and what is behind it. -/
theorem StandsAt.append_append
    (stands : StandsAt pattern text place) :
    text.take place ++ (pattern ++ text.drop (place + pattern.length)) = text := by
  have behind : pattern ++ (text.drop place).drop pattern.length = text.drop place :=
    List.prefix_append_drop stands |>.symm
  rw [← List.drop_drop, behind, List.take_append_drop]

/-- The search for a pattern ends at the first place where it stands, by induction on the text. -/
theorem position?_eq_some_iff :
    position? pattern text = some place ↔
      StandsAt pattern text place ∧ ∀ earlier < place, ¬ StandsAt pattern text earlier := by
  induction text generalizing place with
  | nil =>
      unfold position? StandsAt
      by_cases empty : pattern = []
      · rw [if_pos empty, Option.some_inj]
        constructor
        · rintro rfl
          exact ⟨by simp [empty], by simp⟩
        · rintro ⟨-, first⟩
          by_contra later
          exact first 0 (Nat.pos_of_ne_zero fun zero => later zero.symm) (by simp [empty])
      · simp [empty]
  | cons c text inductionHypothesis =>
      have atOnce : pattern.isPrefixOf (c :: text) = true ↔ StandsAt pattern (c :: text) 0 :=
        List.isPrefixOf_iff_prefix
      rw [position?]
      by_cases stands : StandsAt pattern (c :: text) 0
      · rw [if_pos (atOnce.mpr stands), Option.some_inj]
        constructor
        · rintro rfl
          exact ⟨stands, by simp⟩
        · rintro ⟨-, first⟩
          by_contra later
          exact first 0 (Nat.pos_of_ne_zero fun zero => later zero.symm) stands
      · rw [if_neg (mt atOnce.mp stands), Option.map_eq_some_iff]
        constructor
        · rintro ⟨before, found, rfl⟩
          obtain ⟨there, first⟩ := inductionHypothesis.mp found
          refine ⟨there, fun earlier isEarlier => ?_⟩
          cases earlier with
          | zero => exact stands
          | succ earlier => exact first earlier (Nat.lt_of_succ_lt_succ isEarlier)
        · rintro ⟨there, first⟩
          cases place with
          | zero => exact absurd there stands
          | succ place =>
              refine ⟨place, inductionHypothesis.mpr ⟨there, fun earlier isEarlier => ?_⟩, rfl⟩
              exact first (earlier + 1) (Nat.succ_lt_succ isEarlier)

/-- The search fails exactly if the pattern stands nowhere. -/
theorem position?_eq_none_iff :
    position? pattern text = none ↔ ∀ place, ¬ StandsAt pattern text place := by
  constructor
  · intro missing place stands
    have found := position?_eq_some_iff.mpr
      ⟨Nat.find_spec ⟨place, stands⟩, fun _ isEarlier => Nat.find_min ⟨place, stands⟩ isEarlier⟩
    rw [missing] at found
    cases found
  · intro nowhere
    cases found : position? pattern text with
    | none => rfl
    | some place => exact absurd (position?_eq_some_iff.mp found).1 (nowhere place)

/-- A pattern that is found lies within the text. -/
theorem add_length_le_of_position?
    (found : position? pattern text = some place) :
    place + pattern.length ≤ text.length := by
  obtain ⟨stands, first⟩ := position?_eq_some_iff.mp found
  have fits : pattern.length ≤ text.length - place := by
    simpa using stands.length_le
  rcases Nat.le_total place text.length with within | beyond
  · omega
  · -- only the empty pattern stands at the end, and it is found at once
    have empty : pattern = [] := List.length_eq_zero_iff.mp (by omega)
    have atOnce : place = 0 := by
      by_contra later
      exact first 0 (Nat.pos_of_ne_zero later) (by simp [StandsAt, empty])
    rw [atOnce, empty]
    exact Nat.zero_le _

end Text
end Storyboard
