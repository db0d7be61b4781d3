/-!
# Sets of characters

A set of characters is kept as ascending, disjoint spans of code points.
-/

namespace Storyboard
namespace Text

/-- Code points from the first to the last, both included. -/
abbrev Span := Nat × Nat

/-- Whether some span of an ascending list covers a code point. -/
def covered : List Span → Nat → Bool
  | [], _ => false
  | (first, last) :: rest, code =>
      if code < first then false
      else if code ≤ last then true
      else covered rest code

/-- Whether each span is not empty and ends before the next one starts. -/
def ascending : List Span → Bool
  | [] => true
  | [(first, last)] => first ≤ last
  | (first, last) :: (next, finish) :: rest =>
      first ≤ last && last < next && ascending ((next, finish) :: rest)

/-- In an ascending list a code point is covered exactly when one of the spans holds it. -/
theorem covered_iff {spans : List Span} (ordered : ascending spans = true) (code : Nat) :
    covered spans code = true ↔ ∃ span ∈ spans, span.1 ≤ code ∧ code ≤ span.2 := by
  have later : ∀ {spans : List Span} {first last : Nat},
      ascending ((first, last) :: spans) = true → ∀ span ∈ spans, last < span.1 := by
    intro spans
    induction spans with
    | nil => intro first last _ span member; cases member
    | cons head rest ih =>
        intro first last ordered span member
        obtain ⟨next, finish⟩ := head
        simp only [ascending, Bool.and_eq_true, decide_eq_true_eq] at ordered
        cases member with
        | head => exact ordered.1.2
        | tail _ member =>
            have beyond := ih ordered.2 span member
            have nonempty : next ≤ finish := by
              cases rest with
              | nil => simpa [ascending] using ordered.2
              | cons second others =>
                  obtain ⟨a, b⟩ := second
                  have := ordered.2
                  simp only [ascending, Bool.and_eq_true, decide_eq_true_eq] at this
                  exact this.1.1
            omega
  induction spans with
  | nil => simp [covered]
  | cons head rest ih =>
      obtain ⟨first, last⟩ := head
      have beyond := later ordered
      have restOrdered : ascending rest = true := by
        cases rest with
        | nil => rfl
        | cons second others =>
            obtain ⟨a, b⟩ := second
            simp only [ascending, Bool.and_eq_true] at ordered
            exact ordered.2
      have nonempty : first ≤ last := by
        cases rest with
        | nil => simpa [ascending] using ordered
        | cons second others =>
            obtain ⟨a, b⟩ := second
            simp only [ascending, Bool.and_eq_true, decide_eq_true_eq] at ordered
            exact ordered.1.1
      by_cases below : code < first
      · simp only [covered, below, if_true, Bool.false_eq_true, false_iff, not_exists, not_and]
        intro span member low
        cases member with
        | head => omega
        | tail _ member => have := beyond span member; omega
      · by_cases within : code ≤ last
        · simp only [covered, below, within, if_true, if_false, true_iff]
          exact ⟨(first, last), List.mem_cons_self, by omega, within⟩
        · simp only [covered, below, within, if_false, ih restOrdered]
          constructor
          · rintro ⟨span, member, held⟩
            exact ⟨span, List.mem_cons_of_mem _ member, held⟩
          · rintro ⟨span, member, held⟩
            cases member with
            | head => exact absurd held.2 within
            | tail _ member => exact ⟨span, member, held⟩

end Text
end Storyboard
