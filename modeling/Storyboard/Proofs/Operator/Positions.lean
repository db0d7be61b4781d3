import Storyboard.Proofs.Decimal.Whole
import Storyboard.Proofs.Operator.Equality
import Storyboard.Proofs.Text.Position

/-!
# Positions in texts

The operators on texts agree on what a position is: the number of characters in front.  Where one
text is found in another, the part that is cut out at this position, as long as the text that was
sought, is that text, and nothing is lost between the parts in front of it and behind it.
-/

namespace Storyboard
namespace Operator

variable {scope : Scope} {source search : String} {start length : Node} {first count : Int}

/-! ## Parts of a text -/

namespace Words

variable {characters : List Char} {place : Nat}

theorem slice_natCast
    (within : place ≤ characters.length)
    (count : Nat) :
    slice characters place (some count) = (characters.drop place).take count := by
  have inside : ¬((place : Int) < 0 ∨ (characters.length : Int) < place ∨
      (some (count : Int)).getD 0 < 0) := by
    simp only [Option.getD_some]
    omega
  have width : (min ((some (count : Int)).getD (characters.length - place))
      (characters.length - place)).toNat = min count (characters.drop place).length := by
    simp only [Option.getD_some, List.length_drop]
    omega
  unfold slice
  rw [if_neg inside, width, Int.toNat_natCast, ← List.take_eq_take_min]

theorem slice_natCast_none
    (within : place ≤ characters.length) :
    slice characters place none = characters.drop place := by
  have inside : ¬((place : Int) < 0 ∨ (characters.length : Int) < place ∨
      (none : Option Int).getD 0 < 0) := by
    simp only [Option.getD_none]
    omega
  have width : (min ((none : Option Int).getD (characters.length - place))
      (characters.length - place)).toNat = (characters.drop place).length := by
    simp only [Option.getD_none, List.length_drop]
    omega
  unfold slice
  rw [if_neg inside, width, Int.toNat_natCast, List.take_length]

/-- A part of a text stands in the text where it starts. -/
theorem standsAt_of_slice
    {count : Option Int}
    {part : List Char}
    (cut : slice characters place count = part) :
    Text.StandsAt part characters place := by
  unfold slice at cut
  dsimp only at cut
  split at cut
  · rw [← cut]
    exact List.nil_prefix
  · exact Text.standsAt_of_take_drop cut

end Words

/-! ## What the operators answer -/

theorem answer?_indexOf_texts :
    answer? "String.indexOf" scope (.sequence [.string source, .string search]) =
      some (match Text.position? search.toList source.toList with
        | some place => .ofNat place
        | none => .number (Decimal.ofInteger (-1))) := by
  change some (Words.indexOf (.sequence [.string source, .string search])) = _
  cases found : Text.position? search.toList source.toList <;>
    simp only [Words.indexOf, operands, found]

theorem answer?_length :
    answer? "String.length" scope (.string search) = some (.ofNat search.toList.length) := rfl

theorem answer?_substring
    (starts : integer? start = some first)
    (counts : integer? length = some count) :
    answer? "String.substring" scope (.sequence [.string source, start, length]) =
      some (.string (String.ofList (Words.slice source.toList first (some count)))) := by
  change some (Words.substring (.sequence [.string source, start, length])) = _
  simp only [Words.substring, operands, starts, counts]

theorem answer?_substring_tail
    (starts : integer? start = some first) :
    answer? "String.substring" scope (.sequence [.string source, start]) =
      some (.string (String.ofList (Words.slice source.toList first none))) := by
  change some (Words.substring (.sequence [.string source, start])) = _
  simp only [Words.substring, operands, starts]

theorem answer?_concat_three
    (before between behind : String) :
    answer? "String.concat" scope
        (.sequence [.string before, .string between, .string behind]) =
      some (.string (before ++ (between ++ behind))) := by
  change some (Words.concat (.sequence [.string before, .string between, .string behind])) = _
  simp [Words.concat, operands, Node.isNull, Node.display, String.join, String.append_assoc]

/-- A number of characters is told exactly as far as every whole number is a double. -/
theorem integer?_ofNat
    {number : Nat}
    (exact : number ≤ Decimal.exactLimit) :
    integer? (.ofNat number) = some (number : Int) :=
  Decimal.truncate?_of_exactInteger? (Decimal.exactInteger?_ofInteger exact)

/-- Where the part from a position on is a text, the text stands there. -/
theorem standsAt_of_answer?_substring
    (starts : integer? start = some first)
    (inside : 0 ≤ first)
    (cut : answer? "String.substring" scope (.sequence [.string source, start, length]) =
      some (.string search)) :
    Text.StandsAt search.toList source.toList first.toNat := by
  obtain ⟨place, rfl⟩ := Int.eq_ofNat_of_zero_le inside
  cases counts : integer? length with
  | none =>
      change some (Words.substring (.sequence [.string source, start, length])) = _ at cut
      simp [Words.substring, operands, starts, counts] at cut
  | some count =>
      rw [answer?_substring starts counts] at cut
      have part := Node.string.inj (Option.some.inj cut)
      have sliced : Words.slice source.toList (place : Int) (some count) = search.toList := by
        rw [← part, String.toList_ofList]
      exact Words.standsAt_of_slice sliced

/-! ## The place of a text -/

/-- What the operators answer about a text that is found in another, behind a number of characters.
A position counts characters as a number, so it can be used as long as every whole number is one. -/
structure FoundAt
    (scope : Scope)
    (source search : String)
    (length : Node)
    (place : Nat) : Prop where
  /-- The text that is sought lies within the other. -/
  within : place + search.toList.length ≤ source.toList.length
  /-- It is the part that starts at the place. -/
  part : place + search.toList.length ≤ Decimal.exactLimit →
    answer? "String.substring" scope (.sequence [.string source, .ofNat place, length]) =
      some (.string search)
  /-- The parts in front and behind and the text between them make up the whole. -/
  whole : place + search.toList.length ≤ Decimal.exactLimit →
    ∃ before behind : Node,
      answer? "String.substring" scope (.sequence [.string source, .ofNat 0, .ofNat place]) =
        some before ∧
      answer? "String.substring" scope
          (.sequence [.string source, .ofNat (place + search.toList.length)]) = some behind ∧
      answer? "String.concat" scope (.sequence [before, .string search, behind]) =
        some (.string source)
  /-- No part of this length that starts further in front is the text. -/
  first : ∀ (start : Node) (earlier : Int), integer? start = some earlier → 0 ≤ earlier →
    earlier < place →
      answer? "String.substring" scope (.sequence [.string source, start, length]) ≠
        some (.string search)

theorem foundAt_of_position?
    {place : Nat}
    (found : Text.position? search.toList source.toList = some place) :
    FoundAt scope source search (.ofNat search.toList.length) place := by
  obtain ⟨stands, first⟩ := Text.position?_eq_some_iff.mp found
  have within := Text.add_length_le_of_position? found
  refine ⟨within, fun exact => ?_, fun exact => ?_, fun start earlier starts inside before => ?_⟩
  · have starts : integer? (.ofNat place) = some (place : Int) := integer?_ofNat (by omega)
    rw [answer?_substring starts (integer?_ofNat (by omega)), Words.slice_natCast (by omega),
      stands.take_drop, String.ofList_toList]
  · have zero : integer? (.ofNat 0) = some ((0 : Nat) : Int) := integer?_ofNat (Nat.zero_le _)
    refine ⟨_, _, answer?_substring zero (integer?_ofNat (by omega)),
      answer?_substring_tail (integer?_ofNat exact), ?_⟩
    rw [answer?_concat_three, Words.slice_natCast (Nat.zero_le _),
      Words.slice_natCast_none within, List.drop_zero]
    have joined := congrArg String.ofList stands.append_append
    rw [String.ofList_append, String.ofList_append, String.ofList_toList,
      String.ofList_toList] at joined
    rw [joined]
  · intro cut
    have there := standsAt_of_answer?_substring starts inside cut
    exact first earlier.toNat (by omega) there

/--
Whatever two texts are, `String.indexOf` answers with the place where the second is found in the
first, and `String.length`, `String.substring` and `String.concat` go by the same places; or it
answers with -1, and then no part of the first text is the second.
-/
theorem indexOf_finds_part
    (scope : Scope)
    (source search : String) :
    ∃ position length : Node,
      answer? "String.indexOf" scope (.sequence [.string source, .string search]) =
        some position ∧
      answer? "String.length" scope (.string search) = some length ∧
      (position ≠ .number (Decimal.ofInteger (-1)) →
        ∃ place : Nat, position = .ofNat place ∧ FoundAt scope source search length place) ∧
      (position = .number (Decimal.ofInteger (-1)) →
        ∀ (start : Node) (place : Int), integer? start = some place → 0 ≤ place →
          place ≤ source.toList.length →
            answer? "String.substring" scope (.sequence [.string source, start, length]) ≠
              some (.string search)) := by
  refine ⟨_, _, answer?_indexOf_texts, answer?_length, ?_⟩
  cases found : Text.position? search.toList source.toList with
  | some place =>
      refine ⟨fun _ => ⟨place, rfl, foundAt_of_position? found⟩, fun missing => ?_⟩
      have same := Node.number.inj missing
      exact absurd same (Decimal.ofInteger_natCast_ne_ofInteger_neg_one place)
  | none =>
      refine ⟨fun apart => absurd rfl apart, fun _ start place starts inside _ cut => ?_⟩
      have stands := standsAt_of_answer?_substring starts inside cut
      exact Text.position?_eq_none_iff.mp found place.toNat stands

/-- Characters of one, two, three and four bytes count alike. -/
example :
    answer? "String.indexOf" ⟨[], none, []⟩ (.sequence [.string "aé€😀b€😀", .string "€😀"]) =
      some (.ofNat 2) := rfl

end Operator
end Storyboard
