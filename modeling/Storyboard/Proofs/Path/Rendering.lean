import Storyboard.Proofs.Json.Numbers
import Storyboard.Proofs.Path.Grammar

/-!
# Paths written back

A path has one canonical text: its base as it is, every later key after a dot, a position in
decimal digits between brackets, and a key between brackets in double quotes.  The paths that
can be parsed are those whose parts can be written so, and the canonical text of such a path
is parsed as that path again.  So texts are parsed alike exactly when the canonical texts of
what they are parsed as are the same.
-/

namespace Storyboard
namespace Component

/-- A component behind the base, as it is written canonically. -/
def written : Component → List Char
  | .key name => '.' :: name.toList
  | .index position => '[' :: (Decimal.natChars position ++ [']'])
  | .dynamic name => '[' :: ('"' :: (name.toList ++ ['"']) ++ [']'])

/-- A component that can be written: keys with characters that do not belong to the grammar,
positions of 64 bits, and keys between brackets that do not close the bracket. -/
def Writable : Component → Prop
  | .key name => Path.IsKey name.toList
  | .index position => position < 2 ^ 64
  | .dynamic name => ']' ∉ name.toList

end Component

namespace Path

/-- The canonical text of a path. -/
def render : Path → String
  | .key base :: rest => String.ofList (base.toList ++ rest.flatMap Component.written)
  | path => String.ofList (path.flatMap Component.written)

/-- A path that can be written: a base, and components that can all be written. -/
structure Writable (path : Path) : Prop where
  /-- The path starts with a key. -/
  base : ∃ name rest, path = .key name :: rest
  /-- Every component can be written. -/
  each : ∀ component ∈ path, component.Writable

/-! ## Decimal digits between brackets -/

theorem decimalValue_natChars (n : Nat) : decimalValue (Decimal.natChars n) = n := by
  have read : Nat.ofDigitChars 10 (Decimal.natChars n) 0 = n := Nat.ofDigitChars_ten_toDigits
  simp only [Nat.ofDigitChars, Nat.mul_comm 10] at read
  rw [← ofDigits_eq_decimalValue]
  exact read

/-- A position is written with digits that spell it. -/
theorem isPosition_natChars
    {n : Nat}
    (fits : n < 2 ^ 64) :
    IsPosition (Decimal.natChars n) := by
  refine ⟨fun c member => ?_, by rwa [decimalValue_natChars]⟩
  rw [← isDigit_eq]
  exact Json.isDigit_of_mem_natChars member

/-- No digit closes a bracket. -/
theorem closing_not_mem_natChars (n : Nat) : ']' ∉ Decimal.natChars n := by
  intro member
  exact absurd (Json.isDigit_of_mem_natChars member) (by decide)

/-! ## The spelling of a path -/

/-- What can be written is a segment that is read as it was. -/
theorem exists_segment_of_writable
    {component : Component}
    (writable : component.Writable) :
    ∃ segment : Segment, segment.text = component.written ∧ segment.component = component := by
  cases component with
  | key name =>
      refine ⟨.dot name.toList writable, rfl, ?_⟩
      exact congrArg Component.key String.ofList_toList
  | index position =>
      refine ⟨.bracket (Decimal.natChars position) Nat.toDigits_ne_nil
        (closing_not_mem_natChars position), rfl, ?_⟩
      have read := bracketComponent_of_isPosition (isPosition_natChars writable)
      rwa [decimalValue_natChars] at read
  | dynamic name =>
      have inside : ']' ∉ name.toList := writable
      have closed : ']' ∉ '"' :: (name.toList ++ ['"']) := by
        simpa using inside
      have quoted := (Stands.doubleQuoted name.toList).eq_bracketComponent
      rw [String.ofList_toList] at quoted
      exact ⟨.bracket ('"' :: (name.toList ++ ['"'])) (List.cons_ne_nil _ _) closed, rfl,
        quoted.symm⟩

theorem exists_segments_of_writable
    {components : List Component}
    (writable : ∀ component ∈ components, component.Writable) :
    ∃ segments : List Segment,
      segments.flatMap Segment.text = components.flatMap Component.written ∧
        segments.map Segment.component = components := by
  induction components with
  | nil => exact ⟨[], rfl, rfl⟩
  | cons component rest inductionHypothesis =>
      obtain ⟨segment, text, same⟩ :=
        exists_segment_of_writable (writable component List.mem_cons_self)
      obtain ⟨segments, texts, others⟩ := inductionHypothesis
        fun other member => writable other (List.mem_cons_of_mem component member)
      refine ⟨segment :: segments, ?_, ?_⟩
      · rw [List.flatMap_cons, List.flatMap_cons, text, texts]
      · rw [List.map_cons, same, others]

/-- The canonical text of a path that can be written is parsed as that path. -/
theorem parse_render_of_writable
    {path : Path}
    (writable : path.Writable) :
    parse path.render = .ok path := by
  obtain ⟨⟨name, rest, rfl⟩, each⟩ := writable
  have isKey : IsKey name.toList := each (.key name) List.mem_cons_self
  obtain ⟨segments, texts, others⟩ := exists_segments_of_writable
    fun component member => each component (List.mem_cons_of_mem _ member)
  let spelling : Spelling := ⟨name.toList, isKey, segments⟩
  have components : spelling.components = .key name :: rest := by
    rw [Spelling.components, String.ofList_toList, others]
  rw [← components]
  refine parse_of_text_eq ?_
  rw [components, render, String.toList_ofList, Spelling.text, texts]

/-! ## Everything that is parsed can be written -/

/-- What is read from a segment can be written. -/
theorem writable_component (segment : Segment) : segment.component.Writable := by
  cases segment with
  | dot key isKey =>
      change IsKey (String.ofList key).toList
      rwa [String.toList_ofList]
  | bracket inner nonempty closed =>
      have stands := stands_bracketComponent inner
      rw [Segment.component]
      generalize bracketComponent inner = component at stands ⊢
      cases stands with
      | position isPosition => exact isPosition.2
      | doubleQuoted key | singleQuoted key =>
          simpa [Component.Writable] using closed
      | bare => simpa [Component.Writable] using closed

/-- The paths that some text is parsed as are those that can be written. -/
theorem exists_parse_eq_iff_writable (path : Path) :
    (∃ text, parse text = .ok path) ↔ path.Writable := by
  constructor
  · rintro ⟨text, parsed⟩
    obtain ⟨spelling, written⟩ := exists_spelling_of_parse parsed
    rw [parse_of_text_eq written] at parsed
    cases parsed
    refine ⟨⟨_, _, rfl⟩, fun component member => ?_⟩
    rcases List.mem_cons.mp member with rfl | later
    · change IsKey (String.ofList spelling.base).toList
      rw [String.toList_ofList]
      exact spelling.isKey
    · obtain ⟨segment, -, rfl⟩ := List.mem_map.mp later
      exact writable_component segment
  · exact fun writable => ⟨path.render, parse_render_of_writable writable⟩

/--
The canonical text of what a text is parsed as is parsed as the same, and the paths that can be
written are those that their canonical text is parsed as.  So two texts are parsed alike exactly
when the canonical texts of their paths are equal.
-/
theorem render_canonical :
    (∀ text path, parse text = .ok path → parse path.render = .ok path) ∧
    (∀ path : Path, path.Writable ↔ parse path.render = .ok path) ∧
    (∀ text other path others, parse text = .ok path → parse other = .ok others →
      (path = others ↔ path.render = others.render)) := by
  have again : ∀ text path, parse text = .ok path → parse path.render = .ok path := by
    intro text path parsed
    exact parse_render_of_writable ((exists_parse_eq_iff_writable path).mp ⟨text, parsed⟩)
  refine ⟨again, fun path => ⟨parse_render_of_writable, fun parsed => ?_⟩, ?_⟩
  · exact (exists_parse_eq_iff_writable path).mp ⟨path.render, parsed⟩
  intro text other path others parsed parsedOther
  refine ⟨fun same => congrArg render same, fun same => ?_⟩
  have first := again text path parsed
  have second := again other others parsedOther
  rw [same, second] at first
  exact (Except.ok.inj first).symm

/-- A lone quote, an empty key, digits in quotes and an open bracket are keys that are written back
in double quotes, and zeros in front of a position are left out. -/
theorem render_canonical_of_quotes :
    let text := "a[\"][\"\"][\x2712\x27][x.[][007]"
    let path : Path :=
      [.key "a", .dynamic "\"", .dynamic "", .dynamic "12", .dynamic "x.[", .index 7]
    let other := "a[12]"
    let others : Path := [.key "a", .index 12]
    parse text = .ok path ∧ parse path.render = .ok path ∧
      path.render = "a[\"\"\"][\"\"][\"12\"][\"x.[\"][7]" ∧
      others.Writable ∧ parse others.render = .ok others ∧
      parse other = .ok others ∧ (path = others ↔ path.render = others.render) := by
  intro text path other others
  have parsed : parse text = .ok path := by decide +kernel
  have parsedOther : parse other = .ok others := by decide +kernel
  have writable : others.Writable := by
    refine ⟨⟨_, _, rfl⟩, ?_⟩
    simp [others, Component.Writable, IsKey]
  exact ⟨parsed, render_canonical.1 text path parsed, by decide +kernel, writable,
    (render_canonical.2.1 others).mp writable, parsedOther,
    render_canonical.2.2 text other path others parsed parsedOther⟩

end Path
end Storyboard
