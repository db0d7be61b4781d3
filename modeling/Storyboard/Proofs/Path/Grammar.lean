import Mathlib.Data.List.Forall2
import Mathlib.Data.Nat.Digits.Defs
import Storyboard.Path.Parser

/-!
# The grammar of written paths

A written path is a base and then any number of segments, each a dot with a key or a
pair of brackets with a text inside.  Parsing succeeds exactly on the written paths,
every written path is spelled in one way only, and the components are those that the
parts of its spelling denote.
-/

namespace Storyboard
namespace Path

/-- A base or a key after a dot: one character or more, none of which belongs to the grammar. -/
def IsKey (key : List Char) : Prop :=
  key ≠ [] ∧ ∀ c ∈ key, c ≠ '.' ∧ c ≠ '[' ∧ c ≠ ']'

/-- A part of a written path after its base. -/
inductive Segment where
  /-- A key after a dot. -/
  | dot (key : List Char) (isKey : IsKey key)
  /-- A text between brackets. -/
  | bracket (inner : List Char) (nonempty : inner ≠ []) (closed : ']' ∉ inner)

/-- A written path, taken apart. -/
structure Spelling where
  /-- The variable. -/
  base : List Char
  /-- The base is a key. -/
  isKey : IsKey base
  /-- What follows the base. -/
  segments : List Segment

/-- The number that decimal digits spell, the first digit being the most significant. -/
def decimalValue (digits : List Char) : Nat :=
  Nat.ofDigits 10 (digits.reverse.map fun c => c.toNat - '0'.toNat)

/-- The text between brackets is a position: digits that spell a number of 64 bits. -/
def IsPosition (inner : List Char) : Prop :=
  (∀ c ∈ inner, c.isDigit = true) ∧ decimalValue inner < 2 ^ 64

/-- What a text between brackets denotes: a position or a key, whose quotes do not count. -/
inductive Stands : List Char → Component → Prop where
  /-- Digits denote a position. -/
  | position {inner : List Char} (isPosition : IsPosition inner) :
      Stands inner (.index (decimalValue inner))
  /-- Double quotes around a key are left out. -/
  | doubleQuoted (key : List Char) :
      Stands ('"' :: (key ++ ['"'])) (.dynamic (String.ofList key))
  /-- Single quotes around a key are left out. -/
  | singleQuoted (key : List Char) :
      Stands ('\x27' :: (key ++ ['\x27'])) (.dynamic (String.ofList key))
  /-- Any other text denotes itself. -/
  | bare {inner : List Char}
      (noPosition : ¬ IsPosition inner)
      (unquoted : ∀ key, inner ≠ '"' :: (key ++ ['"']) ∧ inner ≠ '\x27' :: (key ++ ['\x27'])) :
      Stands inner (.dynamic (String.ofList inner))

namespace Segment

/-- A segment as it is written. -/
def text : Segment → List Char
  | .dot key _ => '.' :: key
  | .bracket inner _ _ => '[' :: (inner ++ [']'])

/-- What a segment denotes. -/
def Denotes : Segment → Component → Prop
  | .dot key _, component => component = .key (String.ofList key)
  | .bracket inner _ _, component => Stands inner component

/-- The component that is read from a segment. -/
def component : Segment → Component
  | .dot key _ => .key (String.ofList key)
  | .bracket inner _ _ => bracketComponent inner

end Segment

namespace Spelling

/-- A spelling as it is written. -/
def text (spelling : Spelling) : List Char :=
  spelling.base ++ spelling.segments.flatMap Segment.text

/-- What a spelling denotes: its base as a key, and then a component for each segment. -/
def Denotes (spelling : Spelling) (path : Path) : Prop :=
  ∃ rest, path = .key (String.ofList spelling.base) :: rest ∧
    List.Forall₂ Segment.Denotes spelling.segments rest

/-- The components that are read from a spelling. -/
def components (spelling : Spelling) : Path :=
  .key (String.ofList spelling.base) :: spelling.segments.map Segment.component

end Spelling

/-! ## What stands between brackets -/

theorem ofDigits_eq_decimalValue (digits : List Char) :
    Json.ofDigits digits = decimalValue digits := by
  unfold Json.ofDigits decimalValue
  rw [Nat.ofDigits_eq_foldr, ← List.foldl_reverse, ← List.map_reverse, List.reverse_reverse,
    List.foldl_map]
  congr 1
  funext value c
  simp only [Nat.cast_id]
  omega

theorem isDigit_eq (c : Char) : Json.isDigit c = c.isDigit := by
  unfold Json.isDigit Char.isDigit
  rfl

/-- Two equal quotes are found exactly where a text stands between them. -/
theorem unquoted?_eq_some_iff
    (quote : Char)
    (inner key : List Char) :
    unquoted? quote inner = some key ↔ inner = quote :: (key ++ [quote]) := by
  cases inner with
  | nil => simp [unquoted?]
  | cons first rest =>
      simp only [unquoted?]
      constructor
      · intro found
        split at found
        · next quotes =>
            obtain ⟨same, last⟩ := quotes
            obtain rfl : rest.dropLast = key := by simpa using found
            rw [same, List.dropLast_append_getLast? quote last]
        · cases found
      · intro equal
        injection equal with same whole
        subst same
        subst whole
        simp

theorem isPosition_iff (inner : List Char) :
    (inner.all Json.isDigit = true ∧ Json.ofDigits inner < positionBound) ↔
      IsPosition inner := by
  simp only [IsPosition, List.all_eq_true, isDigit_eq, ofDigits_eq_decimalValue]
  rfl

/-- A text that starts with a character other than a digit is no position. -/
theorem not_isPosition_cons
    {c : Char}
    (noDigit : c.isDigit = false)
    (rest : List Char) :
    ¬ IsPosition (c :: rest) := by
  intro isPosition
  have digit := isPosition.1 c List.mem_cons_self
  rw [noDigit] at digit
  cases digit

theorem bracketComponent_of_isPosition
    {inner : List Char}
    (isPosition : IsPosition inner) :
    bracketComponent inner = .index (decimalValue inner) := by
  rw [bracketComponent, if_pos ((isPosition_iff inner).mpr isPosition), ofDigits_eq_decimalValue]

theorem bracketComponent_of_not_isPosition
    {inner : List Char}
    (noPosition : ¬ IsPosition inner) :
    bracketComponent inner =
      .dynamic (String.ofList
        (((unquoted? '"' inner).or (unquoted? '\x27' inner)).getD inner)) := by
  rw [bracketComponent, if_neg fun isPosition => noPosition ((isPosition_iff inner).mp isPosition)]

/-- A text between brackets denotes the component that is read from it. -/
theorem stands_bracketComponent (inner : List Char) : Stands inner (bracketComponent inner) := by
  by_cases isPosition : IsPosition inner
  · rw [bracketComponent_of_isPosition isPosition]
    exact .position isPosition
  rw [bracketComponent_of_not_isPosition isPosition]
  cases double : unquoted? '"' inner with
  | some key =>
      obtain rfl := (unquoted?_eq_some_iff '"' inner key).mp double
      exact .doubleQuoted key
  | none =>
      cases single : unquoted? '\x27' inner with
      | some key =>
          obtain rfl := (unquoted?_eq_some_iff '\x27' inner key).mp single
          exact .singleQuoted key
      | none =>
          refine .bare isPosition fun key => ⟨fun quoted => ?_, fun quoted => ?_⟩
          · rw [(unquoted?_eq_some_iff '"' inner key).mpr quoted] at double
            cases double
          · rw [(unquoted?_eq_some_iff '\x27' inner key).mpr quoted] at single
            cases single

/-- A text between brackets denotes nothing but the component that is read from it. -/
theorem Stands.eq_bracketComponent
    {inner : List Char}
    {component : Component}
    (stands : Stands inner component) :
    component = bracketComponent inner := by
  cases stands with
  | position isPosition => rw [bracketComponent_of_isPosition isPosition]
  | doubleQuoted key =>
      rw [bracketComponent_of_not_isPosition (not_isPosition_cons rfl _),
        (unquoted?_eq_some_iff '"' _ key).mpr rfl]
      rfl
  | singleQuoted key =>
      rw [bracketComponent_of_not_isPosition (not_isPosition_cons rfl _),
        (unquoted?_eq_some_iff '\x27' _ key).mpr rfl]
      rfl
  | bare noPosition unquoted =>
      have noDouble : unquoted? '"' inner = none := by
        by_contra found
        obtain ⟨key, quoted⟩ := Option.ne_none_iff_exists'.mp found
        exact (unquoted key).1 ((unquoted?_eq_some_iff '"' inner key).mp quoted)
      have noSingle : unquoted? '\x27' inner = none := by
        by_contra found
        obtain ⟨key, quoted⟩ := Option.ne_none_iff_exists'.mp found
        exact (unquoted key).2 ((unquoted?_eq_some_iff '\x27' inner key).mp quoted)
      rw [bracketComponent_of_not_isPosition noPosition, noDouble, noSingle]
      rfl

/-! ## Reading what is written -/

/-- The text is empty or goes on with a segment. -/
def AtSegment (text : List Char) : Prop :=
  ∀ c ∈ text.head?, c = '.' ∨ c = '['

theorem atSegment_flatMap (segments : List Segment) :
    AtSegment (segments.flatMap Segment.text) := by
  intro c starts
  cases segments with
  | nil => cases starts
  | cons segment rest =>
      cases segment with
      | dot key isKey =>
          left
          simpa [Segment.text] using starts.symm
      | bracket inner nonempty closed =>
          right
          simpa [Segment.text] using starts.symm

/-- The characters of a key are taken one after another. -/
theorem readKey_append
    (path : String)
    (start : Nat)
    (taken : List Char)
    (offset : Nat)
    {key : List Char}
    (plain : ∀ c ∈ key, c ≠ '.' ∧ c ≠ '[' ∧ c ≠ ']')
    (text : List Char) :
    ∃ after, readKey path start taken offset (key ++ text) =
      readKey path start (key.reverse ++ taken) after text := by
  induction key generalizing taken offset with
  | nil => exact ⟨offset, rfl⟩
  | cons c key inductionHypothesis =>
      obtain ⟨noDot, noOpening, noClosing⟩ := plain c List.mem_cons_self
      obtain ⟨after, same⟩ := inductionHypothesis (c :: taken) (offset + c.utf8Size)
        fun other member => plain other (List.mem_cons_of_mem c member)
      refine ⟨after, ?_⟩
      rw [List.cons_append, readKey, if_neg noClosing, if_neg noDot, if_neg noOpening, same,
        List.reverse_cons, List.append_assoc, List.singleton_append]

/-- The characters between brackets are taken one after another. -/
theorem readBracket_append
    (path : String)
    (start : Nat)
    (taken : List Char)
    (offset : Nat)
    {inner : List Char}
    (closed : ']' ∉ inner)
    (text : List Char) :
    ∃ after, readBracket path start taken offset (inner ++ text) =
      readBracket path start (inner.reverse ++ taken) after text := by
  induction inner generalizing taken offset with
  | nil => exact ⟨offset, rfl⟩
  | cons c inner inductionHypothesis =>
      have noClosing : c ≠ ']' := fun same => closed (same ▸ List.mem_cons_self)
      obtain ⟨after, same⟩ := inductionHypothesis (c :: taken) (offset + c.utf8Size)
        fun member => closed (List.mem_cons_of_mem c member)
      refine ⟨after, ?_⟩
      rw [List.cons_append, readBracket, if_neg noClosing, same, List.reverse_cons,
        List.append_assoc, List.singleton_append]

/-- Where a segment begins, a key ends. -/
theorem readKey_of_atSegment
    (path : String)
    (start : Nat)
    {taken : List Char}
    (begun : taken ≠ [])
    (offset : Nat)
    {text : List Char}
    (boundary : AtSegment text) :
    readKey path start taken offset text =
      prepend (.key (String.ofList taken.reverse)) (readSegment path offset text) := by
  cases text with
  | nil =>
      rw [readKey, if_neg begun, readSegment]
      rfl
  | cons c text =>
      rcases boundary c rfl with rfl | rfl
      · rw [readKey, if_neg (by decide), if_pos rfl, if_neg begun, readSegment, if_pos rfl]
      · rw [readKey, if_neg (by decide), if_neg (by decide), if_pos rfl, if_neg begun,
          readSegment, if_neg (by decide), if_pos rfl]

/-- A key is read up to where a segment begins. -/
theorem exists_readKey_eq
    (path : String)
    (start offset : Nat)
    {key : List Char}
    (isKey : IsKey key)
    {text : List Char}
    (boundary : AtSegment text) :
    ∃ after, readKey path start [] offset (key ++ text) =
      prepend (.key (String.ofList key)) (readSegment path after text) := by
  obtain ⟨after, same⟩ := readKey_append path start [] offset isKey.2 text
  refine ⟨after, ?_⟩
  rw [same, List.append_nil,
    readKey_of_atSegment path start (by simpa using isKey.1) after boundary,
    List.reverse_reverse]

/-- A text between brackets is read up to the first closing one. -/
theorem exists_readBracket_eq
    (path : String)
    (start offset : Nat)
    {inner : List Char}
    (nonempty : inner ≠ [])
    (closed : ']' ∉ inner)
    (text : List Char) :
    ∃ after, readBracket path start [] offset (inner ++ ']' :: text) =
      prepend (bracketComponent inner) (readSegment path after text) := by
  obtain ⟨after, same⟩ := readBracket_append path start [] offset closed (']' :: text)
  refine ⟨after + 1, ?_⟩
  rw [same, List.append_nil, readBracket, if_pos rfl, if_neg (by simpa using nonempty),
    List.reverse_reverse]

/-- Segments are read as their components. -/
theorem readSegment_flatMap
    (path : String)
    (offset : Nat)
    (segments : List Segment) :
    readSegment path offset (segments.flatMap Segment.text) =
      .ok (segments.map Segment.component) := by
  induction segments generalizing offset with
  | nil => rw [List.flatMap_nil, readSegment, List.map_nil]
  | cons segment segments inductionHypothesis =>
      rw [List.flatMap_cons, List.map_cons]
      cases segment with
      | dot key isKey =>
          obtain ⟨after, same⟩ := exists_readKey_eq path offset (offset + 1) isKey
            (atSegment_flatMap segments)
          rw [Segment.text, List.cons_append, readSegment, if_pos rfl, same,
            inductionHypothesis after]
          rfl
      | bracket inner nonempty closed =>
          obtain ⟨after, same⟩ := exists_readBracket_eq path offset (offset + 1) nonempty closed
            (segments.flatMap Segment.text)
          rw [Segment.text, List.cons_append, List.append_assoc, List.singleton_append,
            readSegment, if_neg (by decide), if_pos rfl, same, inductionHypothesis after]
          rfl

/-- A written path is read as the components of its parts. -/
theorem parse_of_text_eq
    {path : String}
    {spelling : Spelling}
    (written : spelling.text = path.toList) :
    parse path = .ok spelling.components := by
  obtain ⟨after, same⟩ := exists_readKey_eq path 0 0 spelling.isKey
    (atSegment_flatMap spelling.segments)
  have nonempty : spelling.base ++ spelling.segments.flatMap Segment.text ≠ [] :=
    List.append_ne_nil_of_left_ne_nil spelling.isKey.1 _
  rw [parse, ← written, Spelling.text, if_neg nonempty, same, readSegment_flatMap]
  rfl

/-! ## Taking apart what is read -/

theorem exists_of_prepend_eq_ok
    {component : Component}
    {result : Except PathError Path}
    {components : Path}
    (read : prepend component result = .ok components) :
    ∃ rest, result = .ok rest := by
  cases result with
  | ok rest => exact ⟨rest, rfl⟩
  | error error => cases read

/-- The text goes on with the rest of a key, and then with segments. -/
def KeyText (taken text : List Char) : Prop :=
  ∃ key segments, IsKey (taken.reverse ++ key) ∧ text = key ++ List.flatMap Segment.text segments

/-- The text goes on with the rest of what stands between brackets, and then with segments. -/
def BracketText (taken text : List Char) : Prop :=
  ∃ inner segments, taken.reverse ++ inner ≠ [] ∧ ']' ∉ taken.reverse ++ inner ∧
    text = inner ++ ']' :: List.flatMap Segment.text segments

/-- The text goes on with segments. -/
def SegmentText (text : List Char) : Prop :=
  ∃ segments, text = List.flatMap Segment.text segments

/-- A dot in front of a key makes a segment. -/
theorem KeyText.segmentText
    {text : List Char}
    (goesOn : KeyText [] text) :
    SegmentText ('.' :: text) := by
  obtain ⟨key, segments, isKey, rfl⟩ := goesOn
  exact ⟨.dot key isKey :: segments, rfl⟩

/-- A bracket in front of a text that closes it makes a segment. -/
theorem BracketText.segmentText
    {text : List Char}
    (goesOn : BracketText [] text) :
    SegmentText ('[' :: text) := by
  obtain ⟨inner, segments, nonempty, closed, rfl⟩ := goesOn
  refine ⟨.bracket (List.reverse [] ++ inner) nonempty closed :: segments, ?_⟩
  simp [Segment.text]

/-- A key may end where segments begin. -/
theorem SegmentText.keyText
    {taken text : List Char}
    (goesOn : SegmentText text)
    (begun : taken ≠ [])
    (plain : ∀ c ∈ taken, c ≠ '.' ∧ c ≠ '[' ∧ c ≠ ']') :
    KeyText taken text := by
  obtain ⟨segments, rfl⟩ := goesOn
  refine ⟨[], segments, ⟨by simpa using begun, fun c member => plain c ?_⟩, rfl⟩
  simpa using member

mutual

/-- What is read as a key and segments is written as a key and segments. -/
theorem keyText_of_readKey
    {path : String}
    {start : Nat}
    {taken : List Char}
    {offset : Nat}
    {components : Path}
    (plain : ∀ c ∈ taken, c ≠ '.' ∧ c ≠ '[' ∧ c ≠ ']') :
    ∀ {text : List Char}, readKey path start taken offset text = .ok components →
      KeyText taken text
  | [], read => by
      rw [readKey] at read
      split at read
      · cases read
      · next begun => exact SegmentText.keyText ⟨[], rfl⟩ begun plain
  | c :: text, read => by
      rw [readKey] at read
      split at read
      · cases read
      split at read
      · next dot =>
          split at read
          · cases read
          · next begun =>
              obtain ⟨rest, readRest⟩ := exists_of_prepend_eq_ok read
              have goesOn : KeyText [] text := keyText_of_readKey (by simp) readRest
              exact dot ▸ goesOn.segmentText.keyText begun plain
      split at read
      · next opening =>
          split at read
          · cases read
          · next begun =>
              obtain ⟨rest, readRest⟩ := exists_of_prepend_eq_ok read
              have goesOn : BracketText [] text := bracketText_of_readBracket (by simp) readRest
              exact opening ▸ goesOn.segmentText.keyText begun plain
      · next noClosing noDot noOpening =>
          have plainAfter : ∀ other ∈ c :: taken, other ≠ '.' ∧ other ≠ '[' ∧ other ≠ ']' := by
            intro other member
            rcases List.mem_cons.mp member with rfl | inTaken
            · exact ⟨noDot, noOpening, noClosing⟩
            · exact plain other inTaken
          obtain ⟨key, segments, isKey, rfl⟩ := keyText_of_readKey plainAfter read
          exact ⟨c :: key, segments, by simpa using isKey, rfl⟩

/-- What is read as the rest of a bracket and segments is written so. -/
theorem bracketText_of_readBracket
    {path : String}
    {start : Nat}
    {taken : List Char}
    {offset : Nat}
    {components : Path}
    (closed : ']' ∉ taken) :
    ∀ {text : List Char}, readBracket path start taken offset text = .ok components →
      BracketText taken text
  | [], read => by
      rw [readBracket] at read
      cases read
  | c :: text, read => by
      rw [readBracket] at read
      split at read
      · next closing =>
          split at read
          · cases read
          · next begun =>
              obtain ⟨rest, readRest⟩ := exists_of_prepend_eq_ok read
              obtain ⟨segments, rfl⟩ := segmentText_of_readSegment readRest
              exact ⟨[], segments, by simpa using begun, by simpa using closed,
                by rw [closing, List.nil_append]⟩
      · next noClosing =>
          have closedAfter : ']' ∉ c :: taken := by
            intro member
            rcases List.mem_cons.mp member with same | inTaken
            · exact noClosing same.symm
            · exact closed inTaken
          obtain ⟨inner, segments, nonempty, closedInner, rfl⟩ :=
            bracketText_of_readBracket closedAfter read
          exact ⟨c :: inner, segments, by simp, by simpa using closedInner, rfl⟩

/-- What is read as segments is written as segments. -/
theorem segmentText_of_readSegment
    {path : String}
    {offset : Nat}
    {components : Path} :
    ∀ {text : List Char}, readSegment path offset text = .ok components → SegmentText text
  | [], _ => ⟨[], rfl⟩
  | c :: text, read => by
      rw [readSegment] at read
      split at read
      · next dot =>
          have goesOn : KeyText [] text := keyText_of_readKey (by simp) read
          exact dot ▸ goesOn.segmentText
      split at read
      · next opening =>
          have goesOn : BracketText [] text := bracketText_of_readBracket (by simp) read
          exact opening ▸ goesOn.segmentText
      · cases read

end

/-- What is parsed is a written path. -/
theorem exists_spelling_of_parse
    {path : String}
    {components : Path}
    (parsed : parse path = .ok components) :
    ∃ spelling : Spelling, spelling.text = path.toList := by
  unfold parse at parsed
  split at parsed
  · cases parsed
  · obtain ⟨base, segments, isKey, same⟩ := keyText_of_readKey (by simp) parsed
    exact ⟨⟨base, isKey, segments⟩, same.symm⟩

/-! ## One spelling -/

/-- Two ways to split a text agree, if both take a longest front of one kind. -/
theorem append_inj_of_front
    (kind : Char → Prop)
    {front other rest after : List Char}
    (all : ∀ c ∈ front, kind c)
    (all' : ∀ c ∈ other, kind c)
    (ends : ∀ c ∈ rest.head?, ¬ kind c)
    (ends' : ∀ c ∈ after.head?, ¬ kind c)
    (same : front ++ rest = other ++ after) :
    front = other ∧ rest = after := by
  induction front generalizing other with
  | nil =>
      cases other with
      | nil => exact ⟨rfl, same⟩
      | cons c other =>
          have starts : rest = c :: (other ++ after) := same
          exact absurd (all' c List.mem_cons_self) (ends c (by rw [starts]; rfl))
  | cons c front inductionHypothesis =>
      cases other with
      | nil =>
          have starts : c :: (front ++ rest) = after := same
          exact absurd (all c List.mem_cons_self) (ends' c (by rw [← starts]; rfl))
      | cons d other =>
          injection same with first others
          obtain ⟨fronts, rests⟩ := inductionHypothesis
            (fun c member => all c (List.mem_cons_of_mem _ member))
            (fun c member => all' c (List.mem_cons_of_mem _ member)) others
          exact ⟨by rw [first, fronts], rests⟩

/-- A key and what follows it are told apart by the text. -/
theorem IsKey.append_inj
    {key other rest after : List Char}
    (isKey : IsKey key)
    (isKey' : IsKey other)
    (boundary : AtSegment rest)
    (boundary' : AtSegment after)
    (same : key ++ rest = other ++ after) :
    key = other ∧ rest = after := by
  have ends : ∀ {text : List Char}, AtSegment text →
      ∀ c ∈ text.head?, ¬ (c ≠ '.' ∧ c ≠ '[' ∧ c ≠ ']') := by
    intro text boundary c starts plain
    rcases boundary c starts with dot | opening
    · exact plain.1 dot
    · exact plain.2.1 opening
  exact append_inj_of_front _ isKey.2 isKey'.2 (ends boundary) (ends boundary') same

/-- Segments are told apart by their text. -/
theorem flatMap_text_injective
    {segments others : List Segment}
    (same : segments.flatMap Segment.text = others.flatMap Segment.text) :
    segments = others := by
  induction segments generalizing others with
  | nil =>
      cases others with
      | nil => rfl
      | cons segment others => cases segment <;> simp [Segment.text] at same
  | cons segment segments inductionHypothesis =>
      cases others with
      | nil => cases segment <;> simp [Segment.text] at same
      | cons other others =>
          rw [List.flatMap_cons, List.flatMap_cons] at same
          cases segment with
          | dot key isKey =>
              cases other with
              | dot key' isKey' =>
                  injection same with _ same
                  obtain ⟨rfl, rests⟩ := isKey.append_inj isKey' (atSegment_flatMap segments)
                    (atSegment_flatMap others) same
                  rw [inductionHypothesis rests]
              | bracket inner nonempty closed => simp [Segment.text] at same
          | bracket inner nonempty closed =>
              cases other with
              | dot key isKey => simp [Segment.text] at same
              | bracket inner' nonempty' closed' =>
                  simp only [Segment.text, List.cons_append, List.append_assoc,
                    List.cons.injEq, true_and] at same
                  obtain ⟨rfl, rests⟩ := append_inj_of_front (· ≠ ']')
                    (fun c member equal => closed (equal ▸ member))
                    (fun c member equal => closed' (equal ▸ member))
                    (by simp) (by simp) same
                  injection rests with _ rests
                  rw [inductionHypothesis rests]

/-- A segment denotes the component that is read from it and nothing else. -/
theorem Segment.denotes_iff
    (segment : Segment)
    (component : Component) :
    segment.Denotes component ↔ component = segment.component := by
  cases segment with
  | dot key isKey => exact Iff.rfl
  | bracket inner nonempty closed =>
      constructor
      · exact Stands.eq_bracketComponent
      · rintro rfl
        exact stands_bracketComponent inner

theorem forall₂_denotes_iff
    (segments : List Segment)
    (rest : Path) :
    List.Forall₂ Segment.Denotes segments rest ↔ rest = segments.map Segment.component := by
  induction segments generalizing rest with
  | nil => simp
  | cons segment segments inductionHypothesis =>
      cases rest with
      | nil => simp
      | cons component rest =>
          rw [List.forall₂_cons, segment.denotes_iff, inductionHypothesis, List.map_cons,
            List.cons.injEq]

namespace Spelling

/-- A written path has one spelling. -/
theorem text_injective
    {first second : Spelling}
    (same : first.text = second.text) :
    first = second := by
  cases first with
  | mk base isKey segments =>
      cases second with
      | mk base' isKey' segments' =>
          obtain ⟨rfl, rests⟩ := isKey.append_inj isKey' (atSegment_flatMap segments)
            (atSegment_flatMap segments') same
          rw [flatMap_text_injective rests]

/-- A spelling denotes the components that are read from it and nothing else. -/
theorem denotes_iff
    (spelling : Spelling)
    (path : Path) :
    spelling.Denotes path ↔ path = spelling.components := by
  unfold Denotes components
  constructor
  · rintro ⟨rest, rfl, denotes⟩
    rw [(forall₂_denotes_iff spelling.segments rest).mp denotes]
  · rintro rfl
    exact ⟨_, rfl, (forall₂_denotes_iff spelling.segments _).mpr rfl⟩

end Spelling

/--
Parsing succeeds exactly on the written paths: a base and any number of segments.  A written path
is taken apart in one way only, and it is parsed as what its spelling denotes: its base and the
keys after dots as keys, digits between brackets that fit 64 bits as a position, and any other
text between brackets, without a pair of quotes around it, as a key.
-/
theorem parse_iff_spelling (path : String) :
    ((∃ components, parse path = .ok components) ↔
      ∃ spelling : Spelling, spelling.text = path.toList) ∧
    (∀ first second : Spelling, first.text = path.toList → second.text = path.toList →
      first = second) ∧
    (∀ spelling : Spelling, spelling.text = path.toList →
      ∀ components, parse path = .ok components ↔ spelling.Denotes components) := by
  refine ⟨⟨?_, ?_⟩, ?_, ?_⟩
  · rintro ⟨components, parsed⟩
    exact exists_spelling_of_parse parsed
  · rintro ⟨spelling, written⟩
    exact ⟨spelling.components, parse_of_text_eq written⟩
  · intro first second written written'
    exact Spelling.text_injective (written.trans written'.symm)
  · intro spelling written components
    rw [parse_of_text_eq written, spelling.denotes_iff]
    constructor
    · intro same
      cases same
      rfl
    · rintro rfl
      rfl

/-- Zeros in front of a position do not count, and a dot between quotes is part of the key. -/
theorem parse_of_padded_row :
    ∃ spelling : Spelling, spelling.text = "rows[07][\"a.b\"].x".toList ∧
      parse "rows[07][\"a.b\"].x" =
        .ok [.key "rows", .index 7, .dynamic "a.b", .key "x"] := by
  have row : IsPosition ['0', '7'] := ⟨by simp, by decide⟩
  let spelling : Spelling :=
    { base := "rows".toList
      isKey := by simp [IsKey]
      segments :=
        [.bracket ['0', '7'] (by decide) (by decide),
          .bracket ('"' :: ("a.b".toList ++ ['"'])) (by decide) (by decide),
          .dot ['x'] (by simp [IsKey])] }
  have written : spelling.text = "rows[07][\"a.b\"].x".toList := by rfl
  refine ⟨spelling, written, ?_⟩
  refine ((parse_iff_spelling _).2.2 spelling written _).mpr ⟨_, rfl, ?_⟩
  refine .cons ?_ (.cons ?_ (.cons rfl .nil))
  · exact .position row
  · exact .doubleQuoted "a.b".toList

end Path
end Storyboard
