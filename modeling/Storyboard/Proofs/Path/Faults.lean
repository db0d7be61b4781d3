import Mathlib.Control.Monad.Basic
import Storyboard.Path.Parser

/-!
# Where a text stops being a path

The reader of a path is in a key, inside a bracket or behind one, and every character leads from
stage to stage or is refused.  From each stage some text leads to the end of a path.  So a text
that ends too early may still become a path, and a refused character is a fault of every text
that starts in the same way, while what stands in front of it is none.
-/

namespace Storyboard

namespace PathError

/-- The errors of a text whose last part is missing. -/
inductive Unfinished (path : String) : PathError → Prop where
  /-- Everything is missing. -/
  | empty : Unfinished path .empty
  /-- The key after the last dot is missing. -/
  | trailingDot : Unfinished path (.trailingDot path)
  /-- The end of the last bracket is missing. -/
  | unterminatedBracket (offset : Nat) : Unfinished path (.unterminatedBracket path offset)

/-- The errors of a text that has a fault inside. -/
inductive Faulty (path : String) : PathError → Prop where
  /-- A key is missing. -/
  | emptyKey (offset : Nat) : Faulty path (.emptyKey path offset)
  /-- Nothing stands between two brackets. -/
  | emptyBracket (offset : Nat) : Faulty path (.emptyBracket path offset)
  /-- A character stands where none like it may. -/
  | unexpectedCharacter (c : Char) (offset : Nat) :
      Faulty path (.unexpectedCharacter path c offset)

/-- The offset that an error reports. -/
def offset? : PathError → Option Nat
  | .emptyKey _ offset => some offset
  | .emptyBracket _ offset => some offset
  | .unterminatedBracket _ offset => some offset
  | .unexpectedCharacter _ _ offset => some offset
  | .empty => none
  | .trailingDot _ => none
  | .indexTooLarge _ _ => none

/-- An error names a character of a text, that stands between what is before and what is after. -/
def Names (before : List Char) (c : Char) (after : List Char) : PathError → Prop
  | .unexpectedCharacter _ character _ => c = character
  | .emptyBracket _ _ => c = '[' ∧ after.head? = some ']'
  | .unterminatedBracket _ _ => c = '[' ∧ ']' ∉ after
  | .emptyKey _ _ =>
      (c = '.' ∧ (after.head? = some '.' ∨ after.head? = some '[')) ∨
        (before = [] ∧ (c = '.' ∨ c = '['))
  | _ => False

end PathError

namespace Path

/-- Some path starts with the text. -/
def Viable (text : List Char) : Prop :=
  ∃ rest components, parse (String.ofList (text ++ rest)) = .ok components

/-- How many bytes a text takes. -/
def bytes (text : List Char) : Nat := (String.ofList text).utf8ByteSize

@[simp] theorem bytes_nil : bytes [] = 0 := rfl

theorem bytes_concat
    (text : List Char)
    (c : Char) :
    bytes (text ++ [c]) = bytes text + c.utf8Size := by
  simp [bytes]

/-! ## Stages -/

/-- Where the reader of a path is. -/
inductive Stage where
  /-- In a key: where its segment starts, and its characters so far, the latest first. -/
  | key (start : Nat) (taken : List Char)
  /-- In a bracket: where it opened, and the characters in it so far, the latest first. -/
  | bracket (start : Nat) (taken : List Char)
  /-- Behind a bracket. -/
  | segment

namespace Stage

/-- Read on from a stage. -/
def read (path : String) (offset : Nat) : Stage → List Char → Except PathError Path
  | .key start taken, text => readKey path start taken offset text
  | .bracket start taken, text => readBracket path start taken offset text
  | .segment, text => readSegment path offset text

/-- The stage after a character at an offset, unless the character is refused. -/
def next (offset : Nat) : Stage → Char → Option Stage
  | .key start taken, c =>
      if c = ']' then none
      else if c = '.' then if taken = [] then none else some (.key offset [])
      else if c = '[' then if taken = [] then none else some (.bracket offset [])
      else some (.key start (c :: taken))
  | .bracket start taken, c =>
      if c = ']' then if taken = [] then none else some .segment
      else some (.bracket start (c :: taken))
  | .segment, c =>
      if c = '.' then some (.key offset [])
      else if c = '[' then some (.bracket offset [])
      else none

/-- The error of a stage that refuses a character. -/
def refusal (path : String) (offset : Nat) : Stage → Char → PathError
  | .key start _, c =>
      if c = ']' then .unexpectedCharacter path c offset else .emptyKey path start
  | .bracket start _, _ => .emptyBracket path start
  | .segment, c => .unexpectedCharacter path c offset

/-- A refused character is an error, whatever follows it. -/
theorem read_of_refused
    {stage : Stage}
    {offset : Nat}
    {c : Char}
    (refused : stage.next offset c = none)
    (path : String)
    (text : List Char) :
    stage.read path offset (c :: text) = .error (stage.refusal path offset c) := by
  cases stage with
  | key start taken => grind [next, read, readKey, refusal]
  | bracket start taken => grind [next, read, readBracket, refusal]
  | segment => grind [next, read, readSegment, refusal]

/-- A character that is accepted may complete a component; the reader goes on from the next
stage. -/
theorem exists_read_eq
    {stage after : Stage}
    {offset : Nat}
    {c : Char}
    (accepted : stage.next offset c = some after)
    (path : String)
    (text : List Char) :
    ∃ complete : List Component, stage.read path offset (c :: text) =
      complete.foldr prepend (after.read path (offset + c.utf8Size) text) := by
  have dot : ('.' : Char).utf8Size = 1 := rfl
  have opening : ('[' : Char).utf8Size = 1 := rfl
  have closing : (']' : Char).utf8Size = 1 := rfl
  cases stage with
  | key start taken =>
      refine ⟨if c = '.' ∨ c = '[' then [.key (String.ofList taken.reverse)] else [], ?_⟩
      grind [next, read, readKey]
  | bracket start taken =>
      refine ⟨if c = ']' then [bracketComponent taken.reverse] else [], ?_⟩
      grind [next, read, readBracket]
  | segment =>
      refine ⟨[], ?_⟩
      grind [next, read, readSegment]

/-- Every stage leads to the end of some path. -/
theorem exists_read_eq_ok (stage : Stage) :
    ∃ text ≠ [], ∀ path offset, ∃ components, stage.read path offset text = .ok components := by
  cases stage with
  | key start taken =>
      refine ⟨['a'], List.cons_ne_nil _ _, fun path offset => ?_⟩
      exact ⟨[.key (String.ofList ('a' :: taken).reverse)], rfl⟩
  | bracket start taken =>
      refine ⟨['a', ']'], List.cons_ne_nil _ _, fun path offset => ?_⟩
      exact ⟨[bracketComponent ('a' :: taken).reverse], rfl⟩
  | segment =>
      exact ⟨['.', 'a'], List.cons_ne_nil _ _, fun path offset => ⟨[.key "a"], rfl⟩⟩

/-- What a stage knows about the text that led to it: where its key or its bracket started. -/
def Marks (text : List Char) : Stage → Prop
  | .key start taken =>
      (start = 0 ∧ text = taken.reverse) ∨
        ∃ before, Viable before ∧ start = bytes before ∧ text = before ++ '.' :: taken.reverse
  | .bracket start taken =>
      ∃ before, Viable before ∧ start = bytes before ∧ text = before ++ '[' :: taken.reverse ∧
        ']' ∉ taken
  | .segment => True

/-- A dot starts a key. -/
theorem marks_dot
    {text : List Char}
    (viable : Viable text) :
    (key (bytes text) []).Marks (text ++ ['.']) :=
  Or.inr ⟨text, viable, rfl, rfl⟩

/-- An opening bracket starts a bracket. -/
theorem marks_opening
    {text : List Char}
    (viable : Viable text) :
    (bracket (bytes text) []).Marks (text ++ ['[']) :=
  ⟨text, viable, rfl, rfl, List.not_mem_nil⟩

/-- What a stage knows stays right when a character is accepted. -/
theorem Marks.next
    {text : List Char}
    {stage after : Stage}
    {c : Char}
    (marks : stage.Marks text)
    (viable : Viable text)
    (accepted : stage.next (bytes text) c = some after) :
    after.Marks (text ++ [c]) := by
  cases stage with
  | key start taken =>
      simp only [Stage.next] at accepted
      split at accepted
      · cases accepted
      split at accepted
      · next dot =>
          split at accepted <;> cases accepted
          exact dot ▸ marks_dot viable
      split at accepted
      · next opening =>
          split at accepted <;> cases accepted
          exact opening ▸ marks_opening viable
      · cases accepted
        rcases marks with ⟨atStart, rfl⟩ | ⟨before, isViable, starts, rfl⟩
        · exact Or.inl ⟨atStart, List.reverse_cons.symm⟩
        · exact Or.inr ⟨before, isViable, starts, by simp⟩
  | bracket start taken =>
      simp only [Stage.next] at accepted
      split at accepted
      · split at accepted <;> cases accepted
        trivial
      · next noClosing =>
          cases accepted
          obtain ⟨before, isViable, starts, rfl, closed⟩ := marks
          have closedAfter : ']' ∉ c :: taken :=
            List.not_mem_cons_of_ne_of_not_mem (Ne.symm noClosing) closed
          exact ⟨before, isViable, starts, by simp, closedAfter⟩
  | segment =>
      simp only [Stage.next] at accepted
      split at accepted
      · next dot =>
          cases accepted
          exact dot ▸ marks_dot viable
      split at accepted
      · next opening =>
          cases accepted
          exact opening ▸ marks_opening viable
      · cases accepted

end Stage

/-! ## From stage to stage -/

theorem foldr_prepend_error
    (components : List Component)
    (error : PathError) :
    components.foldr prepend (.error error) = .error error := by
  induction components with
  | nil => rfl
  | cons component rest inductionHypothesis =>
      rw [List.foldr_cons, inductionHypothesis]
      rfl

theorem foldr_prepend_ok
    (components : List Component)
    (path : Path) :
    components.foldr prepend (.ok path) = .ok (components ++ path) := by
  induction components with
  | nil => rfl
  | cons component rest inductionHypothesis =>
      rw [List.foldr_cons, inductionHypothesis]
      rfl

/-- A text leads the reader of a path to a stage, one character after another. -/
inductive Reaches : List Char → Stage → Prop where
  /-- At the start of a path its base is read. -/
  | start : Reaches [] (.key 0 [])
  /-- A character that is accepted leads on. -/
  | next {text : List Char} {stage after : Stage} {c : Char} :
      Reaches text stage → stage.next (bytes text) c = some after → Reaches (text ++ [c]) after

namespace Reaches

variable {front : List Char} {stage : Stage}

/-- A path is read on from the stage that the front of its text leads to. -/
theorem exists_parse_eq
    (reaches : Reaches front stage)
    {path : String}
    {text : List Char}
    (starts : path.toList = front ++ text)
    (nonempty : path.toList ≠ []) :
    ∃ complete : List Component,
      parse path = complete.foldr prepend (stage.read path (bytes front) text) := by
  induction reaches generalizing text with
  | start =>
      refine ⟨[], ?_⟩
      rw [parse, if_neg nonempty, starts]
      rfl
  | @next front stage after c reaches accepted inductionHypothesis =>
      have earlier : path.toList = front ++ c :: text := by simpa using starts
      obtain ⟨complete, read⟩ := inductionHypothesis earlier
      obtain ⟨more, goesOn⟩ := stage.exists_read_eq accepted path text
      refine ⟨complete ++ more, ?_⟩
      rw [read, goesOn, bytes_concat, List.foldr_append]

/-- Some path goes on from every stage. -/
theorem viable (reaches : Reaches front stage) : Viable front := by
  obtain ⟨text, nonempty, ends⟩ := stage.exists_read_eq_ok
  have starts : (String.ofList (front ++ text)).toList = front ++ text := String.toList_ofList
  obtain ⟨complete, read⟩ := reaches.exists_parse_eq starts (by simp [nonempty])
  obtain ⟨components, ends⟩ := ends (String.ofList (front ++ text)) (bytes front)
  exact ⟨text, complete ++ components, by rw [read, ends, foldr_prepend_ok]⟩

/-- A path is not read beyond a character that is refused. -/
theorem parse_of_refused
    (reaches : Reaches front stage)
    {c : Char}
    (refused : stage.next (bytes front) c = none)
    {path : String}
    {after : List Char}
    (starts : path.toList = front ++ c :: after) :
    parse path = .error (stage.refusal path (bytes front) c) := by
  obtain ⟨complete, read⟩ := reaches.exists_parse_eq starts (by simp [starts])
  rw [read, Stage.read_of_refused refused, foldr_prepend_error]

/-- No path starts with a text that has a refused character. -/
theorem not_viable_of_refused
    (reaches : Reaches front stage)
    {c : Char}
    (refused : stage.next (bytes front) c = none)
    (after : List Char) :
    ¬ Viable (front ++ c :: after) := by
  rintro ⟨rest, components, parsed⟩
  have starts : (String.ofList (front ++ c :: after ++ rest)).toList =
      front ++ c :: (after ++ rest) := by
    rw [String.toList_ofList, List.append_assoc, List.cons_append]
  rw [reaches.parse_of_refused refused starts] at parsed
  cases parsed

/-- What the stages know is right, by induction on the text. -/
theorem marks (reaches : Reaches front stage) : stage.Marks front := by
  induction reaches with
  | start => exact Or.inl ⟨rfl, rfl⟩
  | next reaches accepted inductionHypothesis =>
      exact inductionHypothesis.next reaches.viable accepted

/-- A longer text leads on to a stage, or one of its characters is refused. -/
theorem exists_of_append
    (reaches : Reaches front stage)
    (text : List Char) :
    (∃ last, Reaches (front ++ text) last) ∨
      ∃ before c after last, front ++ text = before ++ c :: after ∧ Reaches before last ∧
        last.next (bytes before) c = none := by
  induction text generalizing front stage with
  | nil =>
      left
      exact ⟨stage, by rwa [List.append_nil]⟩
  | cons c text inductionHypothesis =>
      cases step : stage.next (bytes front) c with
      | none =>
          right
          exact ⟨front, c, text, stage, rfl, reaches, step⟩
      | some after =>
          have further := inductionHypothesis (reaches.next step)
          rwa [List.append_assoc, List.singleton_append] at further

end Reaches

/-! ## Errors -/

/-- An error that reports an offset names a character that stands there, and some path starts with
the text in front of it. -/
def Locates (path : String) (error : PathError) : Prop :=
  ∀ offset, error.offset? = some offset →
    ∃ before c after, path.toList = before ++ c :: after ∧ offset = bytes before ∧
      Viable before ∧ error.Names before c after

theorem locates_of_offset?_eq_some
    {path : String}
    {error : PathError}
    {before after : List Char}
    {c : Char}
    (starts : path.toList = before ++ c :: after)
    (viable : Viable before)
    (reported : error.offset? = some (bytes before))
    (names : error.Names before c after) :
    Locates path error := by
  intro offset same
  obtain rfl := Option.some.inj (reported.symm.trans same)
  exact ⟨before, c, after, starts, rfl, viable, names⟩

/-- The error of a refused character is a fault that is located. -/
theorem located_of_refused
    {path : String}
    {front after : List Char}
    {stage : Stage}
    {c : Char}
    (reaches : Reaches front stage)
    (refused : stage.next (bytes front) c = none)
    (starts : path.toList = front ++ c :: after) :
    (stage.refusal path (bytes front) c).Faulty path ∧
      Locates path (stage.refusal path (bytes front) c) := by
  have marks := reaches.marks
  cases stage with
  | key start taken =>
      simp only [Stage.next] at refused
      rw [Stage.refusal]
      split
      · next closing =>
          exact ⟨.unexpectedCharacter c _,
            locates_of_offset?_eq_some starts reaches.viable rfl rfl⟩
      · next noClosing =>
          obtain ⟨ends, rfl⟩ : (c = '.' ∨ c = '[') ∧ taken = [] := by grind
          refine ⟨.emptyKey start, ?_⟩
          -- Where the key is missing at the start of the text, there is no dot in front of it.
          rcases marks with ⟨rfl, rfl⟩ | ⟨before, viable, rfl, rfl⟩
          · exact locates_of_offset?_eq_some starts reaches.viable rfl (Or.inr ⟨rfl, ends⟩)
          · have fromDot : path.toList = before ++ '.' :: c :: after := by simpa using starts
            have behind : (c :: after).head? = some '.' ∨ (c :: after).head? = some '[' := by
              simpa using ends
            exact locates_of_offset?_eq_some fromDot viable rfl (Or.inl ⟨rfl, behind⟩)
  | bracket start taken =>
      simp only [Stage.next] at refused
      obtain ⟨rfl, rfl⟩ : c = ']' ∧ taken = [] := by grind
      obtain ⟨before, viable, rfl, rfl, -⟩ := marks
      have fromOpening : path.toList = before ++ '[' :: ']' :: after := by simpa using starts
      exact ⟨.emptyBracket _, locates_of_offset?_eq_some fromOpening viable rfl ⟨rfl, rfl⟩⟩
  | segment =>
      exact ⟨.unexpectedCharacter c _, locates_of_offset?_eq_some starts reaches.viable rfl rfl⟩

/-- The error of a text that ends too early is that something is missing, and it is located. -/
theorem located_of_ended
    {path : String}
    {stage : Stage}
    {error : PathError}
    (reaches : Reaches path.toList stage)
    (failed : stage.read path (bytes path.toList) [] = .error error) :
    error.Unfinished path ∧ Locates path error := by
  have marks := reaches.marks
  cases stage with
  | key start taken =>
      rw [Stage.read, readKey] at failed
      split at failed <;> cases failed
      exact ⟨.trailingDot, nofun⟩
  | bracket start taken =>
      rw [Stage.read, readBracket] at failed
      cases failed
      obtain ⟨before, viable, rfl, whole, closed⟩ := marks
      have unclosed : ']' ∉ taken.reverse := by simpa using closed
      exact ⟨.unterminatedBracket _,
        locates_of_offset?_eq_some whole viable rfl ⟨rfl, unclosed⟩⟩
  | segment =>
      rw [Stage.read, readSegment] at failed
      cases failed

/--
A text that is not a path is told what is wrong with it.  If some path starts with it, the error is
that something is missing at its end; if none does, that something in it is wrong.  An offset in
the error counts the bytes in front of the character that the error names, and some path starts
with the text in front of that character.
-/
theorem located_of_parse_eq_error
    {path : String}
    {error : PathError}
    (failed : parse path = .error error) :
    (Viable path.toList → error.Unfinished path) ∧
    (¬ Viable path.toList → error.Faulty path) ∧
    Locates path error := by
  by_cases empty : path.toList = []
  · rw [parse, if_pos empty] at failed
    cases failed
    have viable : Viable path.toList := by
      rw [empty]
      exact Reaches.start.viable
    exact ⟨fun _ => .empty, fun hopeless => absurd viable hopeless, nofun⟩
  rcases Reaches.start.exists_of_append path.toList with
    ⟨stage, reaches⟩ | ⟨front, c, after, stage, starts, reaches, refused⟩
  · rw [List.nil_append] at reaches
    obtain ⟨complete, read⟩ := reaches.exists_parse_eq (List.append_nil _).symm empty
    have ended : stage.read path (bytes path.toList) [] = .error error := by
      cases result : stage.read path (bytes path.toList) [] with
      | ok components => rw [read, result, foldr_prepend_ok] at failed; cases failed
      | error other => rwa [read, result, foldr_prepend_error] at failed
    obtain ⟨unfinished, located⟩ := located_of_ended reaches ended
    exact ⟨fun _ => unfinished, fun hopeless => absurd reaches.viable hopeless, located⟩
  · rw [List.nil_append] at starts
    rw [reaches.parse_of_refused refused starts] at failed
    cases failed
    obtain ⟨faulty, located⟩ := located_of_refused reaches refused starts
    refine ⟨fun viable => ?_, fun _ => faulty, located⟩
    rw [starts] at viable
    exact absurd viable (reaches.not_viable_of_refused refused after)

/-- A letter behind a bracket is an error at its byte, here the tenth, and no path starts with a
text that has it there. -/
theorem located_of_letter_behind_bracket :
    let path := "naïve[0]x"
    let error := PathError.unexpectedCharacter path 'x' 9
    parse path = .error error ∧ ¬ Viable path.toList ∧ error.Faulty path ∧
      ∃ before c after, path.toList = before ++ c :: after ∧ 9 = bytes before ∧
        Viable before ∧ error.Names before c after := by
  intro path error
  have failed : parse path = .error error := by decide +kernel
  obtain ⟨unfinished, faulty, located⟩ := located_of_parse_eq_error failed
  have hopeless : ¬ Viable path.toList := by
    intro viable
    have impossible : PathError.Unfinished path (.unexpectedCharacter path 'x' 9) :=
      unfinished viable
    cases impossible
  exact ⟨failed, hopeless, faulty hopeless, located 9 rfl⟩

end Path
end Storyboard
