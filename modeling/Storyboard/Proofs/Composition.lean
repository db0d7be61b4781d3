import Storyboard.Proofs.Command.Likeness

/-!
# Lists of commands

An event that is a list is handled command by command, so that lists compose, and what is
no command in them may as well be left out.  The same list may be handled as an event, be
run in sequence, or be a branch of a condition: it has the same effect.
-/

namespace Storyboard

/-- A command to which it makes no difference how deep commands may nest, nor what is on record or
remembered. -/
structure Command.Unaware (command : Command) : Prop where
  /-- Where it comes to an end, it comes to the same on more levels. -/
  levels : command.Couples (· ≤ ·) (Session.Follows Eq)
  /-- It comes to the like, whatever is on record or remembered. -/
  record : command.Couples (· ≤ ·) (Session.Follows Session.Resembles)

/-- The built-in commands are such. -/
theorem Command.unaware_of_mem_builtin
    {entry : String × Command}
    (member : entry ∈ Command.builtin) :
    entry.2.Unaware :=
  ⟨Session.likeness_eq.coupled.builtin entry member,
    Session.likeness_resembles.coupled.builtin entry member⟩

/-- Two ways to go on come to the like ends, and if one comes to an end, so does the other. -/
def Session.SameEnds (one other : Session → Prop) : Prop :=
  (∀ result, one result → ∃ twin, other twin ∧ result.Resembles twin) ∧
    ∀ twin, other twin → ∃ result, one result ∧ result.Resembles twin

namespace Interpreter

/-- The handling of an event ends in a session, if it may nest deep enough. -/
def Handles
    (interpreter : Interpreter)
    (index : Option Nat)
    (event : Node)
    (session result : Session) : Prop :=
  ∃ bound, interpreter.handle index bound event session = some result

/-- A command ends in a session, if it may nest deep enough. -/
def Executes
    (interpreter : Interpreter)
    (index : Option Nat)
    (command : Node)
    (session result : Session) : Prop :=
  ∃ bound, interpreter.execute index bound command session = some result

/-- Whether a node is a mapping with a single key, the name of a registered command. -/
def isCommand (interpreter : Interpreter) (node : Node) : Bool :=
  match commandParts? node with
  | some (name, _) => Table.contains interpreter.commands name
  | none => false

variable {interpreter : Interpreter} {index : Option Nat} {bound : Nat}

theorem handle_sequence
    (commands : List Node)
    (session : Session) :
    interpreter.handle index bound (.sequence commands) session =
      commands.foldlM (fun session command => interpreter.execute index bound command session)
        session := rfl

/-- The commands of two lists are run one list after the other. -/
theorem handle_append
    (commands others : List Node)
    (session : Session) :
    interpreter.handle index bound (.sequence (commands ++ others)) session =
      interpreter.handle index bound (.sequence commands) session >>=
        interpreter.handle index bound (.sequence others) := by
  rw [handle_sequence, List.foldlM_append]
  rfl

/-- What is no command is passed over. -/
theorem execute_of_not_isCommand
    {node : Node}
    (unknown : interpreter.isCommand node = false)
    (session : Session) :
    interpreter.execute index (bound + 1) node session = some session := by
  unfold isCommand at unknown
  rw [execute]
  cases parted : commandParts? node with
  | none => rfl
  | some parts =>
      obtain ⟨name, payload⟩ := parts
      rw [parted] at unknown
      have absent : Table.get? interpreter.commands name = none := by
        simpa [Table.contains] using unknown
      dsimp only
      rw [absent]

/-- What is no command may be left out of a list, by induction on the list. -/
theorem handle_filter_isCommand
    (commands : List Node)
    (session : Session) :
    interpreter.handle index (bound + 1) (.sequence (commands.filter interpreter.isCommand))
        session =
      interpreter.handle index (bound + 1) (.sequence commands) session := by
  rw [handle_sequence, handle_sequence]
  induction commands generalizing session with
  | nil => rfl
  | cons command rest inductionHypothesis =>
      cases known : interpreter.isCommand command with
      | true =>
          rw [List.filter_cons_of_pos known, List.foldlM_cons, List.foldlM_cons]
          exact congrArg (_ >>= ·) (funext inductionHypothesis)
      | false =>
          rw [List.filter_cons_of_neg (by simp [known]), List.foldlM_cons,
            execute_of_not_isCommand known]
          exact inductionHypothesis session

/-- `sequence` handles its commands as an event, once it is on record. -/
theorem execute_inSequence
    (registered : Table.get? interpreter.commands "sequence" = some Command.inSequence)
    (commands : List Node)
    (session : Session) :
    let command : Node := .mapping [("sequence", .sequence commands)]
    interpreter.execute index (bound + 1) command session =
      interpreter.handle index bound (.sequence commands)
        (session.note (.command index command)) := by
  intro command
  rw [execute]
  simp only [command, commandParts?, registered]
  rfl

/-- `if` handles the list under `then` or `else` as an event, once it is on record and its condition
is evaluated. -/
theorem execute_branch
    (registered : Table.get? interpreter.commands "if" = some Command.branch)
    {entries : List (String × Node)}
    {condition : Node}
    {commands : List Node}
    (conditioned : Table.get? entries "condition" = some condition)
    (session : Session) :
    let command : Node := .mapping [("if", .mapping entries)]
    let evaluated := (session.note (.command index command)).evaluate interpreter.evaluator index
      condition
    Table.get? entries (if evaluated.1.isTrue then "then" else "else") =
        some (.sequence commands) →
      interpreter.execute index (bound + 1) command session =
        interpreter.handle index bound (.sequence commands) evaluated.2 := by
  intro command evaluated chosen
  have evaluates : (interpreter.outerFrame index bound).evaluateField (.mapping entries) "condition"
      (session.note (.command index command)) = evaluated := by
    unfold Frame.evaluateField Session.evaluateField
    rw [Node.get?_mapping, conditioned]
    rfl
  rw [execute]
  simp only [command, commandParts?, registered]
  change Command.branch (interpreter.outerFrame index bound) (.mapping entries)
    (session.note (.command index command)) = _
  unfold Command.branch
  dsimp only
  rw [evaluates, chosen]
  rfl

/-! ## Whatever the levels of nesting -/

section Unaware

variable (unaware : ∀ entry ∈ interpreter.commands, entry.2.Unaware)

include unaware

/-- An event that ends does so in the same session on more levels. -/
theorem handle_of_le
    {more : Nat}
    (atMost : bound ≤ more)
    {event : Node}
    {session result : Session}
    (handled : interpreter.handle index bound event session = some result) :
    interpreter.handle index more event session = some result := by
  have follows := Session.likeness_eq.handle (fun entry member => (unaware entry member).levels)
    index atMost event
  obtain ⟨another, handledToo, rfl⟩ := follows session session rfl result handled
  exact handledToo

/-- An event has the like effect in sessions that differ in what is on record and remembered. -/
theorem handle_of_resembles
    {event : Node}
    {session other result : Session}
    (resembles : session.Resembles other)
    (handled : interpreter.handle index bound event session = some result) :
    ∃ twin, interpreter.handle index bound event other = some twin ∧ result.Resembles twin :=
  Session.likeness_resembles.handle (fun entry member => (unaware entry member).record) index
    (Nat.le_refl bound) event session other resembles result handled

theorem handles_append_iff
    {commands others : List Node}
    {session result : Session} :
    interpreter.Handles index (.sequence (commands ++ others)) session result ↔
      ∃ middle, interpreter.Handles index (.sequence commands) session middle ∧
        interpreter.Handles index (.sequence others) middle result := by
  constructor
  · rintro ⟨bound, handled⟩
    rw [handle_append] at handled
    obtain ⟨middle, first, second⟩ := Option.bind_eq_some_iff.mp handled
    exact ⟨middle, ⟨bound, first⟩, ⟨bound, second⟩⟩
  · rintro ⟨middle, ⟨bound, first⟩, ⟨more, second⟩⟩
    refine ⟨max bound more, ?_⟩
    rw [handle_append, handle_of_le unaware (Nat.le_max_left bound more) first]
    exact handle_of_le unaware (Nat.le_max_right bound more) second

theorem handles_filter_isCommand_iff
    {commands : List Node}
    {session result : Session} :
    interpreter.Handles index (.sequence (commands.filter interpreter.isCommand)) session result ↔
      interpreter.Handles index (.sequence commands) session result := by
  constructor
  · rintro ⟨bound, handled⟩
    have deeper := handle_of_le unaware (Nat.le_succ bound) handled
    rw [handle_filter_isCommand] at deeper
    exact ⟨bound + 1, deeper⟩
  · rintro ⟨bound, handled⟩
    have deeper := handle_of_le unaware (Nat.le_succ bound) handled
    rw [← handle_filter_isCommand] at deeper
    exact ⟨bound + 1, deeper⟩

/-- A command that handles an event, when the session has changed only in what is on record and
remembered, has the effect of the event. -/
theorem sameEnds_of_execute_eq
    {command event : Node}
    {session other : Session}
    (resembles : session.Resembles other)
    (unfolded : ∀ bound, interpreter.execute index (bound + 1) command session =
      interpreter.handle index bound event other) :
    Session.SameEnds (interpreter.Executes index command session)
      (interpreter.Handles index event session) := by
  constructor
  · rintro result ⟨_ | bound, executed⟩
    · cases executed
    · rw [unfolded] at executed
      obtain ⟨twin, handled, like⟩ := handle_of_resembles unaware resembles.symm executed
      exact ⟨twin, ⟨bound, handled⟩, like⟩
  · rintro twin ⟨bound, handled⟩
    obtain ⟨result, handledToo, like⟩ := handle_of_resembles unaware resembles handled
    exact ⟨result, ⟨bound + 1, (unfolded bound).trans handledToo⟩, like.symm⟩

end Unaware

/-- How events that are lists are made up of their commands. -/
structure ComposesEvents (interpreter : Interpreter) : Prop where
  /-- An event that ends does so in the same session, on whatever levels of nesting are allowed
  besides. -/
  levels : ∀ (index : Option Nat) (bound more : Nat) (event : Node) (session result : Session),
    bound ≤ more → interpreter.handle index bound event session = some result →
      interpreter.handle index more event session = some result
  /-- To handle two lists as one is to handle one and then the other. -/
  append : ∀ (index : Option Nat) (commands others : List Node) (session result : Session),
    interpreter.Handles index (.sequence (commands ++ others)) session result ↔
      ∃ middle, interpreter.Handles index (.sequence commands) session middle ∧
        interpreter.Handles index (.sequence others) middle result
  /-- What is no command may be left out of a list. -/
  filter : ∀ (index : Option Nat) (commands : List Node) (session result : Session),
    interpreter.Handles index (.sequence (commands.filter interpreter.isCommand)) session result ↔
      interpreter.Handles index (.sequence commands) session result
  /-- Commands in sequence have the effect of the event. -/
  sequence : ∀ (index : Option Nat) (commands : List Node) (session : Session),
    Session.SameEnds
      (interpreter.Executes index (.mapping [("sequence", .sequence commands)]) session)
      (interpreter.Handles index (.sequence commands) session)
  /-- So has a condition that is true, with the list under `then`. -/
  consequence : ∀ (index : Option Nat) (entries : List (String × Node)) (condition : Node)
      (commands : List Node) (session : Session),
    Table.get? entries "condition" = some condition →
      Table.get? entries "then" = some (.sequence commands) →
        (session.evaluate interpreter.evaluator index condition).1 = .bool true →
          Session.SameEnds
            (interpreter.Executes index (.mapping [("if", .mapping entries)]) session)
            (interpreter.Handles index (.sequence commands) session)
  /-- And so has a condition that is anything else, with the list under `else`. -/
  alternative : ∀ (index : Option Nat) (entries : List (String × Node)) (condition : Node)
      (commands : List Node) (session : Session),
    Table.get? entries "condition" = some condition →
      Table.get? entries "else" = some (.sequence commands) →
        (session.evaluate interpreter.evaluator index condition).1 ≠ .bool true →
          Session.SameEnds
            (interpreter.Executes index (.mapping [("if", .mapping entries)]) session)
            (interpreter.Handles index (.sequence commands) session)

/-- A condition has the effect of the branch that it selects. -/
theorem sameEnds_branch
    (unaware : ∀ entry ∈ interpreter.commands, entry.2.Unaware)
    (registered : Table.get? interpreter.commands "if" = some Command.branch)
    {entries : List (String × Node)}
    {condition : Node}
    {commands : List Node}
    {session : Session}
    (conditioned : Table.get? entries "condition" = some condition)
    (chosen : Table.get? entries
      (if (session.evaluate interpreter.evaluator index condition).1.isTrue then "then"
        else "else") = some (.sequence commands)) :
    Session.SameEnds
      (interpreter.Executes index (.mapping [("if", .mapping entries)]) session)
      (interpreter.Handles index (.sequence commands) session) := by
  obtain ⟨same, resembles⟩ := ((Session.Resembles.refl session).note
    (.command index (.mapping [("if", .mapping entries)]))).evaluate interpreter.evaluator index
      condition
  refine sameEnds_of_execute_eq unaware resembles fun bound => ?_
  refine execute_branch registered conditioned session ?_
  rw [same]
  exact chosen

end Interpreter

theorem Node.isTrue_iff (node : Node) : node.isTrue = true ↔ node = .bool true := by
  cases node with
  | bool value => cases value <;> simp [isTrue]
  | null | number | string | sequence | mapping => simp [isTrue]

namespace Interpreter

/-- Lists of commands compose, whatever the registered commands are, if only none of them is aware
of the levels of nesting and of the record. -/
theorem composes_events
    (interpreter : Interpreter)
    (commands : ∀ entry ∈ interpreter.commands, entry ∈ Command.builtin ∨ entry.2.Unaware)
    (registered : ∀ name ∈ ["sequence", "if"],
      Table.get? interpreter.commands name = Table.get? Command.builtin name) :
    interpreter.ComposesEvents := by
  have unaware : ∀ entry ∈ interpreter.commands, entry.2.Unaware := fun entry member =>
    (commands entry member).elim Command.unaware_of_mem_builtin id
  have sequences : Table.get? interpreter.commands "sequence" = some Command.inSequence :=
    registered "sequence" (by simp)
  have branches : Table.get? interpreter.commands "if" = some Command.branch :=
    registered "if" (by simp)
  constructor
  · exact fun _ _ _ _ _ _ atMost handled => handle_of_le unaware atMost handled
  · exact fun _ _ _ _ _ => handles_append_iff unaware
  · exact fun _ _ _ _ => handles_filter_isCommand_iff unaware
  · intro index commands session
    exact sameEnds_of_execute_eq unaware ((Session.Resembles.refl session).note _) fun bound =>
      execute_inSequence sequences commands session
  · intro index entries condition commands session conditioned present holds
    refine sameEnds_branch unaware branches conditioned ?_
    rw [(Node.isTrue_iff _).mpr holds]
    exact present
  · intro index entries condition commands session conditioned present fails
    refine sameEnds_branch unaware branches conditioned ?_
    rw [if_neg fun holds => fails ((Node.isTrue_iff _).mp holds)]
    exact present

/-- Three lines are logged from two lists, past a name that is not registered, a list and a scalar,
and a condition logs the lines of the first. -/
theorem composes_events_past_strangers :
    let line (text : String) : Node := .mapping [("log", .string text)]
    let commands : List Node := [line "one", .null, .mapping [("shout", .string "no")],
      .sequence [line "no"], line "two"]
    let entries : List (String × Node) :=
      [("condition", .bool true), ("then", .sequence commands)]
    ∃ middle result twin : Session,
      Interpreter.Handles {} none (.sequence commands) {} middle ∧
        middle.lines = ["one", "two"] ∧
        Interpreter.Handles {} none (.sequence (commands ++ [line "three"])) {} result ∧
        result.lines = ["one", "two", "three"] ∧
        Interpreter.Executes {} none (.mapping [("if", .mapping entries)]) {} twin ∧
        twin.lines = ["one", "two"] := by
  intro line commands entries
  have composes := composes_events {} (fun _ builtIn => .inl builtIn) fun _ _ => rfl
  have observed : (Interpreter.handle {} none 1 (.sequence commands) {}).map Session.lines =
      some ["one", "two"] := by
    decide +kernel
  obtain ⟨middle, handled, lines⟩ := Option.map_eq_some_iff.mp observed
  have handles : Interpreter.Handles {} none (.sequence commands) {} middle := ⟨1, handled⟩
  have last : Interpreter.Handles {} none (.sequence [line "three"]) middle
      ((middle.note (.command none (line "three"))).log "three") := ⟨1, rfl⟩
  have appended := (composes.append none commands [line "three"] {} _).mpr ⟨middle, handles, last⟩
  obtain ⟨twin, executes, paths, deeds, -, same⟩ :=
    (composes.consequence none entries (.bool true) commands {} rfl rfl rfl).2 middle handles
  refine ⟨middle, _, twin, handles, lines, appended, ?_, executes, ?_⟩
  · exact congrArg (· ++ ["three"]) lines
  · rw [same] at lines
    exact lines

end Interpreter
end Storyboard
