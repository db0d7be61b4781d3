import Mathlib.Data.List.Basic
import Storyboard.CommandLine
import Storyboard.Proofs.Composition

/-!
# What a check tells of events

A check reports the commands at the top of events whose names are not registered.  An event is
handled entry by entry, and what becomes of each entry can be told along with the handling.  What a
check reports of a screen is what is told of its event: the entries that are passed over because
nothing is registered under their names, in order, as often as they stand there, and no others.
-/

namespace Storyboard

/-- What becomes of an entry of an event. -/
inductive Fate where
  /-- It is a command of a registered name, and is carried out. -/
  | carriedOut (name : String)
  /-- It is a command, but nothing is registered under its name. -/
  | unregistered (name : String)
  /-- It is no command. -/
  | noCommand

/-- The name under which nothing is registered. -/
def Fate.missing? : Fate → Option String
  | .unregistered name => some name
  | _ => none

/-- The entries of an event, in the order of their turns. -/
def Node.turns : Node → List Node
  | .mapping entries => [.mapping entries]
  | .sequence items => items
  | _ => []

/-- The name of a command under which nothing is registered. -/
def Node.missing? {α : Type} (commands : List (String × α)) (entry : Node) : Option String :=
  (commandParts? entry).bind fun parts =>
    if Table.contains commands parts.1 then none else some parts.1

namespace Interpreter

/-- Carry out a command and tell what becomes of it; nothing is told where no level of nesting is
left. -/
def attempt (interpreter : Interpreter) (index : Option Nat) :
    Nat → Node → Session → List Fate × Option Session
  | 0, _, _ => ([], none)
  | bound + 1, node, session =>
      match commandParts? node with
      | none => ([.noCommand], some session)
      | some (name, payload) =>
          match Table.get? interpreter.commands name with
          | none => ([.unregistered name], some session)
          | some command =>
              ([.carriedOut name],
                command (interpreter.outerFrame index bound) payload
                  (session.note (.command index node)))

/-- Carry out commands one after another, as far as that comes to an end, and tell what becomes of
those that have their turn. -/
def attemptAll (interpreter : Interpreter) (index : Option Nat) (bound : Nat) :
    List Node → Session → List Fate × Option Session
  | [], session => ([], some session)
  | node :: rest, session =>
      let (fates, attempted) := interpreter.attempt index bound node session
      match attempted with
      | none => (fates, none)
      | some session =>
          let (others, result) := attemptAll interpreter index bound rest session
          (fates ++ others, result)

variable {interpreter : Interpreter} {index : Option Nat} {bound : Nat}

/-! ## The telling changes nothing -/

/-- The entries of an event are carried out one after another. -/
theorem handle_eq_foldlM
    (event : Node)
    (session : Session) :
    interpreter.handle index bound event session =
      event.turns.foldlM (fun session entry => interpreter.execute index bound entry session)
        session := by
  cases event with
  | mapping entries =>
      rw [Node.turns, List.foldlM_cons]
      exact (bind_pure (interpreter.execute index bound (.mapping entries) session)).symm
  | sequence commands => exact handle_sequence commands session
  | null | bool | number | string => rfl

theorem snd_attempt
    (node : Node)
    (session : Session) :
    (interpreter.attempt index bound node session).2 =
      interpreter.execute index bound node session := by
  cases bound with
  | zero => rfl
  | succ bound =>
      rw [attempt, execute]
      cases commandParts? node with
      | none => rfl
      | some parts =>
          cases found : Table.get? interpreter.commands parts.1 <;> simp [found, outerFrame]

/-- All entries are carried out as they are without the telling, by induction on them. -/
theorem snd_attemptAll
    (entries : List Node)
    (session : Session) :
    (interpreter.attemptAll index bound entries session).2 =
      entries.foldlM (fun session entry => interpreter.execute index bound entry session)
        session := by
  induction entries generalizing session with
  | nil => rfl
  | cons entry rest inductionHypothesis =>
      rw [attemptAll, List.foldlM_cons, ← snd_attempt]
      obtain ⟨fates, attempted⟩ := interpreter.attempt index bound entry session
      cases attempted with
      | none => rfl
      | some middle => exact inductionHypothesis middle

/-! ## What is told -/

/-- An entry that is told to be missing leaves the session as it is. -/
theorem execute_of_unregistered_mem
    {node : Node}
    {session : Session}
    {name : String}
    (told : .unregistered name ∈ (interpreter.attempt index bound node session).1) :
    interpreter.execute index bound node session = some session := by
  rw [← snd_attempt]
  cases bound with
  | zero => cases told
  | succ bound =>
      rw [attempt] at told ⊢
      cases parted : commandParts? node with
      | none => rfl
      | some parts =>
          cases found : Table.get? interpreter.commands parts.1 with
          | none => simp [found]
          | some command => simp [parted, found] at told

/-- In whatever session an entry has its turn, it is told to be missing exactly if its name is. -/
theorem filterMap_missing?_attempt
    (entry : Node)
    (session : Session) :
    (interpreter.attempt index (bound + 1) entry session).1.filterMap Fate.missing? =
      (entry.missing? interpreter.commands).toList := by
  rw [attempt, Node.missing?]
  cases commandParts? entry with
  | none => rfl
  | some parts =>
      rw [Option.bind_some, Table.contains]
      cases found : Table.get? interpreter.commands parts.1 <;>
        simp [found, Fate.missing?]

/-- What is told begins with what is missing, and ends with it if the entries come to an end. -/
theorem filterMap_missing?_attemptAll
    (entries : List Node)
    (session : Session) :
    let told := interpreter.attemptAll index bound entries session
    told.1.filterMap Fate.missing? <+:
        entries.filterMap (Node.missing? interpreter.commands) ∧
      (told.2.isSome → told.1.filterMap Fate.missing? =
        entries.filterMap (Node.missing? interpreter.commands)) := by
  induction entries generalizing session with
  | nil => exact ⟨List.prefix_refl _, fun _ => rfl⟩
  | cons entry rest inductionHypothesis =>
      cases bound with
      | zero => exact ⟨List.nil_prefix, fun impossible => by cases impossible⟩
      | succ bound =>
          have first : (interpreter.attempt index (bound + 1) entry session).1.filterMap
              Fate.missing? = (entry.missing? interpreter.commands).toList :=
            filterMap_missing?_attempt entry session
          have whole : (entry :: rest).filterMap (Node.missing? interpreter.commands) =
              (entry.missing? interpreter.commands).toList ++
                rest.filterMap (Node.missing? interpreter.commands) := by
            cases missing : entry.missing? interpreter.commands <;> simp [missing]
          rw [attemptAll, whole, ← first]
          obtain ⟨fates, attempted⟩ := interpreter.attempt index (bound + 1) entry session
          cases attempted with
          | none => exact ⟨List.prefix_append _ _, fun impossible => by cases impossible⟩
          | some middle =>
              obtain ⟨begun, ended⟩ := inductionHypothesis middle
              dsimp only
              rw [List.filterMap_append]
              exact ⟨(List.prefix_append_right_inj _).mpr begun,
                fun finished => congrArg _ (ended finished)⟩

end Interpreter

/-! ## What is reported -/

namespace CommandLine

/-- The names that a check reports of a screen. -/
def missingIn {α : Type} (commands : List (String × α)) (screen : Screen) : List String :=
  (screen.onAppear.toList.flatMap Node.turns).filterMap (Node.missing? commands)

/-- A check goes through the screens and reports what is missing in their events. -/
theorem unknownCommands_eq_flatMap
    {α : Type}
    (commands : List (String × α))
    (app : App) :
    unknownCommands commands app =
      app.screens.flatMap fun screen =>
        (missingIn commands screen).map (Prod.mk screen.id) := by
  have each : ∀ (id : String) (entries : List Node),
      ((entries.filterMap commandParts?).filterMap fun parts =>
        if Table.contains commands parts.1 then none else some (id, parts.1)) =
      (entries.filterMap (Node.missing? commands)).map (Prod.mk id) := by
    intro id entries
    rw [List.filterMap_filterMap, List.map_filterMap]
    refine congrArg (List.filterMap · entries) (funext fun entry => ?_)
    rw [Node.missing?]
    cases commandParts? entry with
    | none => rfl
    | some parts => cases known : Table.contains commands parts.1 <;> simp [known]
  unfold unknownCommands
  refine congrArg (List.flatMap · app.screens) (funext fun screen => ?_)
  refine (each screen.id _).trans ?_
  rw [missingIn]
  cases screen.onAppear with
  | none => rfl
  | some event =>
      rw [Option.toList_some, List.flatMap_singleton]
      cases event <;> rfl

end CommandLine

namespace Interpreter

/-- What names foretell of the handling of an event: which of its entries are passed over because
nothing is registered under their names. -/
structure Foretold (interpreter : Interpreter) (event : Node) (names : List String) : Prop where
  /-- They are told of the entries in turn, in whatever session each of them has its turn. -/
  each : ∀ (index : Option Nat) (bound : Nat) (reached : Node → Session),
    (event.turns.flatMap fun entry =>
      (interpreter.attempt index (bound + 1) entry (reached entry)).1.filterMap Fate.missing?) =
        names
  /-- They are told along with the handling of the event, if that comes to an end. -/
  ended : ∀ (index : Option Nat) (bound : Nat) (session final : Session) (fates : List Fate),
    interpreter.attemptAll index bound event.turns session = (fates, some final) →
      fates.filterMap Fate.missing? = names
  /-- Otherwise the first of them are told, as far as the handling comes. -/
  begun : ∀ (index : Option Nat) (bound : Nat) (session : Session),
    (interpreter.attemptAll index bound event.turns session).1.filterMap Fate.missing? <+: names

theorem foretold_missing?
    (interpreter : Interpreter)
    (event : Node) :
    interpreter.Foretold event (event.turns.filterMap (Node.missing? interpreter.commands)) where
  each index bound reached := by
    rw [List.filterMap_eq_flatMap_toList]
    exact congrArg (List.flatMap · event.turns)
      (funext fun entry => filterMap_missing?_attempt entry (reached entry))
  ended index bound session final fates told := by
    have ended := (filterMap_missing?_attemptAll event.turns session).2
      (show (interpreter.attemptAll index bound event.turns session).2.isSome by rw [told]; rfl)
    rwa [told] at ended
  begun index bound session := (filterMap_missing?_attemptAll event.turns session).1

/--
What becomes of the entries of an event is told without a change to its handling: an entry that is
told to be missing leaves the session as it is.  A check reports of every screen of an app, in the
order of the screens, just what is told to be missing in the event of the screen.
-/
theorem unknownCommands_foretold
    (interpreter : Interpreter)
    (app : App) :
    (∀ (index : Option Nat) (bound : Nat) (event : Node) (session : Session),
      (interpreter.attemptAll index bound event.turns session).2 =
        interpreter.handle index bound event session) ∧
    (∀ (index : Option Nat) (bound : Nat) (entry : Node) (session : Session) (name : String),
      .unregistered name ∈ (interpreter.attempt index bound entry session).1 →
        interpreter.execute index bound entry session = some session) ∧
    ∃ names : Screen → List String,
      CommandLine.unknownCommands interpreter.commands app =
        app.screens.flatMap (fun screen => (names screen).map (Prod.mk screen.id)) ∧
      ∀ screen : Screen,
        (screen.onAppear = none → names screen = []) ∧
        ∀ event, screen.onAppear = some event → interpreter.Foretold event (names screen) := by
  refine ⟨fun index bound event session => ?_, fun _ _ _ _ _ => execute_of_unregistered_mem,
    CommandLine.missingIn interpreter.commands,
    CommandLine.unknownCommands_eq_flatMap interpreter.commands app, fun screen => ⟨?_, ?_⟩⟩
  · rw [snd_attemptAll, handle_eq_foldlM]
  · intro silent
    rw [CommandLine.missingIn, silent]
    rfl
  · intro event appears
    rw [CommandLine.missingIn, appears, Option.toList_some, List.flatMap_singleton]
    exact interpreter.foretold_missing? event

/-- A list inside an event, a mapping with two keys and a text are passed over, but not reported. -/
example :
    let track : Node := .mapping [("track", .string "home")]
    let event : Node :=
      .sequence [.mapping [("pop", .null)], track, .sequence [track],
        .mapping [("track", .null), ("pop", .null)], .string "track", track]
    CommandLine.unknownCommands Command.builtin ⟨"home", [⟨"home", some event, []⟩], []⟩ =
      [("home", "track"), ("home", "track")] := rfl

end Interpreter
end Storyboard
