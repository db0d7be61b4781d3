import Storyboard.Proofs.Lasting

/-!
# Commands on guard

A property that no operation breaks holds whenever a command starts, however deeply the
command nests and whatever called it.  So nothing changes if every command looks for the
property when it starts and comes to no end where it is missing.
-/

namespace Storyboard

section

variable (sound : Session → Prop) [DecidablePred sound]

/-- A command that comes to no end in a session without a property. -/
def Command.guarded (command : Command) : Command :=
  fun frame payload session => if sound session then command frame payload session else none

/-- An interpreter of which every command comes to no end in a session without a property. -/
def Interpreter.guarded (interpreter : Interpreter) : Interpreter :=
  interpreter.withTwins (Command.guarded sound)

end

namespace Session

/-- Operations that do the same as long as a property holds, and keep it. -/
def SameWhile
    (sound : Session → Prop)
    (α : Type)
    (operation other : Operation α) : Prop :=
  ∀ session, sound session →
    other session = operation session ∧ ∀ result, operation session = some result → sound result.2

variable {sound : Session → Prop}

theorem sameWhile_of_reaches
    {α : Type}
    {operation : Operation α}
    (reaches : Reaches (fun before after => sound before → sound after) α operation operation) :
    SameWhile sound α operation operation :=
  fun session holds => ⟨rfl, fun result finished => reaches.2 session result finished holds⟩

namespace Lasting

variable (lasting : Lasting fun before after => sound before → sound after)

include lasting

/-- A property that lasts is kept by all operations of sessions. -/
theorem tandem : Tandem (SameWhile sound) where
  fail := sameWhile_of_reaches lasting.tandem_reaches.fail
  done value := sameWhile_of_reaches (lasting.tandem_reaches.done value)
  andThen := by
    intro α β first other second another firsts seconds session holds
    obtain ⟨same, kept⟩ := firsts session holds
    unfold Operation.andThen
    rw [same]
    cases done : first session with
    | none => exact ⟨rfl, fun _ impossible => by cases impossible⟩
    | some middle => exact seconds middle.1 middle.2 (kept middle done)
  compute f := sameWhile_of_reaches (lasting.tandem_reaches.compute f)
  transact f := sameWhile_of_reaches (lasting.tandem_reaches.transact f)
  appears id := sameWhile_of_reaches (lasting.tandem_reaches.appears id)
  edit edit named := sameWhile_of_reaches (lasting.tandem_reaches.edit edit named)

variable [DecidablePred sound]
  {interpreter : Interpreter} (builtIn : ∀ entry ∈ interpreter.commands, entry ∈ Command.builtin)

include builtIn

/-- A built-in command and the same command on guard. -/
theorem pairs_guarded :
    ∀ entry ∈ interpreter.commands,
      entry.2.Pairs (SameWhile sound) (entry.2.guarded sound) := by
  intro entry member frame run payload runs session holds
  obtain ⟨same, kept⟩ :=
    lasting.tandem.pairs_builtin entry (builtIn entry member) frame run payload runs session holds
  refine ⟨?_, kept⟩
  rw [← same]
  unfold Operation.only Command.guarded
  rw [if_pos holds]

/-- A run is the same with commands on guard. -/
theorem run_guarded
    (bound : Nat)
    (steps : List Step)
    {session : Session}
    (holds : sound session) :
    (interpreter.guarded sound).run bound steps session = interpreter.run bound steps session ∧
      ∀ result, interpreter.run bound steps session = some result → sound result.2 :=
  lasting.tandem.run (lasting.pairs_guarded builtIn) bound steps session holds

/-- An app is started the same with commands on guard, if the property holds of every session in
which the main screen of the app is shown. -/
theorem start_guarded
    {app : App}
    (opens : ∀ session : Session, sound (session.openedBy app))
    (bound : Nat)
    (session : Session) :
    (interpreter.guarded sound).start bound app session = interpreter.start bound app session ∧
      ∀ report launched, interpreter.start bound app session = some (.ok report, launched) →
        sound launched := by
  cases validated : app.validate with
  | error error =>
      have refused : ∀ other : Interpreter,
          other.start bound app session = some (.error error, session) := by
        intro other
        rw [Interpreter.start, validated]
      rw [refused, refused]
      exact ⟨rfl, fun _ _ impossible => by cases impossible⟩
  | ok valid =>
      have evaluatesTo : (interpreter.guarded sound).evaluator = interpreter.evaluator := rfl
      have configured : (interpreter.guarded sound).settings = interpreter.settings := rfl
      rw [Interpreter.start_eq _ validated, Interpreter.start_eq _ validated, evaluatesTo,
        configured]
      dsimp only [Operation.andThen]
      cases Operation.compute (fun _ paths stored =>
          interpreter.evaluator.resolve bound none stored interpreter.settings.iterationCap
            { bindings := app.bindings } paths) session with
      | none => exact ⟨rfl, fun _ _ impossible => by cases impossible⟩
      | some resolved =>
          obtain ⟨same, kept⟩ := lasting.tandem.welcome (lasting.pairs_guarded builtIn) bound app
            resolved.1 (resolved.2.openedBy app) (opens resolved.2)
          exact ⟨same, fun report launched => kept (.ok report, launched)⟩

end Lasting
end Session
end Storyboard
