import Storyboard.Proofs.Command.Likeness
import Storyboard.Proofs.Guarding

/-!
# The way through the screens

In a session of an app the main screen stays at the root, and all screens above it have names,
whatever commands do: in events of screens that are opened by events, in the callbacks of
requests, and in branches and sequences.  A screen is on top before its own event is handled.
-/

namespace Storyboard
namespace Session

/-- The main screen of an app is the root, and every screen above it has a name. -/
structure Rooted (app : App) (session : Session) : Prop where
  /-- The root is the main screen. -/
  root : session.navigation.root = some app.mainScreen
  /-- Every screen above it has a name. -/
  named : ∀ id ∈ session.navigation.stack, id ≠ ""

instance (app : App) : DecidablePred (Rooted app) := fun session =>
  decidable_of_iff
    (session.navigation.root = some app.mainScreen ∧ ∀ id ∈ session.navigation.stack, id ≠ "")
    ⟨fun ⟨root, named⟩ => ⟨root, named⟩, fun rooted => ⟨rooted.root, rooted.named⟩⟩

theorem rooted_openedBy
    (app : App)
    (session : Session) :
    (session.openedBy app).Rooted app :=
  ⟨rfl, fun _ member => by cases member⟩

/-- No operation takes the main screen from the root or opens a screen without a name. -/
theorem lasting_rooted
    (app : App) :
    Lasting fun before after : Session => before.Rooted app → after.Rooted app where
  refl _ := id
  trans first second := second ∘ first
  context _ _ _ rooted := ⟨rooted.root, rooted.named⟩
  exchange _ _ rooted := ⟨rooted.root, rooted.named⟩
  note _ _ rooted := ⟨rooted.root, rooted.named⟩
  push session id named rooted := by
    refine ⟨rooted.root, fun other member => ?_⟩
    rcases List.mem_append.mp member with below | top
    · exact rooted.named other below
    · obtain rfl := List.mem_singleton.mp top
      exact named
  pop _ rooted := ⟨rooted.root, fun id member => rooted.named id (List.dropLast_subset _ member)⟩
  popToRoot _ rooted := ⟨rooted.root, fun _ member => by cases member⟩
  store _ _ _ rooted := ⟨rooted.root, rooted.named⟩
  log _ _ rooted := ⟨rooted.root, rooted.named⟩

/-- What resembles a session has the same screens open. -/
theorem Resembles.navigation
    {session other : Session}
    (resembles : session.Resembles other) :
    other.navigation = session.navigation := by
  obtain ⟨_, _, -, rfl⟩ := resembles
  rfl

end Session

/-- `navigate` enters the screen that its payload is evaluated to. -/
theorem Command.navigate_eq
    (frame : Frame)
    (payload : Node)
    (session : Session) :
    navigate frame payload session =
      enter frame (session.evaluate frame.evaluator frame.index payload).1
        (session.evaluate frame.evaluator frame.index payload).2 := rfl

namespace Interpreter

/-- What the commands on screens do to a session, apart from the record and what is remembered. -/
structure Steers
    (interpreter : Interpreter)
    (index : Option Nat)
    (bound : Nat)
    (session : Session) : Prop where
  /-- A screen that is named is put on top of all, and then its event is handled. -/
  opens : ∀ (payload : Node) (id : String),
    Command.screenId? (session.evaluate interpreter.evaluator index payload).1 = some id →
      ∃ opened : Session,
        opened.navigation.stack = session.navigation.stack ++ [id] ∧
        ({ session with navigation := session.navigation.push id } : Session).Resembles opened ∧
        interpreter.execute index (bound + 1) (.mapping [("navigate", payload)]) session =
          (interpreter.outerFrame index bound).handle? (session.onAppear? id) opened
  /-- What names no screen changes nothing. -/
  rejects : ∀ payload : Node,
    Command.screenId? (session.evaluate interpreter.evaluator index payload).1 = none →
      ∃ result : Session, session.Resembles result ∧
        interpreter.execute index (bound + 1) (.mapping [("navigate", payload)]) session =
          some result
  /-- Nothing is closed where only the root is shown. -/
  stays : session.navigation.stack = [] → ∀ name ∈ ["pop", "popToRoot"], ∀ payload : Node,
    ∃ result : Session, session.Resembles result ∧
      interpreter.execute index (bound + 1) (.mapping [(name, payload)]) session = some result

variable {interpreter : Interpreter}

/-- A registered command is carried out once it is on record. -/
theorem execute_of_registered
    {name : String}
    {command : Command}
    (found : Table.get? interpreter.commands name = some command)
    (index : Option Nat)
    (bound : Nat)
    (payload : Node)
    (session : Session) :
    interpreter.execute index (bound + 1) (.mapping [(name, payload)]) session =
      command (interpreter.outerFrame index bound) payload
        (session.note (.command index (.mapping [(name, payload)]))) := by
  rw [execute]
  simp only [commandParts?, found]
  rfl

/-- `navigate` enters the screen that its payload names before it was on record. -/
theorem exists_enter
    (builtIn : interpreter.commands = Command.builtin)
    (index : Option Nat)
    (bound : Nat)
    (payload : Node)
    (session : Session) :
    ∃ evaluated : Session, session.Resembles evaluated ∧
      interpreter.execute index (bound + 1) (.mapping [("navigate", payload)]) session =
        Command.enter (interpreter.outerFrame index bound)
          (session.evaluate interpreter.evaluator index payload).1 evaluated := by
  have found : Table.get? interpreter.commands "navigate" = some Command.navigate := by
    rw [builtIn]
    rfl
  have noted := (Session.Resembles.refl session).note
    (.command index (.mapping [("navigate", payload)]))
  obtain ⟨sameValue, resembles⟩ := noted.evaluate interpreter.evaluator index payload
  refine ⟨_, resembles, ?_⟩
  rw [execute_of_registered found, ← sameValue]
  exact Command.navigate_eq (interpreter.outerFrame index bound) payload _

/-- Built-in commands on screens steer every session. -/
theorem steers_builtin
    (builtIn : interpreter.commands = Command.builtin)
    (index : Option Nat)
    (bound : Nat)
    (session : Session) :
    interpreter.Steers index bound session where
  opens payload id named := by
    obtain ⟨evaluated, resembles, entered⟩ := exists_enter builtIn index bound payload session
    obtain ⟨paths, deeds, agrees, same⟩ := Session.likeness_resembles.edit resembles (.push id)
    refine ⟨evaluated.push id, ?_, ⟨paths, deeds, agrees, same⟩, ?_⟩
    · exact congrArg (·.stack ++ [id]) resembles.navigation
    · rw [entered, Command.enter, named]
      exact congrArg (fun event => (interpreter.outerFrame index bound).handle? event _)
        (Session.likeness_resembles.onAppear? resembles id)
  rejects payload unnamed := by
    obtain ⟨evaluated, resembles, entered⟩ := exists_enter builtIn index bound payload session
    exact ⟨evaluated, resembles, by rw [entered, Command.enter, unnamed]⟩
  stays empty name member payload := by
    have closed : session.navigation.pop = session.navigation ∧
        session.navigation.popToRoot = session.navigation := by
      unfold Navigation.pop Navigation.popToRoot
      rw [empty]
      exact ⟨congrArg (Navigation.mk _) empty.symm, congrArg (Navigation.mk _) empty.symm⟩
    refine ⟨session.note (.command index (.mapping [(name, payload)])),
      (Session.Resembles.refl session).note _, ?_⟩
    simp only [List.mem_cons, List.not_mem_nil, or_false] at member
    rcases member with rfl | rfl
    · have found : Table.get? interpreter.commands "pop" = some Command.pop := by
        rw [builtIn]
        rfl
      rw [execute_of_registered found, Command.pop]
      exact congrArg (fun navigation => some { session.note _ with navigation := navigation })
        closed.1
    · have found : Table.get? interpreter.commands "popToRoot" = some Command.popToRoot := by
        rw [builtIn]
        rfl
      rw [execute_of_registered found, Command.popToRoot]
      exact congrArg (fun navigation => some { session.note _ with navigation := navigation })
        closed.2

/-- An app that was started stays on its main screen, with named screens above it: so it is when
the start has come to its end, when a run of any steps has, and whenever a command starts in
between, since nothing changes if every command that finds it otherwise comes to no end.  In any
session, a screen that is named is put on top of all before its own event is handled, and nothing
changes where no screen is named or none is left to be closed. -/
theorem rooted_throughout
    (interpreter : Interpreter)
    (builtIn : interpreter.commands = Command.builtin)
    (app : App)
    (bound : Nat)
    (session : Session)
    (report : Report)
    (launched : Session)
    (started : interpreter.start bound app session = some (.ok report, launched))
    (more : Nat)
    (steps : List Step)
    (total : Nat)
    (final : Session)
    (ran : interpreter.run more steps launched = some (total, final)) :
    launched.Rooted app ∧ final.Rooted app ∧
      (interpreter.guarded (Session.Rooted app)).start bound app session =
        some (.ok report, launched) ∧
      (interpreter.guarded (Session.Rooted app)).run more steps launched = some (total, final) ∧
      ∀ index levels between, interpreter.Steers index levels between := by
  have lasting := Session.lasting_rooted app
  have commands : ∀ entry ∈ interpreter.commands, entry ∈ Command.builtin := by
    intro entry member
    rwa [← builtIn]
  obtain ⟨sameStart, rootedStart⟩ :=
    lasting.start_guarded commands (Session.rooted_openedBy app) bound session
  have rooted := rootedStart report launched started
  obtain ⟨sameRun, rootedRun⟩ := lasting.run_guarded commands more steps rooted
  exact ⟨rooted, rootedRun _ ran, sameStart.trans started, sameRun.trans ran,
    fun index levels between => steers_builtin builtIn index levels between⟩

/-- The event of the main screen opens another screen, which issues a request; any text is an
address here.  A text without characters opens nothing, and when the request fails, its last event
opens a screen that a number names. -/
theorem rooted_throughout_of_two_screens :
    let interpreter : Interpreter :=
      { rules := { Web.Rules.standard with url := fun text => .ok (.web text) } }
    let go (target : Node) : Node := .mapping [("navigate", target)]
    let fetch : Node := .mapping [("HttpRequest.request", .mapping
      [("url", .string "https://a.example/"),
       ("onFinally", go (.number (Decimal.ofInteger 7)))])]
    let app : App :=
      ⟨"home", [⟨"home", some (go (.string "detail")), []⟩, ⟨"detail", some fetch, []⟩], []⟩
    let steps : List Step :=
      [.event none (go (.string "")), .arrive 0 (.error (.transport "none")), .drain]
    ∃ report launched final, interpreter.start 4 app {} = some (.ok report, launched) ∧
      interpreter.run 4 steps launched = some (1, final) ∧
      launched.navigation = ⟨some "home", ["detail"]⟩ ∧
      final.navigation = ⟨some "home", ["detail", "7"]⟩ ∧ final.Rooted app := by
  intro interpreter go fetch app steps
  have runs : (interpreter.start 4 app {}).bind (fun result =>
      (interpreter.run 4 steps result.2).map fun last =>
        (result.1.toOption.isSome, result.2.navigation, last.1, last.2.navigation)) =
      some (true, ⟨some "home", ["detail"]⟩, 1, ⟨some "home", ["detail", "7"]⟩) := by
    decide +kernel
  obtain ⟨⟨outcome, launched⟩, started, rest⟩ := Option.bind_eq_some_iff.mp runs
  dsimp only at rest
  obtain ⟨⟨total, final⟩, ran, same⟩ := Option.map_eq_some_iff.mp rest
  simp only [Prod.mk.injEq] at same
  obtain ⟨valid, first, rfl, last⟩ := same
  cases outcome with
  | error error => cases valid
  | ok report =>
      obtain ⟨-, rooted, -⟩ := rooted_throughout interpreter rfl app 4 {} report launched started
        4 steps 1 final ran
      exact ⟨report, launched, final, started, ran, first, last, rooted⟩

end Interpreter
end Storyboard
