import Storyboard.Proofs.Context.Quiet
import Storyboard.Proofs.Lasting

/-!
# Apps that can be started

An app is valid if its screens have distinct names, none of them empty, and the main screen is one
of them.  What is reported of any other app is the first screen that breaks this rule, or else the
main screen.  Such an app leaves the session as it is.

A valid app is started, and what a session then knows of a screen is what the app says of it: the
last screen that was made known under a name is the first one that the app has under it.
-/

namespace Storyboard
namespace App

/-- Screens with distinct names, none of them empty. -/
structure Named (screens : List Screen) : Prop where
  /-- No name is empty. -/
  nonempty : ∀ screen ∈ screens, screen.id ≠ ""
  /-- No name comes twice. -/
  distinct : (screens.map Screen.id).Nodup

/-- An app whose main screen is one of its screens, and these have distinct names that are not
empty. -/
structure Valid (app : App) : Prop where
  /-- The screens have names. -/
  named : Named app.screens
  /-- The main screen is among them. -/
  main : app.mainScreen ∈ app.screens.map Screen.id

/-- What is wrong with an app: the first screen whose name is empty or an earlier one's, and the
main screen only where all names are in order. -/
inductive Fault (app : App) : AppError → Prop
  /-- The first screen at fault has no name. -/
  | unnamed {earlier later : List Screen} {screen : Screen}
      (screens : app.screens = earlier ++ screen :: later)
      (named : Named earlier)
      (empty : screen.id = "") :
      Fault app .emptyScreenId
  /-- The first screen at fault has the name of an earlier one. -/
  | repeated {earlier later : List Screen} {screen : Screen}
      (screens : app.screens = earlier ++ screen :: later)
      (named : Named earlier)
      (nonempty : screen.id ≠ "")
      (taken : screen.id ∈ earlier.map Screen.id) :
      Fault app (.duplicateScreen screen.id)
  /-- No screen is at fault, and the main screen is none of them. -/
  | missing
      (named : Named app.screens)
      (absent : app.mainScreen ∉ app.screens.map Screen.id) :
      Fault app (.missingMainScreen app.mainScreen)

/-! ## Validation -/

theorem named_nil : Named [] := ⟨nofun, List.nodup_nil⟩

theorem named_append_singleton_iff
    {earlier : List Screen}
    {screen : Screen} :
    Named (earlier ++ [screen]) ↔
      Named earlier ∧ screen.id ≠ "" ∧ screen.id ∉ earlier.map Screen.id := by
  constructor
  · rintro ⟨nonempty, distinct⟩
    rw [List.map_append, List.nodup_append] at distinct
    refine ⟨⟨fun other member => nonempty other (List.mem_append_left _ member), distinct.1⟩,
      nonempty screen (by simp), fun taken => ?_⟩
    exact distinct.2.2 screen.id taken screen.id (by simp) rfl
  · rintro ⟨⟨nonempty, distinct⟩, named, fresh⟩
    refine ⟨fun other member => ?_, ?_⟩
    · rcases List.mem_append.mp member with before | itself
      · exact nonempty other before
      · rw [List.mem_singleton.mp itself]
        exact named
    · rw [List.map_append, List.nodup_append]
      refine ⟨distinct, by simp, fun name member other itself => ?_⟩
      rw [List.mem_singleton.mp itself]
      rintro rfl
      exact fresh member

theorem Named.of_append
    {earlier later : List Screen}
    (named : Named (earlier ++ later)) :
    Named earlier where
  nonempty screen member := named.nonempty screen (List.mem_append_left later member)
  distinct := (List.nodup_append.mp (List.map_append ▸ named.distinct)).1

/-- The names seen so far are those of the screens so far. -/
def Seen (seen : List String) (screens : List Screen) : Prop :=
  ∀ name, name ∈ seen ↔ name ∈ screens.map Screen.id

theorem seen_nil : Seen [] [] := fun _ => Iff.rfl

theorem Seen.cons
    {seen : List String}
    {screens : List Screen}
    (names : Seen seen screens)
    (screen : Screen) :
    Seen (screen.id :: seen) (screens ++ [screen]) := by
  intro name
  simp [names name, or_comm]

/-- Screens that have names are passed over. -/
theorem exists_faulty?_append
    {seen : List String}
    {earlier : List Screen}
    (before later : List Screen)
    (named : Named (before ++ earlier))
    (names : Seen seen before) :
    ∃ more, Seen more (before ++ earlier) ∧
      faulty? seen (earlier ++ later) = faulty? more later := by
  induction earlier generalizing seen before with
  | nil => exact ⟨seen, (List.append_nil before).symm ▸ names, rfl⟩
  | cons screen rest inductionHypothesis =>
      rw [List.append_cons] at named ⊢
      obtain ⟨-, nonempty, fresh⟩ := named_append_singleton_iff.mp named.of_append
      obtain ⟨more, namesMore, same⟩ := inductionHypothesis _ named (names.cons screen)
      refine ⟨more, namesMore, ?_⟩
      rw [List.cons_append, faulty?, if_neg nonempty, if_neg fun taken => fresh ((names _).mp taken),
        same]

/-- Either all screens have names, or the first one that has none of its own is at fault. -/
theorem named_or_fault
    {app : App}
    {earlier later : List Screen}
    (screens : app.screens = earlier ++ later)
    (named : Named earlier) :
    Named app.screens ∨ ∃ error, app.Fault error := by
  induction later generalizing earlier with
  | nil =>
      rw [List.append_nil] at screens
      exact .inl (screens ▸ named)
  | cons screen rest inductionHypothesis =>
      by_cases empty : screen.id = ""
      · exact .inr ⟨_, .unnamed screens named empty⟩
      by_cases taken : screen.id ∈ earlier.map Screen.id
      · exact .inr ⟨_, .repeated screens named empty taken⟩
      exact inductionHypothesis (screens.trans (List.append_cons earlier screen rest))
        (named_append_singleton_iff.mpr ⟨named, empty, taken⟩)

/-- An app is found valid if it is. -/
theorem Valid.validate
    {app : App}
    (valid : app.Valid) :
    app.validate = .ok () := by
  obtain ⟨more, -, passed⟩ := exists_faulty?_append [] [] valid.named seen_nil
  rw [List.append_nil] at passed
  rw [App.validate, passed]
  exact if_pos valid.main

/-- The fault of an app is what is reported. -/
theorem Fault.validate
    {app : App}
    {error : AppError}
    (fault : app.Fault error) :
    app.validate = .error error := by
  cases fault with
  | unnamed screens named empty =>
      obtain ⟨more, -, passed⟩ := exists_faulty?_append [] _ named seen_nil
      rw [App.validate, screens, passed, faulty?, if_pos empty]
  | repeated screens named nonempty taken =>
      obtain ⟨more, names, passed⟩ := exists_faulty?_append [] _ named seen_nil
      rw [App.validate, screens, passed, faulty?, if_neg nonempty, if_pos ((names _).mpr taken)]
  | missing named absent =>
      obtain ⟨more, -, passed⟩ := exists_faulty?_append [] [] named seen_nil
      rw [List.append_nil] at passed
      rw [App.validate, passed]
      exact if_neg absent

/-- An app is valid or has a fault. -/
theorem valid_or_fault
    (app : App) :
    app.Valid ∨ ∃ error, app.Fault error := by
  rcases named_or_fault (List.nil_append app.screens).symm named_nil with named | fault
  · by_cases main : app.mainScreen ∈ app.screens.map Screen.id
    · exact .inl ⟨named, main⟩
    · exact .inr ⟨_, .missing named main⟩
  · exact .inr fault

/-- An app is found valid exactly if it is. -/
theorem validate_eq_ok_iff
    {app : App} :
    app.validate = .ok () ↔ app.Valid := by
  refine ⟨fun sound => (valid_or_fault app).resolve_right ?_, Valid.validate⟩
  rintro ⟨error, fault⟩
  rw [fault.validate] at sound
  cases sound

/-- What is reported of an app is exactly its fault. -/
theorem validate_eq_error_iff
    {app : App}
    {error : AppError} :
    app.validate = .error error ↔ app.Fault error := by
  refine ⟨fun refused => ?_, Fault.validate⟩
  rcases valid_or_fault app with valid | ⟨other, fault⟩
  · rw [valid.validate] at refused
    cases refused
  · rw [fault.validate] at refused
    exact Except.error.inj refused ▸ fault

end App

/-! ## The screens of a session -/

/-- A look-up among screens by their names finds the first one of a name. -/
theorem Table.get?_screens
    (screens : List Screen)
    (id : String) :
    Table.get? (screens.map fun screen => (screen.id, screen)) id =
      screens.find? fun screen => screen.id == id := by
  induction screens with
  | nil => rfl
  | cons screen rest inductionHypothesis =>
      rw [List.map_cons, get?_cons, List.find?_cons, inductionHypothesis]
      by_cases same : screen.id = id
      · simp [same]
      · simp [same, beq_eq_false_iff_ne.mpr same]

namespace Session

/-- Screens that are made known are entered under their names, and nothing else changes. -/
theorem foldl_register
    (screens : List Screen)
    (session : Session) :
    screens.foldl register session =
      { session with
        screens := (screens.map fun screen => (screen.id, screen)).foldl
          (fun table entry => Table.insert table entry.1 entry.2) session.screens } := by
  induction screens generalizing session with
  | nil => rfl
  | cons screen rest inductionHypothesis => exact inductionHypothesis (session.register screen)

/-- Where no name comes twice, a session that knew no screen knows the screens as they stand. -/
theorem foldl_register_of_named
    {screens : List Screen}
    (named : App.Named screens)
    {session : Session}
    (fresh : session.screens = []) :
    screens.foldl register session =
      { session with screens := screens.map fun screen => (screen.id, screen) } := by
  have distinct : Table.Distinct (screens.map fun screen => (screen.id, screen)) := by
    unfold Table.Distinct Table.keys
    rw [List.map_map]
    exact named.distinct
  rw [foldl_register, fresh]
  exact congrArg (fun table => { session with screens := table })
    (Table.ofEntries_of_distinct distinct)

/-- A session with some variables and parsed paths that shows the main screen of an app and knows
the screens of the app. -/
def showing
    (session : Session)
    (app : App)
    (context : Context)
    (paths : Path.Cache) :
    Session :=
  { session with
    context := context
    paths := paths
    navigation := ⟨some app.mainScreen, []⟩
    screens := app.screens.map fun screen => (screen.id, screen) }

/-- A session that knows the screens of an app as they stand knows of each what the app says. -/
theorem onAppear?_of_screens
    {session : Session}
    {app : App}
    (known : session.screens = app.screens.map fun screen => (screen.id, screen))
    (id : String) :
    session.onAppear? id = (app.screen? id).bind Screen.onAppear := by
  rw [onAppear?, known, Table.get?_screens, App.screen?]

/-- What is known of the screens stays as it is. -/
theorem lasting_screens :
    Lasting fun before after : Session => after.screens = before.screens where
  refl _ := rfl
  trans first second := second.trans first
  context _ _ _ := rfl
  exchange _ _ := rfl
  note _ _ := rfl
  push _ _ _ := rfl
  pop _ := rfl
  popToRoot _ := rfl
  store _ _ _ := rfl
  log _ _ := rfl

end Session

/-! ## Resolution in a new context -/

namespace Evaluator

variable (evaluator : Evaluator) (index : Option Nat) (stored : List (String × Node))

/-- Where observers only watch, the resolution of a variable ends alike whatever the bound. -/
theorem exists_resolveVariable_of_quiet
    {progress : Progress}
    (quiet : progress.context.Quiet)
    (name : String) :
    ∃ next : Progress, next.context.Quiet ∧
      ∀ bound, evaluator.resolveVariable bound index stored progress name = some next := by
  unfold resolveVariable
  cases progress.context.get? name with
  | none => exact ⟨progress, quiet, fun _ => rfl⟩
  | some value =>
      dsimp only
      generalize evaluator.evaluate ⟨progress.context.bindings, index, stored⟩ value
        progress.cache = result
      obtain ⟨resolved, cache⟩ := result
      split
      · split
        · exact ⟨⟨progress.context, cache, progress.changed⟩, quiet, fun _ => rfl⟩
        · refine ⟨⟨progress.context.revise ⟨name, some resolved⟩, cache, true⟩,
            quiet.revise _, fun bound => ?_⟩
          have written : progress.context.set bound name resolved =
              some (progress.context.revise ⟨name, some resolved⟩) :=
            Context.update_of_quiet bound _ quiet
          rw [written, Option.map_some]
      · exact ⟨progress, quiet, fun _ => rfl⟩

theorem exists_foldlM_of_quiet
    (names : List String)
    {progress : Progress}
    (quiet : progress.context.Quiet) :
    ∃ last : Progress, last.context.Quiet ∧
      ∀ bound, names.foldlM (evaluator.resolveVariable bound index stored) progress = some last := by
  induction names generalizing progress with
  | nil => exact ⟨progress, quiet, fun _ => rfl⟩
  | cons name rest inductionHypothesis =>
      obtain ⟨next, quietNext, resolved⟩ :=
        evaluator.exists_resolveVariable_of_quiet index stored quiet name
      obtain ⟨last, quietLast, ended⟩ := inductionHypothesis quietNext
      refine ⟨last, quietLast, fun bound => ?_⟩
      rw [List.foldlM_cons, resolved bound]
      exact ended bound

/-- Where observers only watch, a resolution ends alike whatever the bound, by induction on the
passes. -/
theorem exists_resolveAfter_of_quiet
    (made allowed : Nat)
    {context : Context}
    (quiet : context.Quiet)
    (cache : Path.Cache) :
    ∃ result, ∀ bound,
      evaluator.resolveAfter bound index stored made allowed context cache = some result := by
  induction allowed generalizing made context cache with
  | zero => exact ⟨_, fun _ => rfl⟩
  | succ allowed inductionHypothesis =>
      obtain ⟨progress, quietLast, passed⟩ := evaluator.exists_foldlM_of_quiet index stored
        context.names (show (⟨context, cache, false⟩ : Progress).context.Quiet from quiet)
      have pass : ∀ bound,
          evaluator.resolvePass bound index stored context cache = some progress := passed
      cases changed : progress.changed with
      | true =>
          obtain ⟨result, ended⟩ := inductionHypothesis (made + 1) quietLast progress.cache
          refine ⟨result, fun bound => ?_⟩
          rw [resolveAfter, pass bound]
          simp [changed, ended bound]
      | false =>
          refine ⟨(⟨made + 1, true⟩, progress.context, progress.cache), fun bound => ?_⟩
          rw [resolveAfter, pass bound]
          simp only [Option.bind_eq_bind, Option.bind_some, changed]
          rfl

end Evaluator

/-! ## Starting -/

namespace Interpreter

variable {interpreter : Interpreter}

/-- An app that has a fault is not started: the session stays as it is. -/
theorem start_of_fault
    {app : App}
    {error : AppError}
    (fault : app.Fault error)
    (bound : Nat)
    (session : Session) :
    interpreter.start bound app session = some (.error error, session) := by
  rw [start, fault.validate]

/-- A valid app is started by the event of its main screen. -/
theorem exists_start_of_valid
    {app : App}
    (valid : app.Valid)
    {session : Session}
    (fresh : session.screens = []) :
    ∃ (report : Report) (context : Context) (paths : Path.Cache), ∀ bound,
      interpreter.start bound app session =
        ((interpreter.outerFrame none bound).handle?
          ((app.screen? app.mainScreen).bind Screen.onAppear)
          (session.showing app context paths)).map fun final => (.ok report, final) := by
  have quiet : ({ bindings := app.bindings } : Context).Quiet := fun _ member => by cases member
  obtain ⟨⟨report, context, paths⟩, resolved⟩ :=
    interpreter.evaluator.exists_resolveAfter_of_quiet none session.shelf.entries 0
      interpreter.settings.iterationCap quiet session.paths
  refine ⟨report, context, paths, fun bound => ?_⟩
  have started : ({ session with context := { bindings := app.bindings } } : Session).resolve
      interpreter.evaluator bound none interpreter.settings.iterationCap =
        some (report, { session with context := context, paths := paths }) := by
    rw [Session.resolve, Evaluator.resolve, resolved bound]
    rfl
  have registered := Session.foldl_register_of_named valid.named
    (show ({ session with context := context, paths := paths } : Session).screens = [] from fresh)
  have event := Session.onAppear?_of_screens
    (show (session.showing app context paths).screens = _ from rfl) app.mainScreen
  rw [start, valid.validate, ← event, Option.map_eq_bind]
  simp only [started, Option.bind_eq_bind, Option.bind_some, registered]
  rfl

/-- The session in which a valid app was started knows what the app says of its screens. -/
theorem onAppear?_of_handle?
    (respects : ∀ entry ∈ interpreter.commands,
      entry.2.Respects (Session.Keeps fun before after => after.screens = before.screens))
    {app : App}
    {event : Option Node}
    {bound : Nat}
    {opened final : Session}
    (known : opened.screens = app.screens.map fun screen => (screen.id, screen))
    (handled : (interpreter.outerFrame none bound).handle? event opened = some final)
    (id : String) :
    final.onAppear? id = (app.screen? id).bind Screen.onAppear := by
  refine Session.onAppear?_of_screens (Eq.trans ?_ known) id
  cases event with
  | none => exact congrArg Session.screens (Option.some.inj handled).symm
  | some event =>
      exact Session.lasting_screens.closed.handleOuter respects none bound event opened final handled

/-- Exactly the valid apps are started.  What is reported of any other app is its fault, and the
session stays as it is, in every respect.  A valid app is started in every session that knows no
screen yet, by the event that the app gives to its main screen: if this event comes to an end, no
error is reported, and what the session knows of a screen is what the app says of the first screen
of that name. -/
theorem starts_exactly_valid
    (interpreter : Interpreter)
    (others : ∀ entry ∈ interpreter.commands, entry ∈ Command.builtin ∨
      entry.2.Respects (Session.Keeps fun before after => after.screens = before.screens))
    (app : App) :
    (app.validate = .ok () ↔ app.Valid) ∧
    (∀ error, app.validate = .error error ↔ app.Fault error) ∧
    (∀ error, app.Fault error → ∀ bound session,
      interpreter.launch bound app session = .error error ∧
        interpreter.start bound app session = some (.error error, session)) ∧
    (app.Valid → ∀ session : Session, session.screens = [] →
      ∃ (report : Report) (context : Context) (paths : Path.Cache), ∀ bound,
        let handled := (interpreter.outerFrame none bound).handle?
          ((app.screen? app.mainScreen).bind Screen.onAppear) (session.showing app context paths)
        interpreter.start bound app session = handled.map (fun final => (.ok report, final)) ∧
        ∀ final, handled = some final →
          interpreter.launch bound app session = .ok (some (report, final)) ∧
            ∀ id, final.onAppear? id = (app.screen? id).bind Screen.onAppear) := by
  refine ⟨App.validate_eq_ok_iff, fun error => App.validate_eq_error_iff, ?_, ?_⟩
  · intro error fault bound session
    have started : interpreter.start bound app session = some (.error error, session) :=
      start_of_fault fault bound session
    exact ⟨by rw [launch, started], started⟩
  · intro valid session fresh
    obtain ⟨report, context, paths, started⟩ := exists_start_of_valid valid fresh
    refine ⟨report, context, paths, fun bound => ⟨started bound, fun final ended => ⟨?_, ?_⟩⟩⟩
    · rw [launch, started bound, ended]
      rfl
    · exact onAppear?_of_handle? (Session.lasting_screens.closed.registered others) rfl ended

/-- Two screens, of which the main one logs a line when it is shown; an app whose third screen takes
the name of the first is not started. -/
theorem starts_exactly_valid_of_two_screens :
    let screens : List Screen :=
      [⟨"home", some (.mapping [("log", .string "hello")]), []⟩, ⟨"detail", some .null, []⟩]
    let app : App := ⟨"home", screens, []⟩
    let crowded : App := ⟨"none", screens ++ [⟨"home", none, []⟩, ⟨"", none, []⟩], []⟩
    ("log", Command.log) ∈ ({} : Interpreter).commands ∧ app.Valid ∧
      (∃ report final, Interpreter.launch {} 2 app {} = .ok (some (report, final)) ∧
        final.lines = ["hello"] ∧ final.onAppear? "detail" = some .null ∧
        final.onAppear? "other" = none) ∧
      crowded.Fault (.duplicateScreen "home") ∧
      Interpreter.start {} 2 crowded {} = some (.error (.duplicateScreen "home"), {}) := by
  intro screens app crowded
  have exactly := starts_exactly_valid {} fun _ builtIn => .inl builtIn
  have valid : app.Valid := (exactly app).1.mp rfl
  have fault : crowded.Fault (.duplicateScreen "home") := ((exactly crowded).2.1 _).mp rfl
  obtain ⟨report, context, paths, started⟩ := (exactly app).2.2.2 valid {} rfl
  obtain ⟨starts, ends⟩ := started 2
  have logged : (Interpreter.start {} 2 app {}).map (fun result => result.2.lines) =
      some ["hello"] := by
    decide +kernel
  obtain ⟨result, finished, lines⟩ := Option.map_eq_some_iff.mp logged
  obtain ⟨final, handled, rfl⟩ := Option.map_eq_some_iff.mp (starts.symm.trans finished)
  obtain ⟨launched, known⟩ := ends final handled
  exact ⟨by simp [Command.builtin], valid,
    ⟨report, final, launched, lines, (known "detail").trans rfl, (known "other").trans rfl⟩,
    fault, ((exactly crowded).2.2.1 _ fault 2 {}).2⟩

end Interpreter
end Storyboard
