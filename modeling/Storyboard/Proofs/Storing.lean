import Mathlib.Data.List.Basic
import Storyboard.Proofs.Starting
import Storyboard.Proofs.Tandem

/-!
# What a store is kept on

A shelf may be kept in memory or on a file, and the file may refuse any of its writes.
Nothing that a session or its host does depends on it: the same values are stored in the same
order, and all else ends alike.  A write that succeeds leaves the file with all that is on the
shelf, whatever became of the writes before.
-/

namespace Storyboard
namespace Shelf

/-- Store values one after another. -/
def setAll (shelf : Shelf) (stores : List (String × Node)) : Shelf :=
  stores.foldl (fun shelf store => shelf.set store.1 store.2) shelf

theorem setAll_append
    (shelf : Shelf)
    (stores others : List (String × Node)) :
    shelf.setAll (stores ++ others) = (shelf.setAll stores).setAll others :=
  List.foldl_append

theorem setAll_singleton
    (shelf : Shelf)
    (key : String)
    (value : Node) :
    shelf.setAll [(key, value)] = shelf.set key value := rfl

/-- What is on a shelf depends on what was stored alone. -/
theorem entries_setAll
    (shelf : Shelf)
    (stores : List (String × Node)) :
    (shelf.setAll stores).entries =
      stores.foldl (fun table store => Table.insert table store.1 store.2) shelf.entries := by
  induction stores generalizing shelf with
  | nil => rfl
  | cons store rest inductionHypothesis => exact inductionHypothesis (shelf.set store.1 store.2)

/-- A file counts the writes that are tried, and its permits stay. -/
theorem exists_backing_setAll
    {shelf : Shelf}
    {file : Backing}
    (kept : shelf.backing = some file)
    (stores : List (String × Node)) :
    ∃ content, (shelf.setAll stores).backing =
      some { file with content := content, tries := file.tries + stores.length } := by
  induction stores generalizing shelf file with
  | nil => exact ⟨file.content, kept⟩
  | cons store rest inductionHypothesis =>
      have saved : (shelf.set store.1 store.2).backing =
          some (file.save (render (shelf.set store.1 store.2).entries)) := by
        simp only [set, kept, Option.map_some]
      obtain ⟨content, backing⟩ := inductionHypothesis saved
      refine ⟨content, backing.trans ?_⟩
      simp only [Backing.save, List.length_cons, Nat.add_assoc, Nat.add_comm rest.length]

/-- After a write that is permitted, the file holds all that is on the shelf. -/
theorem content_of_permits
    {shelf : Shelf}
    {file : Backing}
    (kept : shelf.backing = some file)
    {stores : List (String × Node)}
    (permitted : file.permits (file.tries + stores.length) = true)
    (key : String)
    (value : Node) :
    (shelf.setAll (stores ++ [(key, value)])).backing.bind Backing.content =
      some (render (shelf.setAll (stores ++ [(key, value)])).entries) := by
  obtain ⟨content, backing⟩ := exists_backing_setAll kept stores
  rw [setAll_append, setAll_singleton]
  simp only [set, backing, Option.map_some, Option.bind_some, Backing.save, permitted, if_true]

end Shelf

namespace Session

/-- A session whose store is kept on a file, or in memory. -/
def backed (session : Session) (backing : Option Backing) : Session :=
  { session with shelf := { session.shelf with backing := backing } }

namespace Operation

/-- An operation with its value changed. -/
def map {α β : Type} (f : α → β) (operation : Operation α) : Operation β :=
  operation.andThen fun value => .done (f value)

end Operation

/-- An operation that is given twice, and does the same whatever the shelf is kept on: the same
values are stored, and all else ends alike. -/
def Indifferent (α : Type) (operation other : Operation α) : Prop :=
  operation = other ∧ ∀ session, ∃ stores : List (String × Node), ∀ shelf : Shelf,
    shelf.entries = session.shelf.entries →
      operation { session with shelf := shelf } =
        (operation session).map fun result =>
          (result.1, { result.2 with shelf := shelf.setAll stores })

/-- An operation that stores nothing. -/
theorem indifferent_of_reads
    {α : Type}
    {operation : Operation α}
    (reads : ∀ (session : Session) (shelf : Shelf), shelf.entries = session.shelf.entries →
      operation { session with shelf := shelf } =
        (operation session).map fun result => (result.1, { result.2 with shelf := shelf })) :
    Indifferent α operation operation :=
  ⟨rfl, fun session => ⟨[], reads session⟩⟩

theorem Indifferent.andThen
    {α β : Type}
    {first other : Operation α}
    {second another : α → Operation β}
    (firsts : Indifferent α first other)
    (seconds : ∀ value, Indifferent β (second value) (another value)) :
    Indifferent β (first.andThen second) (other.andThen another) := by
  obtain ⟨rfl, alike⟩ := firsts
  obtain rfl : second = another := funext fun value => (seconds value).1
  refine ⟨rfl, fun session => ?_⟩
  obtain ⟨stores, alikeFirst⟩ := alike session
  have own : first session = _ := alikeFirst session.shelf rfl
  unfold Operation.andThen
  cases done : first session with
  | none =>
      refine ⟨[], fun shelf same => ?_⟩
      rw [alikeFirst shelf same, done]
      rfl
  | some middle =>
      obtain ⟨rest, alikeSecond⟩ := (seconds middle.1).2 middle.2
      rw [done, Option.map_some, Option.some.injEq] at own
      have stored : middle.2.shelf = session.shelf.setAll stores :=
        congrArg (fun result : α × Session => result.2.shelf) own
      refine ⟨stores ++ rest, fun shelf same => ?_⟩
      have entries : (shelf.setAll stores).entries = middle.2.shelf.entries := by
        rw [stored, Shelf.entries_setAll, Shelf.entries_setAll, same]
      rw [alikeFirst shelf same, done, Shelf.setAll_append]
      exact alikeSecond (shelf.setAll stores) entries

/-- A value is changed alike. -/
theorem Indifferent.map
    {α β : Type}
    {operation other : Operation α}
    (indifferent : Indifferent α operation other)
    (f : α → β) :
    Indifferent β (.map f operation) (.map f other) :=
  indifferent.andThen fun _ => indifferent_of_reads fun _ _ _ => rfl

/-- No operation of a session looks at what the shelf is kept on. -/
theorem tandem_indifferent : Tandem Indifferent where
  fail := indifferent_of_reads fun _ _ _ => rfl
  done _ := indifferent_of_reads fun _ _ _ => rfl
  andThen := Indifferent.andThen
  compute f := indifferent_of_reads fun session shelf same => by
    dsimp only [Operation.compute]
    rw [same, Option.map_map]
    rfl
  transact _ := indifferent_of_reads fun _ _ _ => rfl
  appears _ := indifferent_of_reads fun _ _ _ => rfl
  edit edit _ := by
    cases edit with
    | store key value => exact ⟨rfl, fun _ => ⟨[(key, value)], fun _ _ => rfl⟩⟩
    | note | push | pop | popToRoot | log | issue => exact indifferent_of_reads fun _ _ _ => rfl

/-- The screens of an app are made known and shown wherever the store is. -/
theorem indifferent_openedBy
    (app : App) :
    Indifferent Unit (fun session => some ((), session.openedBy app))
      (fun session => some ((), session.openedBy app)) := by
  refine indifferent_of_reads fun session shelf _ => ?_
  unfold openedBy
  rw [foldl_register, foldl_register]
  rfl

end Session

/-! ## Hosts -/

/-- What a host asks of a session. -/
inductive Call where
  /-- To make a step. -/
  | step (step : Step)
  /-- To evaluate a node. -/
  | evaluate (index : Option Nat) (node : Node)
  /-- To write a value at a path given as text. -/
  | assign (index : Option Nat) (path : String) (value : Node)
  /-- To resolve variables in at most a number of passes. -/
  | resolve (index : Option Nat) (cap : Nat)
  /-- To start an app. -/
  | start (app : App)

/-- What a host is told. -/
inductive Answer where
  /-- The number of outcomes that were collected in a step. -/
  | collected (count : Nat)
  /-- The value of a node. -/
  | value (node : Node)
  /-- Whether a value was written. -/
  | written (outcome : Except PathError Unit)
  /-- What was resolved. -/
  | resolved (report : Report)
  /-- Whether an app was started, and with what. -/
  | started (outcome : Except AppError Report)

namespace Interpreter

open Session (Operation Indifferent)

/-- Answer a call. -/
def answer (interpreter : Interpreter) (bound : Nat) : Call → Operation Answer
  | .step step => .map .collected (interpreter.perform bound step)
  | .evaluate index node =>
      .map .value fun session => some (session.evaluate interpreter.evaluator index node)
  | .assign index path value =>
      .map .written fun session => session.assign interpreter.evaluator bound index path value
  | .resolve index cap =>
      .map .resolved fun session => session.resolve interpreter.evaluator bound index cap
  | .start app => .map .started (interpreter.start bound app)

/-- Answer calls one after another. -/
def answerAll (interpreter : Interpreter) (bound : Nat) : List Call → Operation (List Answer)
  | [] => .done []
  | call :: rest =>
      (interpreter.answer bound call).andThen fun answer =>
        .map (answer :: ·) (interpreter.answerAll bound rest)

section BuiltIn

variable {interpreter : Interpreter}
  (builtIn : ∀ entry ∈ interpreter.commands, entry ∈ Command.builtin)

include builtIn

theorem pairs_indifferent :
    ∀ entry ∈ interpreter.commands, entry.2.Pairs Indifferent (id entry.2) :=
  fun entry member => Session.tandem_indifferent.pairs_builtin entry (builtIn entry member)

theorem indifferent_perform
    (bound : Nat)
    (step : Step) :
    Indifferent Nat (interpreter.perform bound step) (interpreter.perform bound step) := by
  have performs := Session.tandem_indifferent.perform (pairs_indifferent builtIn) bound step
  rwa [withTwins_id] at performs

theorem indifferent_start
    (bound : Nat)
    (app : App) :
    Indifferent (Except AppError Report) (interpreter.start bound app)
      (interpreter.start bound app) := by
  cases validated : app.validate with
  | error error =>
      have refused : interpreter.start bound app = Operation.done (.error error) := by
        funext session
        rw [start, validated]
        rfl
      rw [refused]
      exact Session.tandem_indifferent.done _
  | ok valid =>
      rw [interpreter.start_eq validated]
      refine (Session.tandem_indifferent.compute _).andThen fun report => ?_
      have welcomes :=
        Session.tandem_indifferent.welcome (pairs_indifferent builtIn) bound app report
      rw [withTwins_id] at welcomes
      exact (Session.indifferent_openedBy app).andThen fun _ => welcomes

/-- A call is answered the same whatever the shelf is kept on. -/
theorem indifferent_answer
    (bound : Nat)
    (call : Call) :
    Indifferent Answer (interpreter.answer bound call) (interpreter.answer bound call) := by
  have tandem := Session.tandem_indifferent
  cases call with
  | step step => exact (indifferent_perform builtIn bound step).map Answer.collected
  | evaluate index node =>
      exact Indifferent.map (tandem.evaluate interpreter.evaluator index node) Answer.value
  | assign index path value =>
      exact Indifferent.map (tandem.assign interpreter.evaluator bound index path value)
        Answer.written
  | resolve index cap =>
      exact Indifferent.map (tandem.resolve interpreter.evaluator bound index cap) Answer.resolved
  | start app => exact (indifferent_start builtIn bound app).map Answer.started

/-- So are all calls, by induction on them. -/
theorem indifferent_answerAll
    (bound : Nat)
    (calls : List Call) :
    Indifferent (List Answer) (interpreter.answerAll bound calls)
      (interpreter.answerAll bound calls) := by
  induction calls with
  | nil => exact Session.tandem_indifferent.done []
  | cons call rest inductionHypothesis =>
      exact (indifferent_answer builtIn bound call).andThen fun answer =>
        inductionHypothesis.map (answer :: ·)

end BuiltIn

/-- Whatever its store is kept on, a session answers the same to the same calls, and it is left the
same but for the store: what was stored, and in which order, is the same too.  After every write
that succeeds, the file holds all that is on the shelf: every value that was stored so far, whether
its own write succeeded or not, each key in the place where it was first stored. -/
theorem answers_whatever_the_backing
    (interpreter : Interpreter)
    (builtIn : ∀ entry ∈ interpreter.commands, entry ∈ Command.builtin)
    (bound : Nat)
    (calls : List Call)
    (start : Session) :
    ∃ stores : List (String × Node), ∀ backing : Option Backing,
      let shelf := (start.backed backing).shelf
      interpreter.answerAll bound calls (start.backed backing) =
          (interpreter.answerAll bound calls start).map (fun result =>
            (result.1, { result.2 with shelf := shelf.setAll stores })) ∧
        ∀ file, backing = some file → ∀ earlier key value later,
          stores = earlier ++ (key, value) :: later →
            file.permits (file.tries + earlier.length) = true →
              let after := shelf.setAll (earlier ++ [(key, value)])
              after.backing.bind Backing.content = some (Shelf.render after.entries) ∧
                after.entries = (earlier ++ [(key, value)]).foldl
                  (fun table store => Table.insert table store.1 store.2) start.shelf.entries := by
  obtain ⟨-, alike⟩ := indifferent_answerAll builtIn bound calls
  obtain ⟨stores, same⟩ := alike start
  refine ⟨stores, fun backing => ⟨same _ rfl, ?_⟩⟩
  rintro file rfl earlier key value later - permitted
  exact ⟨Shelf.content_of_permits rfl permitted key value, Shelf.entries_setAll _ _⟩

/-- The first of two writes to a file is refused.  The answers are the same as without a file, and
after the second write the file holds both values. -/
theorem answers_after_refused_write :
    let store (key : String) (value : Node) : Call :=
      .step (.event none (.mapping
        [("Storage.set", .mapping [("key", .string key), ("value", value)])]))
    let calls : List Call :=
      [store "first" (.bool true), store "second" (.bool false),
       .evaluate none (.mapping [("Storage.get", .string "first")])]
    let file : Backing := { content := none, permits := fun tries => tries == 1 }
    ∃ kept final after, Interpreter.answerAll {} 2 calls {} =
        some ([.collected 0, .collected 0, .value (.bool true)], kept) ∧
      Interpreter.answerAll {} 2 calls (Session.backed {} (some file)) =
        some ([.collected 0, .collected 0, .value (.bool true)], final) ∧
      final.shelf.backing = some after ∧
      after.content =
        some (Shelf.render [("first", .bool true), ("second", .bool false)]) := by
  intro store calls file
  have inMemory : (Interpreter.answerAll {} 2 calls {}).map Prod.fst =
      some [.collected 0, .collected 0, .value (.bool true)] := rfl
  obtain ⟨⟨answers, kept⟩, ran, rfl⟩ := Option.map_eq_some_iff.mp inMemory
  obtain ⟨stores, alike⟩ := answers_whatever_the_backing {} (fun _ builtIn => builtIn) 2 calls {}
  obtain ⟨onFile, written⟩ := alike (some file)
  rw [ran, Option.map_some] at onFile
  have held : (Interpreter.answerAll {} 2 calls (Session.backed {} (some file))).map
      (fun result => (result.2.shelf.entries, result.2.shelf.backing.map Backing.tries)) =
        some ([("first", .bool true), ("second", .bool false)], some 2) := rfl
  rw [onFile, Option.map_some, Option.some.injEq, Prod.mk.injEq] at held
  obtain ⟨entries, tries⟩ := held
  obtain ⟨content, backing⟩ := Shelf.exists_backing_setAll
    (show (Session.backed {} (some file)).shelf.backing = some file from rfl) stores
  dsimp only at entries tries
  rw [backing, Option.map_some, Option.some.injEq, Nat.zero_add] at tries
  obtain ⟨first, ⟨key, value⟩, rfl⟩ := List.length_eq_two.mp tries
  obtain ⟨whole, -⟩ := written file rfl [first] key value [] rfl rfl
  refine ⟨kept, _, _, ran, onFile, backing, ?_⟩
  rw [List.singleton_append, backing, entries] at whole
  exact whole

end Interpreter
end Storyboard
