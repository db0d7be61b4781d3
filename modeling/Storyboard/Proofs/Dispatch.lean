import Storyboard.Proofs.Command.Closure
import Storyboard.Proofs.Run
import Storyboard.Proofs.Web.Accounts

/-!
# Requests in a run

Whatever a session does, its requests move as an exchange allows, and each outcome that
it counts is one that it collected.  So the books of its exchange balance after any
run, and no request waits when the session has waited for all.

The record of an exchange tells what was collected, with the number of its request and
with what was to be done.  That a session applies just what it collects, at that moment,
with those callbacks and in the loop row of that request, is `Interpreter.Collects` in
`Storyboard.Proofs.Callbacks`; `exists_collects_perform` proves it of every step that
collects.
-/

namespace Storyboard
namespace Web
namespace Exchange

/-- An exchange becomes another by moves, among which a number of outcomes are collected.  It says
what is taken out of the exchange, not what is done about it. -/
def Plays (count : Nat) (exchange after : Exchange) : Prop :=
  (∃ moves : List Move, after = moves.foldl move exchange) ∧
    after.ledger.collected.length = exchange.ledger.collected.length + count

namespace Plays

theorem refl (exchange : Exchange) : Plays 0 exchange exchange := ⟨⟨[], rfl⟩, rfl⟩

theorem trans
    {count others : Nat}
    {first second third : Exchange}
    (earlier : Plays count first second)
    (later : Plays others second third) :
    Plays (count + others) first third := by
  obtain ⟨⟨moves, rfl⟩, collected⟩ := earlier
  obtain ⟨⟨rest, rfl⟩, collectedLater⟩ := later
  refine ⟨⟨moves ++ rest, (List.foldl_append).symm⟩, ?_⟩
  rw [collectedLater, collected, Nat.add_assoc]

theorem reachable
    {count : Nat}
    {exchange after : Exchange}
    (plays : Plays count exchange after)
    (reachable : exchange.Reachable) :
    after.Reachable := by
  obtain ⟨⟨moves, rfl⟩, _⟩ := plays
  obtain ⟨online, earlier, rfl⟩ := reachable
  exact ⟨online, earlier ++ moves, (List.foldl_append).symm⟩

end Plays

theorem plays_issue
    (exchange : Exchange)
    (request : Request)
    (pending : Pending) :
    Plays 0 exchange (exchange.issue request pending) :=
  ⟨⟨[.issue request pending], rfl⟩, rfl⟩

theorem plays_finish
    (exchange : Exchange)
    (id : Nat)
    (outcome : Outcome) :
    Plays 0 exchange (exchange.finish id outcome) := by
  refine ⟨⟨[.finish id outcome], rfl⟩, ?_⟩
  unfold finish
  split <;> rfl

theorem plays_receive
    (exchange : Exchange)
    (arrivals : List (Nat × Outcome)) :
    Plays 0 exchange (exchange.receive arrivals) := by
  induction arrivals generalizing exchange with
  | nil => exact .refl exchange
  | cons arrival rest inductionHypothesis =>
      have first := exchange.plays_finish arrival.1 arrival.2
      exact first.trans (inductionHypothesis (exchange.finish arrival.1 arrival.2))

/-- A collection notes one outcome more. -/
theorem plays_of_collect?_eq_some
    {exchange after : Exchange}
    {pending : Pending}
    {outcome : Outcome}
    (collected : exchange.collect? = some (pending, outcome, after)) :
    Plays 1 exchange after := by
  refine ⟨⟨[.collect], by simp [move, collected]⟩, ?_⟩
  have counted : ∀ arrived : List (Nat × Outcome),
      exchange.collectFrom arrived = some (pending, outcome, after) →
        after.ledger.collected.length = exchange.ledger.collected.length + 1 := by
    intro arrived
    induction arrived with
    | nil => exact fun impossible => by cases impossible
    | cons entry rest inductionHypothesis =>
        obtain ⟨id, first⟩ := entry
        cases found : exchange.pending.lookup id with
        | none => simpa [collectFrom, found] using inductionHypothesis
        | some own =>
            intro taken
            simp only [collectFrom, found, Option.some.injEq, Prod.mk.injEq] at taken
            obtain ⟨_, _, rfl⟩ := taken
            simp
  exact counted exchange.arrived collected

end Exchange
end Web

namespace Session

/-- An operation that issues requests, if it does anything to them, and collects no outcome. -/
def Dispatches (operation : Session → Option Session) : Prop :=
  ∀ session result : Session, operation session = some result →
    Web.Exchange.Plays 0 session.exchange result.exchange

/-- An operation that leaves requests alone. -/
theorem dispatches_of_unchanged
    {operation : Session → Option Session}
    (unchanged : ∀ session result : Session, operation session = some result →
      result.exchange = session.exchange) :
    Dispatches operation := by
  intro session result finished
  rw [unchanged session result finished]
  exact .refl _

theorem Dispatches.andThen
    {first second : Session → Option Session}
    (dispatchesFirst : Dispatches first)
    (dispatchesSecond : Dispatches second) :
    Dispatches fun session => first session >>= second := by
  intro session result finished
  obtain ⟨middle, started, finished⟩ := Option.bind_eq_some_iff.mp finished
  exact (dispatchesFirst session middle started).trans
    (dispatchesSecond middle result finished)

theorem exchange_of_update
    {bound : Nat}
    {update : Update}
    {session result : Session}
    (updated : session.update bound update = some result) :
    result.exchange = session.exchange := by
  obtain ⟨_, _, rfl⟩ := Option.map_eq_some_iff.mp updated
  rfl

theorem exchange_of_assign
    {evaluator : Evaluator}
    {bound : Nat}
    {index : Option Nat}
    {path : String}
    {value : Node}
    {session : Session}
    {written : Except PathError Unit × Session}
    (assigned : session.assign evaluator bound index path value = some written) :
    written.2.exchange = session.exchange := by
  obtain ⟨_, _, rfl⟩ := Option.map_eq_some_iff.mp assigned
  rfl

theorem exchange_of_resolve
    {evaluator : Evaluator}
    {bound : Nat}
    {index : Option Nat}
    {cap : Nat}
    {session : Session}
    {resolved : Report × Session}
    (finished : session.resolve evaluator bound index cap = some resolved) :
    resolved.2.exchange = session.exchange := by
  obtain ⟨_, _, rfl⟩ := Option.map_eq_some_iff.mp finished
  rfl

theorem dispatches_update
    (bound : Nat)
    (update : Update) :
    Dispatches fun session => session.update bound update :=
  dispatches_of_unchanged fun _ _ => exchange_of_update

theorem dispatches_assign
    (evaluator : Evaluator)
    (bound : Nat)
    (index : Option Nat)
    (path : String)
    (value : Node) :
    Dispatches fun session =>
      (session.assign evaluator bound index path value).map Prod.snd := by
  refine dispatches_of_unchanged fun session result finished => ?_
  obtain ⟨written, assigned, rfl⟩ := Option.map_eq_some_iff.mp finished
  exact exchange_of_assign assigned

theorem dispatches_during
    (frame : Frame)
    (name : String)
    (value : Node)
    {body : Session → Option Session}
    (dispatches : Dispatches body) :
    Dispatches (frame.during name value body) := by
  intro session result finished
  have sets := dispatches_update frame.bound ⟨name, some value⟩
  have restores := dispatches_update frame.bound ⟨name, session.context.get? name⟩
  exact (sets.andThen (dispatches.andThen restores)) session result finished

/-- Built-in commands issue requests and do nothing else to them. -/
theorem closed_dispatches : Closed Dispatches where
  fail _ _ impossible := by cases impossible
  stay := dispatches_of_unchanged fun _ _ same => by cases same; rfl
  andThen first second := first.andThen second
  evaluate evaluator index node next each := by
    intro session result finished
    have later := each (session.evaluate evaluator index node).1
      (session.evaluate evaluator index node).2 result finished
    rw [exchange_evaluate] at later
    exact later
  assign := dispatches_assign
  during frame name value body := dispatches_during frame name value
  note _ := dispatches_of_unchanged fun _ _ same => by cases same; rfl
  push id _ next each := by
    intro session result finished
    exact each (session.onAppear? id) (session.push id) result finished
  pop := dispatches_of_unchanged fun _ _ same => by cases same; rfl
  popToRoot := dispatches_of_unchanged fun _ _ same => by cases same; rfl
  store _ _ := dispatches_of_unchanged fun _ _ same => by cases same; rfl
  log _ := dispatches_of_unchanged fun _ _ same => by cases same; rfl
  issue request pending session result same := by
    cases same
    exact session.exchange.plays_issue request pending

end Session

namespace Interpreter

variable {interpreter : Interpreter}

/-- The outcomes that are counted are those that are collected, by induction on their number.  What
is collected is handed to `Frame.complete` as it is, in the loop row of its request. -/
theorem plays_drainFrom
    (respects : ∀ entry ∈ interpreter.commands, entry.2.Respects Session.Dispatches)
    (bound : Nat)
    {limit count : Nat}
    {session : Session}
    {result : Nat × Session}
    (drained : interpreter.drainFrom bound limit count session = some result) :
    ∃ more, result.1 = count + more ∧
      Web.Exchange.Plays more session.exchange result.2.exchange := by
  induction limit generalizing count session with
  | zero =>
      rcases drainFrom_cases drained with ⟨_, rfl⟩ | ⟨_, _, _, _, _, _, impossible, _⟩
      · exact ⟨0, rfl, .refl _⟩
      · cases impossible
  | succ limit inductionHypothesis =>
      rcases drainFrom_cases drained with
        ⟨_, rfl⟩ | ⟨pending, outcome, exchange, fewer, middle, collected, same, completed, rest⟩
      · exact ⟨0, rfl, .refl _⟩
      · obtain rfl := Nat.succ.inj same
        have taking := Web.Exchange.plays_of_collect?_eq_some collected
        have completing : Web.Exchange.Plays 0 exchange middle.exchange :=
          Session.closed_dispatches.completeOuter respects pending.index bound pending outcome
            { session with exchange := exchange } middle completed
        obtain ⟨more, counted, later⟩ := inductionHypothesis rest
        refine ⟨1 + more, ?_, (taking.trans completing).trans later⟩
        rw [counted, Nat.add_assoc]

/-- A session that has waited has collected what it counted, and no request waits any more. -/
theorem plays_settleFrom
    (respects : ∀ entry ∈ interpreter.commands, entry.2.Respects Session.Dispatches)
    (network : Web.Network)
    (bound : Nat)
    {turns count : Nat}
    {session : Session}
    {result : Nat × Session}
    (settled : interpreter.settleFrom (fun exchange => exchange.receive (network exchange)) bound
      turns count session = some result) :
    (∃ more, result.1 = count + more ∧
      Web.Exchange.Plays more session.exchange result.2.exchange) ∧
      result.2.exchange.inFlight = 0 := by
  induction turns generalizing count session with
  | zero =>
      obtain ⟨drained, first, ⟨waited, rfl⟩ | ⟨_, impossible, _⟩⟩ := settleFrom_cases settled
      · exact ⟨plays_drainFrom respects bound first, waited⟩
      · cases impossible
  | succ turns inductionHypothesis =>
      obtain ⟨drained, first, ⟨waited, rfl⟩ | ⟨fewer, same, rest⟩⟩ := settleFrom_cases settled
      · exact ⟨plays_drainFrom respects bound first, waited⟩
      · obtain rfl := Nat.succ.inj same
        obtain ⟨more, sum, plays⟩ := plays_drainFrom respects bound first
        obtain ⟨⟨others, sumLater, later⟩, waited⟩ := inductionHypothesis rest
        have arriving := drained.2.exchange.plays_receive (network drained.2.exchange)
        refine ⟨⟨more + others, ?_, plays.trans ?_⟩, waited⟩
        · rw [sumLater, sum, Nat.add_assoc]
        · exact Nat.zero_add others ▸ arriving.trans later

/-- A step counts the outcomes that it collects. -/
theorem plays_perform
    (respects : ∀ entry ∈ interpreter.commands, entry.2.Respects Session.Dispatches)
    (bound : Nat)
    {step : Step}
    {session : Session}
    {result : Nat × Session}
    (performed : interpreter.perform bound step session = some result) :
    Web.Exchange.Plays result.1 session.exchange result.2.exchange := by
  cases step with
  | event index event =>
      obtain ⟨after, handled, rfl⟩ := Option.map_eq_some_iff.mp performed
      exact Session.closed_dispatches.handleOuter respects index bound event session after handled
  | command index command =>
      obtain ⟨after, executed, rfl⟩ := Option.map_eq_some_iff.mp performed
      exact Session.closed_dispatches.execute respects index bound command session after executed
  | set name value =>
      obtain ⟨after, updated, rfl⟩ := Option.map_eq_some_iff.mp performed
      exact Session.dispatches_update bound ⟨name, some value⟩ session after updated
  | remove name =>
      obtain ⟨after, updated, rfl⟩ := Option.map_eq_some_iff.mp performed
      exact Session.dispatches_update bound ⟨name, none⟩ session after updated
  | assign index path value =>
      obtain ⟨written, assigned, rfl⟩ := Option.map_eq_some_iff.mp performed
      exact Session.exchange_of_assign assigned ▸ .refl _
  | resolve index cap =>
      obtain ⟨resolved, finished, rfl⟩ := Option.map_eq_some_iff.mp performed
      exact Session.exchange_of_resolve finished ▸ .refl _
  | drain =>
      obtain ⟨more, counted, plays⟩ := plays_drainFrom respects bound performed
      rw [Nat.zero_add] at counted
      exact counted ▸ plays
  | settle network =>
      obtain ⟨⟨more, counted, plays⟩, _⟩ := plays_settleFrom respects network bound performed
      rw [Nat.zero_add] at counted
      exact counted ▸ plays
  | collect =>
      simp only [perform, collect] at performed
      cases collected : session.exchange.collect? with
      | none =>
          rw [collected] at performed
          obtain rfl := Option.some.inj performed
          exact .refl _
      | some taken =>
          obtain ⟨pending, outcome, exchange⟩ := taken
          rw [collected] at performed
          obtain ⟨after, completed, rfl⟩ := Option.map_eq_some_iff.mp performed
          have taking := Web.Exchange.plays_of_collect?_eq_some collected
          exact taking.trans (Session.closed_dispatches.completeOuter respects pending.index bound
            pending outcome { session with exchange := exchange } after completed)
  | arrive id outcome =>
      obtain rfl := Option.some.inj performed
      exact session.exchange.plays_finish id outcome
  | connect online =>
      obtain rfl := Option.some.inj performed
      exact ⟨⟨[.connect online], rfl⟩, rfl⟩
  | observe | unobserve =>
      obtain rfl := Option.some.inj performed
      exact .refl _

/-- The step lemma along a run. -/
theorem plays_run
    (respects : ∀ entry ∈ interpreter.commands, entry.2.Respects Session.Dispatches)
    (bound : Nat)
    {steps : List Step}
    {session : Session}
    {result : Nat × Session}
    (ran : interpreter.run bound steps session = some result) :
    Web.Exchange.Plays result.1 session.exchange result.2.exchange := by
  induction steps generalizing session result with
  | nil =>
      obtain rfl := Option.some.inj ran
      exact .refl _
  | cons step rest inductionHypothesis =>
      obtain ⟨middle, last, performed, others, rfl⟩ := exists_of_run_cons ran
      have later : Web.Exchange.Plays last.1 middle.2.exchange last.2.exchange :=
        inductionHypothesis others
      exact (plays_perform respects bound performed).trans later

/-- However a session and the network take turns, no request is lost, answered twice or taken for
another.  The outcomes that drains and waits count are those that were collected, so with the
requests that wait they make up all that were issued.  Once a session has waited, none waits.

`Web.Exchange.Orderly` is about the outcomes on record as collected.  These are the outcomes that
were applied, each with the callbacks and in the loop row on record for it: `Interpreter.Collects`
in `Storyboard.Proofs.Callbacks` lists what a step applies, and by its field `noted` the step puts
that list on record and nothing else. -/
theorem orderly_of_run
    (interpreter : Interpreter)
    (bound : Nat)
    (steps : List Step)
    (start : Session)
    (commands : ∀ entry ∈ interpreter.commands,
      entry ∈ Command.builtin ∨ entry.2.Respects Session.Dispatches)
    (reachable : start.exchange.Reachable)
    (total : Nat)
    (final : Session)
    (ran : interpreter.run bound steps start = some (total, final)) :
    final.exchange.Reachable ∧ final.exchange.Orderly ∧
      start.exchange.ledger.collected.length + total + final.exchange.inFlight =
        final.exchange.ledger.issued.length ∧
      (∀ network count waited,
        interpreter.perform bound (.settle network) final = some (count, waited) →
          waited.exchange.inFlight = 0) ∧
      ∀ transport count waited,
        interpreter.settle transport bound final = some (count, waited) →
          waited.exchange.inFlight = 0 := by
  have respects := Session.closed_dispatches.registered commands
  have plays : Web.Exchange.Plays total start.exchange final.exchange :=
    plays_run respects bound ran
  have reachableFinal := plays.reachable reachable
  have orderly := reachableFinal.balanced.orderly
  have waits : ∀ network count waited,
      interpreter.perform bound (.settle network) final = some (count, waited) →
        waited.exchange.inFlight = 0 := fun network count waited settled =>
    (plays_settleFrom respects network bound settled).2
  refine ⟨reachableFinal, orderly, ?_, waits, ?_⟩
  · rw [← plays.2]
    exact orderly.total
  · intro transport count waited settled
    rw [settle_eq_perform] at settled
    exact waits transport.network count waited settled

/-- Of two requests that were issued the second is answered first; the other fails while the session
waits for it. -/
theorem orderly_of_two_requests :
    let get : Web.Request := ⟨"https://a.example/", "GET", [], none⟩
    let callbacks : Web.Pending := ⟨{}, none, none⟩
    let start : Session :=
      { exchange := [.issue get callbacks, .issue get callbacks].foldl Web.Exchange.move {} }
    let network : Web.Network := fun _ => [(0, .error (.transport "reset"))]
    let steps : List Step := [.arrive 1 (.ok ⟨200, [], []⟩), .drain, .settle network]
    start.exchange.Reachable ∧
      ∃ final, Interpreter.run {} 1 steps start = some (2, final) ∧ final.exchange.Orderly ∧
        final.exchange.inFlight = 0 ∧ final.exchange.ledger.issued.length = 2 := by
  intro get callbacks start network steps
  have reachable : start.exchange.Reachable := ⟨true, _, rfl⟩
  have counted : (Interpreter.run {} 1 steps start).map
      (fun result => (result.1, result.2.exchange.inFlight)) = some (2, 0) := rfl
  obtain ⟨⟨total, final⟩, ran, same⟩ := Option.map_eq_some_iff.mp counted
  obtain ⟨rfl, waiting⟩ := Prod.mk.inj same
  obtain ⟨_, orderly, balance, _⟩ := orderly_of_run {} 1 steps start
    (fun _ builtIn => Or.inl builtIn) reachable 2 final ran
  refine ⟨reachable, final, ran, orderly, waiting, ?_⟩
  have earlier : start.exchange.ledger.collected.length = 0 := rfl
  rw [← balance, waiting, earlier]

end Interpreter
end Storyboard
