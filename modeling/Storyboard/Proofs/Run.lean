import Storyboard.Interpreter

/-!
# Runs of a session

A run is a list of steps that may follow one another in any order: what an app does,
what its host does with the variables, and what the network does meanwhile.  Outcomes
arrive one by one and in any order, be it between two steps or while the session waits
for them.
-/

namespace Storyboard
namespace Web

/-- What arrives from outside while a session waits, on sight of the requests on the way. -/
abbrev Network := Exchange → List (Nat × Outcome)

/-- Outcomes arrive one after another. -/
def Exchange.receive (exchange : Exchange) (arrivals : List (Nat × Outcome)) : Exchange :=
  arrivals.foldl (fun exchange arrival => exchange.finish arrival.1 arrival.2) exchange

/-- What a transport answers to the requests that are being sent, in the order of issue. -/
def Transport.network (transport : Transport) : Network := fun exchange =>
  answersTo exchange exchange.sending
where
  /-- The answers to requests, each given after the ones before it have arrived. -/
  answersTo (exchange : Exchange) : List (Nat × Request) → List (Nat × Outcome)
    | [] => []
    | (id, request) :: rest =>
        let outcome := transport exchange.sent request
        (id, outcome) :: answersTo (exchange.finish id outcome) rest

/-- What a transport delivers is what arrives from its network. -/
theorem Exchange.deliver_eq_receive
    (transport : Transport)
    (exchange : Exchange) :
    exchange.deliver transport = exchange.receive (transport.network exchange) := by
  have answered : ∀ (requests : List (Nat × Request)) (exchange : Exchange),
      requests.foldl (answer transport) exchange =
        exchange.receive (Transport.network.answersTo transport exchange requests) := by
    intro requests
    induction requests with
    | nil => exact fun _ => rfl
    | cons entry rest inductionHypothesis =>
        intro exchange
        exact inductionHypothesis (answer transport exchange entry)
  exact answered exchange.sending exchange

end Web

/-- One step of a run. -/
inductive Step where
  /-- An event is handled in a loop row or outside of all. -/
  | event (index : Option Nat) (event : Node)
  /-- A command is carried out in a loop row or outside of all. -/
  | command (index : Option Nat) (command : Node)
  /-- A variable is set. -/
  | set (name : String) (value : Node)
  /-- A variable is removed. -/
  | remove (name : String)
  /-- A value is written at a path given as text. -/
  | assign (index : Option Nat) (path : String) (value : Node)
  /-- Variables are resolved in at most a number of passes. -/
  | resolve (index : Option Nat) (cap : Nat)
  /-- The outcomes that have arrived are collected. -/
  | drain
  /-- The session waits until nothing is on the way. -/
  | settle (network : Web.Network)
  /-- The outcome that arrived first is collected, if there is one. -/
  | collect
  /-- The outcome of a request that is being sent arrives. -/
  | arrive (id : Nat) (outcome : Web.Outcome)
  /-- Requests can be sent from now on, or no longer. -/
  | connect (online : Bool)
  /-- An observer that only watches is registered. -/
  | observe
  /-- An observer is registered no longer. -/
  | unobserve (id : Nat)

namespace Interpreter

/-- Collect the outcome that arrived first, if there is one, and count it. -/
def collect (interpreter : Interpreter) (bound : Nat) (session : Session) :
    Option (Nat × Session) :=
  match session.exchange.collect? with
  | none => some (0, session)
  | some (pending, outcome, exchange) =>
      ((interpreter.outerFrame pending.index bound).complete pending outcome
        { session with exchange := exchange }).map (Prod.mk 1)

/-- Make one step, and count the outcomes that were collected in it. -/
def perform (interpreter : Interpreter) (bound : Nat) :
    Step → Session → Option (Nat × Session)
  | .event index event, session =>
      (interpreter.handle index bound event session).map (Prod.mk 0)
  | .command index command, session =>
      (interpreter.execute index bound command session).map (Prod.mk 0)
  | .set name value, session =>
      (session.update bound ⟨name, some value⟩).map (Prod.mk 0)
  | .remove name, session =>
      (session.update bound ⟨name, none⟩).map (Prod.mk 0)
  | .assign index path value, session =>
      (session.assign interpreter.evaluator bound index path value).map
        fun written => (0, written.2)
  | .resolve index cap, session =>
      (session.resolve interpreter.evaluator bound index cap).map
        fun resolved => (0, resolved.2)
  | .drain, session => interpreter.drain bound session
  | .settle network, session =>
      interpreter.settleFrom (fun exchange => exchange.receive (network exchange)) bound bound 0
        session
  | .collect, session => interpreter.collect bound session
  | .arrive id outcome, session =>
      some (0, { session with exchange := session.exchange.finish id outcome })
  | .connect online, session =>
      some (0, { session with exchange := { session.exchange with online := online } })
  | .observe, session =>
      some (0, { session with context := (session.context.observe Observer.watch).2 })
  | .unobserve id, session =>
      some (0, { session with context := session.context.unobserve id })

/-- All that a drain does: there is nothing to collect, or the outcome that arrived first is
collected, applied in the loop row of its request and counted, and the drain goes on. -/
theorem drainFrom_cases
    {interpreter : Interpreter}
    {bound limit count : Nat}
    {session : Session}
    {result : Nat × Session}
    (drained : interpreter.drainFrom bound limit count session = some result) :
    (session.exchange.collect? = none ∧ result = (count, session)) ∨
      ∃ pending outcome exchange fewer middle,
        session.exchange.collect? = some (pending, outcome, exchange) ∧ limit = fewer + 1 ∧
          (interpreter.outerFrame pending.index bound).complete pending outcome
            { session with exchange := exchange } = some middle ∧
          interpreter.drainFrom bound fewer (count + 1) middle = some result := by
  unfold drainFrom at drained
  cases collected : session.exchange.collect? with
  | none =>
      rw [collected] at drained
      exact Or.inl ⟨rfl, (Option.some.inj drained).symm⟩
  | some taken =>
      obtain ⟨pending, outcome, exchange⟩ := taken
      rw [collected] at drained
      cases limit with
      | zero => cases drained
      | succ fewer =>
          obtain ⟨middle, completed, rest⟩ := Option.bind_eq_some_iff.mp drained
          exact Or.inr ⟨pending, outcome, exchange, fewer, middle, rfl, rfl, completed, rest⟩

/-- All that waiting does: a drain, and unless no request waits any more, arrivals and the rest of
the wait. -/
theorem settleFrom_cases
    {interpreter : Interpreter}
    {arrive : Web.Exchange → Web.Exchange}
    {bound turns count : Nat}
    {session : Session}
    {result : Nat × Session}
    (settled : interpreter.settleFrom arrive bound turns count session = some result) :
    ∃ drained, interpreter.drainFrom bound bound count session = some drained ∧
      ((drained.2.exchange.inFlight = 0 ∧ result = drained) ∨
        ∃ fewer, turns = fewer + 1 ∧
          interpreter.settleFrom arrive bound fewer drained.1
            { drained.2 with exchange := arrive drained.2.exchange } = some result) := by
  unfold settleFrom at settled
  obtain ⟨drained, first, settled⟩ := Option.bind_eq_some_iff.mp settled
  refine ⟨drained, first, ?_⟩
  dsimp only at settled
  split at settled
  · next waited => exact Or.inl ⟨waited, (Option.some.inj settled).symm⟩
  · cases turns with
    | zero => cases settled
    | succ fewer => exact Or.inr ⟨fewer, rfl, settled⟩

/-- To wait for a transport is to wait for its network. -/
theorem settle_eq_perform
    (interpreter : Interpreter)
    (transport : Web.Transport)
    (bound : Nat)
    (session : Session) :
    interpreter.settle transport bound session =
      interpreter.perform bound (.settle transport.network) session := by
  have arrives : Web.Exchange.deliver transport =
      fun exchange => exchange.receive (transport.network exchange) := by
    funext exchange
    exact exchange.deliver_eq_receive transport
  rw [settle, arrives]
  rfl

/-- Make steps one after another, and count the outcomes that were collected. -/
def run (interpreter : Interpreter) (bound : Nat) :
    List Step → Session → Option (Nat × Session)
  | [], session => some (0, session)
  | step :: rest, session => do
      let (count, session) ← interpreter.perform bound step session
      let (others, session) ← run interpreter bound rest session
      return (count + others, session)

/-- A run makes its first step and then the others. -/
theorem run_cons
    (interpreter : Interpreter)
    (bound : Nat)
    (step : Step)
    (rest : List Step)
    (session : Session) :
    interpreter.run bound (step :: rest) session =
      (interpreter.perform bound step session).bind fun first =>
        (interpreter.run bound rest first.2).map fun last => (first.1 + last.1, last.2) := by
  rw [run]
  cases interpreter.perform bound step session with
  | none => rfl
  | some first =>
      cases others : interpreter.run bound rest first.2 <;> simp [others]

theorem exists_of_run_cons
    {interpreter : Interpreter}
    {bound : Nat}
    {step : Step}
    {rest : List Step}
    {session : Session}
    {result : Nat × Session}
    (ran : interpreter.run bound (step :: rest) session = some result) :
    ∃ first last, interpreter.perform bound step session = some first ∧
      interpreter.run bound rest first.2 = some last ∧
      result = (first.1 + last.1, last.2) := by
  rw [run_cons] at ran
  obtain ⟨first, performed, ran⟩ := Option.bind_eq_some_iff.mp ran
  obtain ⟨last, others, same⟩ := Option.map_eq_some_iff.mp ran
  exact ⟨first, last, performed, others, same.symm⟩

end Interpreter
end Storyboard
