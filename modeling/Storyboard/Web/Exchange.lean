import Storyboard.Web.Message

/-!
# Requests on the way

A request that was issued waits until its outcome is collected.  Meanwhile it is
being sent, or its outcome has arrived; outcomes are collected in the order in
which they arrive.
-/

namespace Storyboard
namespace Web

/-- The events that a request may cause. -/
structure Callbacks where
  /-- Handled after a response of success. -/
  onSuccess : Option Node := none
  /-- Handled after any other end. -/
  onError : Option Node := none
  /-- Handled last, in any case. -/
  onFinally : Option Node := none
  deriving Inhabited

/-- A field of a payload that is not `null`. -/
def presentField (payload : Node) (key : String) : Option Node :=
  (payload.get? key).filter fun node => !node.isNull

/-- The callbacks that a payload names. -/
def Callbacks.ofPayload (payload : Node) : Callbacks where
  onSuccess := presentField payload "onSuccess"
  onError := presentField payload "onError"
  onFinally := presentField payload "onFinally"

/-- What is to be done when a request ends. -/
structure Pending where
  /-- The events to handle. -/
  callbacks : Callbacks
  /-- The path to which the body of a response of success is written. -/
  target : Option String
  /-- The position of the loop row in which the request was issued. -/
  index : Option Nat
  deriving Inhabited

/-- What is on record about requests, in the order in which it happened. -/
structure Ledger where
  /-- Every request that was issued, with its number and what is to be done when it ends. -/
  issued : List (Nat × Request × Pending) := []
  /-- Every outcome that arrived, with the number and the request that it answers. -/
  answers : List (Nat × Request × Outcome) := []
  /-- Every outcome that was collected, with the number of its request and what was to be done. -/
  collected : List (Nat × Pending × Outcome) := []

/-- The requests that were issued and not yet collected. -/
structure Exchange where
  /-- What is to be done for each of them. -/
  pending : List (Nat × Pending) := []
  /-- Those that are being sent, in the order of issue. -/
  sending : List (Nat × Request) := []
  /-- The outcomes that have arrived, in the order of arrival. -/
  arrived : List (Nat × Outcome) := []
  /-- The number of the next request. -/
  nextId : Nat := 0
  /-- Whether requests can be sent at all. -/
  online : Bool := true
  /-- All requests that were sent, in order. -/
  sent : List Request := []
  /-- The record. -/
  ledger : Ledger := {}

/-- What answers a request, given all that were sent before. -/
abbrev Transport := List Request → Request → Outcome

namespace Exchange

/-- How many requests wait. -/
def inFlight (exchange : Exchange) : Nat := exchange.pending.length

/-- Issue a request.  When none can be sent, its outcome arrives at once. -/
def issue (exchange : Exchange) (request : Request) (pending : Pending) : Exchange :=
  let id := exchange.nextId
  { exchange with
    pending := exchange.pending ++ [(id, pending)]
    sending := if exchange.online then exchange.sending ++ [(id, request)] else exchange.sending
    arrived :=
      if exchange.online then exchange.arrived else exchange.arrived ++ [(id, .error .offline)]
    nextId := id + 1
    ledger :=
      { exchange.ledger with
        issued := exchange.ledger.issued ++ [(id, request, pending)]
        answers :=
          if exchange.online then exchange.ledger.answers
          else exchange.ledger.answers ++ [(id, request, .error .offline)] } }

/-- The outcome of a request that is being sent arrives. -/
def finish (exchange : Exchange) (id : Nat) (outcome : Outcome) : Exchange :=
  match exchange.sending.lookup id with
  | none => exchange
  | some request =>
      { exchange with
        sending := exchange.sending.filter fun entry => entry.1 != id
        arrived := exchange.arrived ++ [(id, outcome)]
        sent := exchange.sent ++ [request]
        ledger :=
          { exchange.ledger with
            answers := exchange.ledger.answers ++ [(id, request, outcome)] } }

/-- Let a transport answer one request. -/
def answer (transport : Transport) (exchange : Exchange) (entry : Nat × Request) : Exchange :=
  exchange.finish entry.1 (transport exchange.sent entry.2)

/-- Let a transport answer all requests that are being sent, in the order of issue. -/
def deliver (transport : Transport) (exchange : Exchange) : Exchange :=
  exchange.sending.foldl (answer transport) exchange

/-- Take the outcomes that arrived first until one belongs to a request that waits. -/
def collectFrom (exchange : Exchange) :
    List (Nat × Outcome) → Option (Pending × Outcome × Exchange)
  | [] => none
  | (id, outcome) :: rest =>
      match exchange.pending.lookup id with
      | some pending =>
          some (pending, outcome,
            { exchange with
              pending := exchange.pending.filter fun entry => entry.1 != id
              arrived := rest
              ledger :=
                { exchange.ledger with
                  collected := exchange.ledger.collected ++ [(id, pending, outcome)] } })
      | none => collectFrom exchange rest

/-- Take the outcome that arrived first, with what is to be done about it. -/
def collect? (exchange : Exchange) : Option (Pending × Outcome × Exchange) :=
  exchange.collectFrom exchange.arrived

/-- One more request waits once it is issued. -/
@[simp] theorem inFlight_issue (exchange : Exchange) (request : Request) (pending : Pending) :
    (exchange.issue request pending).inFlight = exchange.inFlight + 1 := by
  simp [inFlight, issue]

/-- Numbers are given out one after another. -/
@[simp] theorem nextId_issue (exchange : Exchange) (request : Request) (pending : Pending) :
    (exchange.issue request pending).nextId = exchange.nextId + 1 := rfl

/-- No request stops waiting because its outcome arrives. -/
@[simp] theorem pending_finish (exchange : Exchange) (id : Nat) (outcome : Outcome) :
    (exchange.finish id outcome).pending = exchange.pending := by
  unfold finish
  split <;> rfl

end Exchange
end Web
end Storyboard
