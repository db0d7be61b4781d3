import Mathlib.Algebra.Order.BigOperators.Group.List
import Mathlib.Algebra.Order.Ring.Nat
import Storyboard.Proofs.Command.Spending
import Storyboard.Proofs.Run

/-!
# Networks that answer

While a request waits, its outcome has arrived or it is being sent, so that a network that
answers what is being sent always brings something to collect.
-/

namespace Storyboard
namespace Web

variable {weight : Node → Nat} {exchange : Exchange}

/-- A network that answers one of the requests that are being sent, if there are any. -/
def Network.Responsive (network : Network) : Prop :=
  ∀ exchange : Exchange, exchange.sending ≠ [] →
    ∃ arrival ∈ network exchange, arrival.1 ∈ ids exchange.sending

/-- A transport answers all requests that are being sent. -/
theorem Transport.responsive_network (transport : Transport) : transport.network.Responsive := by
  intro exchange sends
  unfold network
  cases waiting : exchange.sending with
  | nil => exact absurd waiting sends
  | cons entry rest =>
      refine ⟨(entry.1, transport exchange.sent entry.2), ?_, List.mem_cons_self⟩
      exact List.mem_cons_self

namespace Exchange

theorem arrived_finish_ne_nil
    (id : Nat)
    (outcome : Outcome)
    (arrived : exchange.arrived ≠ []) :
    (exchange.finish id outcome).arrived ≠ [] := by
  unfold finish
  split
  · exact arrived
  · simp

theorem arrived_receive_ne_nil
    (arrivals : List (Nat × Outcome))
    (arrived : exchange.arrived ≠ []) :
    (exchange.receive arrivals).arrived ≠ [] := by
  induction arrivals generalizing exchange with
  | nil => exact arrived
  | cons arrival rest inductionHypothesis =>
      exact inductionHypothesis (arrived_finish_ne_nil arrival.1 arrival.2 arrived)

/-- Something has arrived once an outcome comes for a request that is being sent. -/
theorem arrived_receive_of_mem
    {arrivals : List (Nat × Outcome)}
    {arrival : Nat × Outcome}
    (member : arrival ∈ arrivals)
    (sends : arrival.1 ∈ ids exchange.sending) :
    (exchange.receive arrivals).arrived ≠ [] := by
  induction arrivals generalizing exchange with
  | nil => cases member
  | cons first rest inductionHypothesis =>
      change ((exchange.finish first.1 first.2).receive rest).arrived ≠ []
      cases sent : exchange.sending.lookup first.1 with
      | some request =>
          refine arrived_receive_ne_nil rest ?_
          simp [finish, sent]
      | none =>
          have unchanged : exchange.finish first.1 first.2 = exchange := by simp [finish, sent]
          rw [unchanged]
          rcases List.mem_cons.mp member with rfl | later
          · obtain ⟨request, found⟩ := exists_lookup_of_mem_ids sends
            rw [sent] at found
            cases found
          · exact inductionHypothesis later sends

theorem pending_receive (arrivals : List (Nat × Outcome)) :
    (exchange.receive arrivals).pending = exchange.pending := by
  induction arrivals generalizing exchange with
  | nil => rfl
  | cons first rest inductionHypothesis =>
      exact inductionHypothesis.trans (exchange.pending_finish first.1 first.2)

theorem issued_finish
    (id : Nat)
    (outcome : Outcome) :
    (exchange.finish id outcome).ledger.issued = exchange.ledger.issued := by
  unfold finish
  split <;> rfl

theorem issued_receive (arrivals : List (Nat × Outcome)) :
    (exchange.receive arrivals).ledger.issued = exchange.ledger.issued := by
  induction arrivals generalizing exchange with
  | nil => rfl
  | cons first rest inductionHypothesis =>
      exact inductionHypothesis.trans (issued_finish first.1 first.2)

theorem Balanced.receive
    (balanced : exchange.Balanced)
    (arrivals : List (Nat × Outcome)) :
    (exchange.receive arrivals).Balanced := by
  induction arrivals generalizing exchange with
  | nil => exact balanced
  | cons first rest inductionHypothesis =>
      exact inductionHypothesis (balanced.finish first.1 first.2)

/-- In a balanced exchange there is nothing to collect only if nothing has arrived. -/
theorem Balanced.arrived_eq_nil_iff (balanced : exchange.Balanced) :
    exchange.arrived = [] ↔ exchange.collect? = none := by
  cases arrived : exchange.arrived with
  | nil => simp [collect?, arrived, collectFrom]
  | cons entry rest =>
      obtain ⟨pending, -, collected⟩ := balanced.collect?_eq arrived
      simp [collected]

/-- While a request waits and nothing has arrived, something is being sent. -/
theorem Balanced.sending_ne_nil
    (balanced : exchange.Balanced)
    (arrived : exchange.arrived = [])
    (waits : exchange.inFlight ≠ 0) :
    exchange.sending ≠ [] := by
  intro sends
  have none := balanced.waiting.length_eq
  simp only [sends, arrived, ids_nil, List.append_nil, List.length_nil, length_ids] at none
  exact waits none

/-- The events of a request that waits no longer weigh as much less. -/
theorem awaited_filter_le
    {pending : List (Nat × Pending)}
    {entry : Nat × Pending}
    (member : entry ∈ pending) :
    ((pending.filter fun other => other.1 != entry.1).map fun other =>
        other.2.callbacks.total weight).sum + entry.2.callbacks.total weight ≤
      (pending.map fun other => other.2.callbacks.total weight).sum := by
  have lighter : ∀ others : List (Nat × Pending),
      ((others.filter fun other => other.1 != entry.1).map fun other =>
        other.2.callbacks.total weight).sum ≤
      (others.map fun other => other.2.callbacks.total weight).sum := fun others =>
    (List.filter_sublist.map _).sum_le_sum fun _ _ => Nat.zero_le _
  induction pending with
  | nil => cases member
  | cons first rest inductionHypothesis =>
      rw [List.map_cons, List.sum_cons]
      rcases List.mem_cons.mp member with rfl | later
      · have others := lighter rest
        rw [List.filter_cons_of_neg (by simp)]
        omega
      · have others := inductionHypothesis later
        rw [List.filter_cons]
        split
        · rw [List.map_cons, List.sum_cons]
          omega
        · omega

end Exchange
end Web
end Storyboard
