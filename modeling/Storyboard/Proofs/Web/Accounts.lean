import Mathlib.Data.List.Nodup
import Storyboard.Web.Exchange

/-!
# The accounts of an exchange

However requests are issued, sent, answered and collected, and in whatever order, the
books balance: each number that was given out belongs to a request that waits or to one
that was collected, never to both, and a request that waits is being sent or has one
outcome that arrived.  A request is collected with the outcome that answered it and
with what was to be done when it ends.
-/

namespace Storyboard
namespace Web

/-- The numbers of entries. -/
def ids {α : Type} (entries : List (Nat × α)) : List Nat := entries.map Prod.fst

section Ids

variable {α : Type}

@[simp] theorem ids_nil : ids ([] : List (Nat × α)) = [] := rfl

@[simp] theorem ids_cons
    (entry : Nat × α)
    (rest : List (Nat × α)) :
    ids (entry :: rest) = entry.1 :: ids rest := rfl

@[simp] theorem ids_append
    (first second : List (Nat × α)) :
    ids (first ++ second) = ids first ++ ids second :=
  List.map_append

@[simp] theorem length_ids (entries : List (Nat × α)) : (ids entries).length = entries.length :=
  List.length_map Prod.fst

theorem mem_ids
    {entries : List (Nat × α)}
    {entry : Nat × α}
    (member : entry ∈ entries) :
    entry.1 ∈ ids entries :=
  List.mem_map_of_mem member

theorem exists_mem_of_mem_ids
    {entries : List (Nat × α)}
    {id : Nat}
    (member : id ∈ ids entries) :
    ∃ value, (id, value) ∈ entries := by
  obtain ⟨entry, found, rfl⟩ := List.mem_map.mp member
  exact ⟨entry.2, found⟩

/-- Under a number that occurs once there is one entry. -/
theorem eq_of_mem_of_mem
    {entries : List (Nat × α)}
    (distinct : (ids entries).Nodup)
    {id : Nat}
    {value other : α}
    (member : (id, value) ∈ entries)
    (otherMember : (id, other) ∈ entries) :
    value = other := by
  induction entries with
  | nil => cases member
  | cons entry rest inductionHypothesis =>
      obtain ⟨absent, distinctRest⟩ := List.nodup_cons.mp distinct
      rcases List.mem_cons.mp member with rfl | later
      · rcases List.mem_cons.mp otherMember with same | otherLater
        · exact (Prod.mk.inj same).2.symm
        · exact absurd (mem_ids otherLater) absent
      · rcases List.mem_cons.mp otherMember with rfl | otherLater
        · exact absurd (mem_ids later) absent
        · exact inductionHypothesis distinctRest later otherLater

theorem mem_of_lookup_eq_some
    {entries : List (Nat × α)}
    {id : Nat}
    {value : α}
    (found : entries.lookup id = some value) :
    (id, value) ∈ entries := by
  obtain ⟨before, after, rfl, _⟩ := List.lookup_eq_some_iff.mp found
  exact List.mem_append_right before List.mem_cons_self

theorem exists_lookup_of_mem_ids
    {entries : List (Nat × α)}
    {id : Nat}
    (member : id ∈ ids entries) :
    ∃ value, entries.lookup id = some value := by
  obtain ⟨value, found⟩ := exists_mem_of_mem_ids member
  exact Option.isSome_iff_exists.mp (List.lookup_isSome_iff.mpr ⟨(id, value), found, by simp⟩)

/-- Taking an entry out leaves the others. -/
theorem perm_ids_filter
    {entries : List (Nat × α)}
    (distinct : (ids entries).Nodup)
    {id : Nat}
    (member : id ∈ ids entries) :
    (ids entries).Perm (id :: ids (entries.filter fun entry => entry.1 != id)) := by
  have filtered : ids (entries.filter fun entry => entry.1 != id) = (ids entries).erase id := by
    rw [distinct.erase_eq_filter, ids, ids, List.filter_map]
    rfl
  rw [filtered]
  exact List.perm_cons_erase member

theorem perm_append_right_comm
    (first second third : List Nat) :
    (first ++ second ++ third).Perm (first ++ third ++ second) := by
  rw [List.append_assoc, List.append_assoc]
  exact List.perm_append_comm.append_left first

end Ids

/-- What may happen to an exchange. -/
inductive Move where
  /-- A request is issued. -/
  | issue (request : Request) (pending : Pending)
  /-- The outcome of a request that is being sent arrives. -/
  | finish (id : Nat) (outcome : Outcome)
  /-- The outcome that arrived first is collected, if there is one. -/
  | collect
  /-- Requests can be sent from now on, or no longer. -/
  | connect (online : Bool)

namespace Exchange

/-- The exchange after a move. -/
def move (exchange : Exchange) : Move → Exchange
  | .issue request pending => exchange.issue request pending
  | .finish id outcome => exchange.finish id outcome
  | .collect =>
      match exchange.collect? with
      | none => exchange
      | some (_, _, after) => after
  | .connect online => { exchange with online := online }

/-- An exchange in which nothing has happened yet, after any moves in any order. -/
def Reachable (exchange : Exchange) : Prop :=
  ∃ (online : Bool) (moves : List Move), exchange = moves.foldl move { online := online }

/-- The books of an exchange agree with each other. -/
structure Balanced (exchange : Exchange) : Prop where
  /-- Numbers are given out in order. -/
  numbered : ids exchange.ledger.issued = List.range exchange.nextId
  /-- Each request that was issued was collected or waits, and not both. -/
  accounted :
    (ids exchange.ledger.collected ++ ids exchange.pending).Perm (List.range exchange.nextId)
  /-- Each request that waits is being sent or has an outcome that arrived, and not both. -/
  waiting : (ids exchange.pending).Perm (ids exchange.sending ++ ids exchange.arrived)
  /-- Each outcome that arrived was collected or has yet to be, and not both. -/
  answered :
    (ids exchange.ledger.answers).Perm
      (ids exchange.ledger.collected ++ ids exchange.arrived)
  /-- A request waits with what it was issued with. -/
  waitsOwn : ∀ id pending, (id, pending) ∈ exchange.pending →
    ∃ request, (id, request, pending) ∈ exchange.ledger.issued
  /-- The request that is being sent under a number was issued under it. -/
  sendsOwn : ∀ id request, (id, request) ∈ exchange.sending →
    ∃ pending, (id, request, pending) ∈ exchange.ledger.issued
  /-- The request that was answered under a number was issued under it. -/
  answersOwn : ∀ id request outcome, (id, request, outcome) ∈ exchange.ledger.answers →
    ∃ pending, (id, request, pending) ∈ exchange.ledger.issued
  /-- An outcome that has yet to be collected is the answer under its number. -/
  arrivedOwn : ∀ id outcome, (id, outcome) ∈ exchange.arrived →
    ∃ request, (id, request, outcome) ∈ exchange.ledger.answers
  /-- A request was collected with what it was issued with and with its answer. -/
  collectedOwn : ∀ id pending outcome, (id, pending, outcome) ∈ exchange.ledger.collected →
    (∃ request, (id, request, pending) ∈ exchange.ledger.issued) ∧
      ∃ request, (id, request, outcome) ∈ exchange.ledger.answers

namespace Balanced

theorem start (online : Bool) : Balanced { online := online } where
  numbered := rfl
  accounted := .refl []
  waiting := .refl []
  answered := .refl []
  waitsOwn _ _ member := by cases member
  sendsOwn _ _ member := by cases member
  answersOwn _ _ _ member := by cases member
  arrivedOwn _ _ member := by cases member
  collectedOwn _ _ _ member := by cases member

variable {exchange : Exchange}

/-- The numbers of the requests that wait are distinct. -/
theorem nodup_pending (balanced : exchange.Balanced) : (ids exchange.pending).Nodup :=
  (List.nodup_append.mp (balanced.accounted.nodup_iff.mpr List.nodup_range)).2.1

theorem nodup_sending (balanced : exchange.Balanced) : (ids exchange.sending).Nodup :=
  (List.nodup_append.mp (balanced.waiting.nodup_iff.mp balanced.nodup_pending)).1

theorem mem_sending_issue
    {request : Request}
    {pending : Pending}
    {entry : Nat × Request}
    (member : entry ∈ (exchange.issue request pending).sending) :
    entry ∈ exchange.sending ∨ entry = (exchange.nextId, request) := by
  cases online : exchange.online with
  | true => simpa [Exchange.issue, online] using member
  | false => exact Or.inl (by simpa [Exchange.issue, online] using member)

theorem mem_answers_issue
    {request : Request}
    {pending : Pending}
    {entry : Nat × Request × Outcome}
    (member : entry ∈ (exchange.issue request pending).ledger.answers) :
    entry ∈ exchange.ledger.answers ∨ entry = (exchange.nextId, request, .error .offline) := by
  cases online : exchange.online with
  | true => exact Or.inl (by simpa [Exchange.issue, online] using member)
  | false => simpa [Exchange.issue, online] using member

theorem mem_arrived_issue
    {request : Request}
    {pending : Pending}
    {entry : Nat × Outcome}
    (member : entry ∈ (exchange.issue request pending).arrived) :
    entry ∈ exchange.arrived ∨
      (entry.1, request, entry.2) ∈ (exchange.issue request pending).ledger.answers := by
  cases online : exchange.online with
  | true => exact Or.inl (by simpa [Exchange.issue, online] using member)
  | false =>
      have split : entry ∈ exchange.arrived ∨ entry = (exchange.nextId, .error .offline) := by
        simpa [Exchange.issue, online] using member
      rcases split with old | rfl
      · exact Or.inl old
      · exact Or.inr (by simp [Exchange.issue, online])

/-- No answer is taken back. -/
theorem answers_issue
    (request : Request)
    (pending : Pending)
    {entry : Nat × Request × Outcome}
    (member : entry ∈ exchange.ledger.answers) :
    entry ∈ (exchange.issue request pending).ledger.answers := by
  cases online : exchange.online <;> simp [Exchange.issue, online, member]

/-- The books balance after a request is issued. -/
theorem issue
    (balanced : exchange.Balanced)
    (request : Request)
    (pending : Pending) :
    (exchange.issue request pending).Balanced := by
  have accounted := balanced.accounted.append_right [exchange.nextId]
  have waiting := balanced.waiting.append_right [exchange.nextId]
  have answered := balanced.answered.append_right [exchange.nextId]
  have earlier : ∀ entry ∈ exchange.ledger.issued,
      entry ∈ (exchange.issue request pending).ledger.issued := fun _ member =>
    List.mem_append_left _ member
  have latest : (exchange.nextId, request, pending) ∈
      (exchange.issue request pending).ledger.issued :=
    List.mem_append_right _ (List.mem_singleton_self _)
  constructor
  · simp [Exchange.issue, balanced.numbered, List.range_succ]
  · rw [List.append_assoc, ← List.range_succ] at accounted
    simpa [Exchange.issue] using accounted
  · cases online : exchange.online with
    | true =>
        have moved := waiting.trans (perm_append_right_comm _ _ _)
        simpa [Exchange.issue, online] using moved
    | false => simpa [Exchange.issue, online] using waiting
  · cases online : exchange.online with
    | true => simpa [Exchange.issue, online] using balanced.answered
    | false => simpa [Exchange.issue, online] using answered
  · intro id other member
    rcases List.mem_append.mp member with old | new
    · obtain ⟨own, found⟩ := balanced.waitsOwn id other old
      exact ⟨own, earlier _ found⟩
    · obtain ⟨rfl, rfl⟩ := Prod.mk.inj (List.mem_singleton.mp new)
      exact ⟨request, latest⟩
  · intro id other member
    rcases mem_sending_issue member with old | new
    · obtain ⟨own, found⟩ := balanced.sendsOwn id other old
      exact ⟨own, earlier _ found⟩
    · obtain ⟨rfl, rfl⟩ := Prod.mk.inj new
      exact ⟨pending, latest⟩
  · intro id other outcome member
    rcases mem_answers_issue member with old | new
    · obtain ⟨own, found⟩ := balanced.answersOwn id other outcome old
      exact ⟨own, earlier _ found⟩
    · obtain ⟨rfl, rfl, rfl⟩ : id = exchange.nextId ∧ other = request ∧
          outcome = .error .offline := by simpa using new
      exact ⟨pending, latest⟩
  · intro id outcome member
    rcases mem_arrived_issue member with old | new
    · obtain ⟨own, answer⟩ := balanced.arrivedOwn id outcome old
      exact ⟨own, answers_issue request pending answer⟩
    · exact ⟨request, new⟩
  · intro id other outcome member
    obtain ⟨⟨own, found⟩, answered, answer⟩ := balanced.collectedOwn id other outcome member
    exact ⟨⟨own, earlier _ found⟩, answered, answers_issue request pending answer⟩

/-- The books balance after an outcome arrives. -/
theorem finish
    (balanced : exchange.Balanced)
    (id : Nat)
    (outcome : Outcome) :
    (exchange.finish id outcome).Balanced := by
  unfold Exchange.finish
  split
  · exact balanced
  · next request found =>
    have member : id ∈ ids exchange.sending := mem_ids (mem_of_lookup_eq_some found)
    have taken := perm_ids_filter balanced.nodup_sending member
    constructor
    · exact balanced.numbered
    · exact balanced.accounted
    · have moved := balanced.waiting.trans (taken.append_right (ids exchange.arrived))
      have last := moved.trans (List.perm_append_singleton id _).symm
      simpa using last
    · simpa using balanced.answered.append_right [id]
    · exact balanced.waitsOwn
    · intro other sent otherMember
      exact balanced.sendsOwn other sent (List.mem_filter.mp otherMember).1
    · intro other sent result answered
      rcases List.mem_append.mp answered with old | new
      · exact balanced.answersOwn other sent result old
      · obtain ⟨rfl, rfl, rfl⟩ : other = id ∧ sent = request ∧ result = outcome := by
          simpa using List.mem_singleton.mp new
        exact balanced.sendsOwn other sent (mem_of_lookup_eq_some found)
    · intro other result arrived
      rcases List.mem_append.mp arrived with old | new
      · obtain ⟨own, answer⟩ := balanced.arrivedOwn other result old
        exact ⟨own, List.mem_append_left _ answer⟩
      · obtain ⟨rfl, rfl⟩ : other = id ∧ result = outcome := by
          simpa using List.mem_singleton.mp new
        exact ⟨request, List.mem_append_right _ (List.mem_singleton_self _)⟩
    · intro other pending result collected
      obtain ⟨issued, own, answer⟩ := balanced.collectedOwn other pending result collected
      exact ⟨issued, own, List.mem_append_left _ answer⟩

/-- In a balanced exchange the outcome that arrived first belongs to a request that waits. -/
theorem collect?_eq
    (balanced : exchange.Balanced)
    {id : Nat}
    {outcome : Outcome}
    {rest : List (Nat × Outcome)}
    (arrived : exchange.arrived = (id, outcome) :: rest) :
    ∃ pending, (id, pending) ∈ exchange.pending ∧
      exchange.collect? = some (pending, outcome,
        { exchange with
          pending := exchange.pending.filter fun entry => entry.1 != id
          arrived := rest
          ledger :=
            { exchange.ledger with
              collected := exchange.ledger.collected ++ [(id, pending, outcome)] } }) := by
  have member : id ∈ ids exchange.pending := by
    rw [balanced.waiting.mem_iff, arrived]
    simp
  obtain ⟨pending, found⟩ := exists_lookup_of_mem_ids member
  refine ⟨pending, mem_of_lookup_eq_some found, ?_⟩
  rw [collect?, arrived, collectFrom, found]

/-- The books balance after an outcome is collected. -/
theorem collect
    (balanced : exchange.Balanced) :
    (exchange.move .collect).Balanced := by
  cases arrived : exchange.arrived with
  | nil =>
      have nothing : exchange.collect? = none := by rw [collect?, arrived, collectFrom]
      simpa [move, nothing] using balanced
  | cons entry rest =>
      obtain ⟨id, outcome⟩ := entry
      obtain ⟨pending, member, collected⟩ := balanced.collect?_eq arrived
      have taken := perm_ids_filter balanced.nodup_pending (mem_ids member)
      have answer := balanced.arrivedOwn id outcome (arrived ▸ List.mem_cons_self)
      simp only [move, collected]
      constructor
      · exact balanced.numbered
      · have moved := (taken.append_left (ids exchange.ledger.collected)).symm.trans
          balanced.accounted
        simpa using moved
      · have moved := taken.symm.trans balanced.waiting
        rw [arrived] at moved
        exact (moved.trans List.perm_middle).cons_inv
      · have kept := balanced.answered
        rw [arrived] at kept
        simpa using kept
      · intro other otherPending otherMember
        exact balanced.waitsOwn other otherPending (List.mem_filter.mp otherMember).1
      · exact balanced.sendsOwn
      · exact balanced.answersOwn
      · intro other otherOutcome otherMember
        exact balanced.arrivedOwn other otherOutcome
          (arrived ▸ List.mem_cons_of_mem _ otherMember)
      · intro other otherPending otherOutcome otherMember
        rcases List.mem_append.mp otherMember with old | new
        · exact balanced.collectedOwn other otherPending otherOutcome old
        · obtain ⟨rfl, rfl, rfl⟩ : other = id ∧ otherPending = pending ∧
              otherOutcome = outcome := by
            simpa using List.mem_singleton.mp new
          exact ⟨balanced.waitsOwn other otherPending member, answer⟩

/-- The books balance after a move. -/
theorem move
    (balanced : exchange.Balanced)
    (move : Move) :
    (exchange.move move).Balanced := by
  cases move with
  | issue request pending => exact balanced.issue request pending
  | finish id outcome => exact balanced.finish id outcome
  | collect => exact balanced.collect
  | connect online => exact { balanced with }

end Balanced

/-- The books of an exchange balance whatever has happened to it, by induction on the moves. -/
theorem Reachable.balanced
    {exchange : Exchange}
    (reachable : exchange.Reachable) :
    exchange.Balanced := by
  obtain ⟨online, moves, rfl⟩ := reachable
  have start := Balanced.start online
  generalize ({ online := online } : Exchange) = exchange at start
  induction moves generalizing exchange with
  | nil => exact start
  | cons first rest inductionHypothesis => exact inductionHypothesis _ (start.move first)

/-- No request is lost, answered twice or taken for another. -/
structure Orderly (exchange : Exchange) : Prop where
  /-- No two requests wait under one number. -/
  distinct : (ids exchange.pending).Nodup
  /-- Requests wait under numbers that were given out. -/
  below : ∀ id ∈ ids exchange.pending, id < exchange.nextId
  /-- A request waits exactly as long as it is being sent, or else one outcome of it has arrived
  and is yet to be collected. -/
  waits_iff : ∀ id, id ∈ ids exchange.pending ↔
    (id ∈ ids exchange.sending ∧ id ∉ ids exchange.arrived) ∨
      (id ∉ ids exchange.sending ∧ (ids exchange.arrived).count id = 1)
  /-- A request that was issued waits with what it was issued with, or was collected once, with
  what it was issued with and with the one answer that was given to it. -/
  ends : ∀ id request pending, (id, request, pending) ∈ exchange.ledger.issued →
    ((id, pending) ∈ exchange.pending ∧ id ∉ ids exchange.ledger.collected) ∨
      (id ∉ ids exchange.pending ∧ (ids exchange.ledger.collected).count id = 1 ∧
        ∃ outcome, (id, pending, outcome) ∈ exchange.ledger.collected ∧
          (id, request, outcome) ∈ exchange.ledger.answers ∧
          (ids exchange.ledger.answers).count id = 1)
  /-- Nothing else is collected. -/
  issued : ∀ id ∈ ids exchange.ledger.collected, id ∈ ids exchange.ledger.issued
  /-- Every request that was issued was collected or waits. -/
  total :
    exchange.ledger.collected.length + exchange.inFlight = exchange.ledger.issued.length

namespace Balanced

variable {exchange : Exchange}

theorem nodup_issued (balanced : exchange.Balanced) : (ids exchange.ledger.issued).Nodup :=
  balanced.numbered ▸ List.nodup_range

theorem nodup_collected_arrived (balanced : exchange.Balanced) :
    (ids exchange.ledger.collected ++ ids exchange.arrived).Nodup := by
  have split := balanced.waiting.append_left (ids exchange.ledger.collected)
  have distinct := split.nodup_iff.mp (balanced.accounted.nodup_iff.mpr List.nodup_range)
  exact distinct.sublist ((List.sublist_append_right _ _).append_left _)

theorem nodup_answers (balanced : exchange.Balanced) : (ids exchange.ledger.answers).Nodup :=
  balanced.answered.nodup_iff.mpr balanced.nodup_collected_arrived

theorem waits_iff
    (balanced : exchange.Balanced)
    (id : Nat) :
    id ∈ ids exchange.pending ↔
      (id ∈ ids exchange.sending ∧ id ∉ ids exchange.arrived) ∨
        (id ∉ ids exchange.sending ∧ (ids exchange.arrived).count id = 1) := by
  obtain ⟨_, distinctArrived, apart⟩ :=
    List.nodup_append.mp (balanced.waiting.nodup_iff.mp balanced.nodup_pending)
  have exclusive : id ∈ ids exchange.sending → id ∉ ids exchange.arrived :=
    fun sends arrived => apart id sends id arrived rfl
  rw [balanced.waiting.mem_iff, List.mem_append]
  constructor
  · rintro (sends | arrived)
    · exact Or.inl ⟨sends, exclusive sends⟩
    · exact Or.inr ⟨fun sends => exclusive sends arrived,
        List.count_eq_one_of_mem distinctArrived arrived⟩
  · rintro (⟨sends, _⟩ | ⟨_, once⟩)
    · exact Or.inl sends
    · exact Or.inr (List.count_pos_iff.mp (once ▸ Nat.one_pos))

theorem ends
    (balanced : exchange.Balanced)
    {id : Nat}
    {request : Request}
    {pending : Pending}
    (issued : (id, request, pending) ∈ exchange.ledger.issued) :
    ((id, pending) ∈ exchange.pending ∧ id ∉ ids exchange.ledger.collected) ∨
      (id ∉ ids exchange.pending ∧ (ids exchange.ledger.collected).count id = 1 ∧
        ∃ outcome, (id, pending, outcome) ∈ exchange.ledger.collected ∧
          (id, request, outcome) ∈ exchange.ledger.answers ∧
          (ids exchange.ledger.answers).count id = 1) := by
  have accountedDistinct := balanced.accounted.nodup_iff.mpr List.nodup_range
  obtain ⟨distinctCollected, _, apart⟩ := List.nodup_append.mp accountedDistinct
  have given : id ∈ ids exchange.ledger.collected ++ ids exchange.pending := by
    rw [balanced.accounted.mem_iff, ← balanced.numbered]
    exact mem_ids issued
  rcases List.mem_append.mp given with collected | waits
  · refine Or.inr ⟨fun waits => apart id collected id waits rfl,
      List.count_eq_one_of_mem distinctCollected collected, ?_⟩
    obtain ⟨⟨otherPending, outcome⟩, member⟩ := exists_mem_of_mem_ids collected
    obtain ⟨⟨_, own⟩, answered, answer⟩ := balanced.collectedOwn id otherPending outcome member
    obtain ⟨_, asked⟩ := balanced.answersOwn id answered outcome answer
    have samePending := (Prod.mk.inj (eq_of_mem_of_mem balanced.nodup_issued issued own)).2
    have sameRequest := (Prod.mk.inj (eq_of_mem_of_mem balanced.nodup_issued issued asked)).1
    subst samePending sameRequest
    exact ⟨outcome, member, answer,
      List.count_eq_one_of_mem balanced.nodup_answers (mem_ids answer)⟩
  · obtain ⟨other, member⟩ := exists_mem_of_mem_ids waits
    obtain ⟨_, own⟩ := balanced.waitsOwn id other member
    have same := (Prod.mk.inj (eq_of_mem_of_mem balanced.nodup_issued issued own)).2
    subst same
    exact Or.inl ⟨member, fun collected => apart id collected id waits rfl⟩

/-- Where the books balance, no request is lost, answered twice or taken for another. -/
theorem orderly (balanced : exchange.Balanced) : exchange.Orderly where
  distinct := balanced.nodup_pending
  below id member := by
    have given : id ∈ ids exchange.ledger.collected ++ ids exchange.pending :=
      List.mem_append_right _ member
    rwa [balanced.accounted.mem_iff, List.mem_range] at given
  waits_iff := balanced.waits_iff
  ends _ _ _ := balanced.ends
  issued id member := by
    rw [balanced.numbered, ← balanced.accounted.mem_iff]
    exact List.mem_append_left _ member
  total := by
    have accounted := balanced.accounted.length_eq
    have numbered := congrArg List.length balanced.numbered
    rw [length_ids, List.length_range] at numbered
    rw [List.length_append, length_ids, length_ids, List.length_range] at accounted
    rw [inFlight, accounted, numbered]

end Balanced
end Exchange
end Web
end Storyboard
