import Storyboard.Proofs.Callbacks
import Storyboard.Proofs.Command.Ending
import Storyboard.Proofs.Lasting
import Storyboard.Proofs.Web.Progress

/-!
# Events end

An event of built-in commands ends, and so does everything that follows from its
requests: an outcome is paid for when its request is issued, so only so many can be
collected, and while one is missing a network that answers brings another.
-/

namespace Storyboard

namespace Session

variable {screens : List (String × Screen)} {limit : Nat} {session : Session}

/-- A session is as ready after outcomes have arrived, and nothing is spent. -/
theorem Ready.exchange
    (ready : session.Ready screens limit)
    {exchange : Web.Exchange}
    (balanced : exchange.Balanced)
    (pending : exchange.pending = session.exchange.pending)
    (issued : exchange.ledger.issued = session.exchange.ledger.issued) :
    Ready screens limit { session with exchange := exchange } ∧
      Spends screens (fun _ => 0) 0 session { session with exchange := exchange } := by
  refine ⟨⟨ready.quiet, ready.known, balanced, ?_⟩, fun weight => ?_, ?_⟩
  · exact pending ▸ ready.shallow
  · simp only [spent, earned, Web.Exchange.awaited, pending]
    exact Nat.le_refl _
  · simp only [asked, Web.Exchange.awaited, pending, issued]
    exact Nat.le_refl _

/-- No more outcomes are collected than requests are asked for. -/
theorem Ready.collected_le_asked (ready : session.Ready screens limit) :
    session.exchange.ledger.collected.length ≤ session.asked screens := by
  have total := ready.balanced.orderly.total
  unfold asked
  omega

/-- Some request was not collected yet, or there is nothing to collect. -/
theorem Ready.collected_lt (ready : session.Ready screens limit) :
    session.exchange.ledger.collected.length <
      session.asked screens + (if session.exchange.collect? = none then 1 else 0) := by
  have atMost := ready.collected_le_asked
  split
  · omega
  · next something =>
    have arrived : session.exchange.arrived ≠ [] := fun nothing =>
      something (ready.balanced.arrived_eq_nil_iff.mp nothing)
    have waiting := ready.balanced.waiting.length_eq
    rw [Web.length_ids, List.length_append, Web.length_ids, Web.length_ids] at waiting
    have present := List.length_pos_of_ne_nil arrived
    have total := ready.balanced.orderly.total
    unfold Web.Exchange.inFlight at total
    unfold asked
    omega

/-- While a request waits and there is nothing to collect, a network that answers brings something,
and nothing is spent. -/
theorem Ready.receive
    (ready : session.Ready screens limit)
    {network : Web.Network}
    (responsive : network.Responsive)
    (empty : session.exchange.collect? = none)
    (waits : session.exchange.inFlight ≠ 0)
    {next : Session}
    (brought : next =
      { session with exchange := session.exchange.receive (network session.exchange) }) :
    next.Ready screens limit ∧ Spends screens (fun _ => 0) 0 session next ∧
      next.exchange.collect? ≠ none ∧
      next.exchange.ledger.collected.length = session.exchange.ledger.collected.length := by
  subst brought
  have arrived := ready.balanced.arrived_eq_nil_iff.mpr empty
  obtain ⟨arrival, member, sends⟩ :=
    responsive session.exchange (ready.balanced.sending_ne_nil arrived waits)
  have brings := Web.Exchange.arrived_receive_of_mem member sends
  have balanced := ready.balanced.receive (network session.exchange)
  obtain ⟨readyNext, free⟩ := ready.exchange balanced (Web.Exchange.pending_receive _)
    (Web.Exchange.issued_receive _)
  exact ⟨readyNext, free, fun nothing => brings (balanced.arrived_eq_nil_iff.mpr nothing),
    (session.exchange.plays_receive (network session.exchange)).2⟩

/-- A session in which the outcome that arrived first has been taken, to be applied. -/
theorem Ready.take
    (ready : session.Ready screens limit)
    {pending : Web.Pending}
    {outcome : Web.Outcome}
    {exchange : Web.Exchange}
    (collected : session.exchange.collect? = some (pending, outcome, exchange)) :
    Ready screens limit { session with exchange := exchange } ∧
      (∀ event ∈ pending.callbacks.events, event.levels screens < limit) ∧
      exchange.ledger.issued = session.exchange.ledger.issued ∧
      ∀ weight, exchange.awaited weight + pending.callbacks.total weight ≤
        session.exchange.awaited weight := by
  cases arrived : session.exchange.arrived with
  | nil =>
      rw [ready.balanced.arrived_eq_nil_iff.mp arrived] at collected
      cases collected
  | cons entry rest =>
      obtain ⟨own, member, taken⟩ := ready.balanced.collect?_eq arrived
      have balanced := ready.balanced.collect
      simp only [Web.Exchange.move, collected] at balanced
      rw [collected] at taken
      obtain ⟨rfl, rfl, rfl⟩ := by simpa using taken
      refine ⟨⟨ready.quiet, ready.known, balanced, fun entry kept => ?_⟩, ?_, rfl, fun weight => ?_⟩
      · exact ready.shallow entry (List.mem_filter.mp kept).1
      · exact ready.shallow _ member
      · exact Web.Exchange.awaited_filter_le member

end Session

namespace Interpreter

open Session

variable {interpreter : Interpreter} {screens : List (String × Screen)} {limit : Nat}
  (runs : ∀ index, interpreter.Runs index screens limit limit)
  (respects : ∀ entry ∈ interpreter.commands, entry.2.Respects Dispatches)
  {session : Session}

include runs respects

/-- The outcome that arrived first can be applied, and is paid for. -/
theorem exists_complete
    (ready : session.Ready screens limit)
    {pending : Web.Pending}
    {outcome : Web.Outcome}
    {exchange : Web.Exchange}
    (collected : session.exchange.collect? = some (pending, outcome, exchange)) :
    ∃ result, (∀ bound, limit ≤ bound →
        (interpreter.outerFrame pending.index bound).complete pending outcome
          { session with exchange := exchange } = some result) ∧
      result.Ready screens limit ∧ Spends screens (fun _ => 0) 0 session result ∧
      result.exchange.ledger.collected.length =
        session.exchange.ledger.collected.length + 1 := by
  obtain ⟨readyTaken, shallow, issued, released⟩ := ready.take collected
  obtain ⟨result, finished, readyAfter, spends⟩ :=
    (runs pending.index).complete shallow outcome _ readyTaken
  refine ⟨result, finished, readyAfter, ⟨fun weight => ?_, ?_⟩, ?_⟩
  · have paid := spends.commands weight
    have free := released weight
    simp only [spent, earned] at paid ⊢
    omega
  · have paid := spends.requests
    have free := released (Node.charge screens)
    simp only [asked, issued] at paid ⊢
    omega
  · have taken := (Web.Exchange.plays_of_collect?_eq_some collected).2
    have applied := (closed_dispatches.completeOuter respects pending.index limit pending outcome
      _ result (finished limit (Nat.le_refl limit))).2
    rw [applied, taken]

/-- A drain that may collect a number of outcomes ends, with nothing left to collect. -/
def Drains
    (interpreter : Interpreter)
    (screens : List (String × Screen))
    (limit most : Nat)
    (session : Session) : Prop :=
  ∃ more result, (∀ bound allowed count, limit ≤ bound → most ≤ allowed →
      interpreter.drainFrom bound allowed count session = some (count + more, result)) ∧
    result.Ready screens limit ∧ Spends screens (fun _ => 0) 0 session result ∧
    result.exchange.collect? = none ∧
    result.exchange.ledger.collected.length =
      session.exchange.ledger.collected.length + more ∧
    (session.exchange.collect? ≠ none → 0 < more)

omit runs respects in
theorem drains_of_collect?_eq_none
    (most : Nat)
    (ready : session.Ready screens limit)
    (collected : session.exchange.collect? = none) :
    interpreter.Drains screens limit most session := by
  refine ⟨0, session, fun bound allowed count _ _ => ?_, ready, .refl session, collected, rfl,
    fun impossible => absurd collected impossible⟩
  rw [drainFrom, collected]
  rfl

/-- A drain ends once it may collect as many outcomes as are asked for, by induction on their
number. -/
theorem drains_of_asked_le
    {most : Nat}
    (ready : session.Ready screens limit)
    (enough : session.asked screens ≤ session.exchange.ledger.collected.length + most) :
    interpreter.Drains screens limit most session := by
  induction most generalizing session with
  | zero =>
      cases collected : session.exchange.collect? with
      | none => exact drains_of_collect?_eq_none 0 ready collected
      | some taken =>
          -- One outcome more would have been collected than requests were asked for.
          obtain ⟨pending, outcome, exchange⟩ := taken
          obtain ⟨middle, -, readyMiddle, spends, counted⟩ :=
            exists_complete runs respects ready collected
          have atMost := readyMiddle.collected_le_asked
          have paid := spends.requests
          omega
  | succ most inductionHypothesis =>
      cases collected : session.exchange.collect? with
      | none => exact drains_of_collect?_eq_none (most + 1) ready collected
      | some taken =>
          obtain ⟨pending, outcome, exchange⟩ := taken
          obtain ⟨middle, completed, readyMiddle, spends, counted⟩ :=
            exists_complete runs respects ready collected
          have paid := spends.requests
          obtain ⟨more, result, drained, readyAfter, spendsAfter, empty, countedAfter, -⟩ :=
            inductionHypothesis readyMiddle (by omega)
          refine ⟨more + 1, result, fun bound allowed count within atLeast => ?_, readyAfter,
            spends.trans spendsAfter, empty, by omega, fun _ => Nat.succ_pos more⟩
          obtain ⟨fewer, rfl⟩ : ∃ fewer, allowed = fewer + 1 := ⟨allowed - 1, by omega⟩
          rw [drainFrom, collected]
          dsimp only
          rw [completed bound within]
          have later := drained bound fewer (count + 1) within (by omega)
          rw [Nat.add_right_comm, Nat.add_assoc] at later
          exact later

/-- Waiting for a network that answers ends, by induction on the outcomes that are missing: where
nothing has arrived yet, one turn passes before something does. -/
theorem exists_settleFrom
    {network : Web.Network}
    (responsive : network.Responsive)
    {most turns : Nat}
    (ready : session.Ready screens limit)
    (atMost : session.asked screens ≤ most)
    (enough : session.asked screens + (if session.exchange.collect? = none then 1 else 0) ≤
      session.exchange.ledger.collected.length + turns) :
    ∃ more result, (∀ bound allowed count, limit ≤ bound → most ≤ bound → turns ≤ allowed →
        interpreter.settleFrom (fun exchange => exchange.receive (network exchange)) bound allowed
          count session = some (count + more, result)) ∧
      result.Ready screens limit ∧ Spends screens (fun _ => 0) 0 session result := by
  induction turns generalizing session with
  | zero =>
      have missing := ready.collected_lt
      omega
  | succ turns inductionHypothesis =>
      obtain ⟨more, middle, drained, readyMiddle, spends, empty, counted, progress⟩ :=
        drains_of_asked_le runs respects ready (Nat.le_trans atMost (Nat.le_add_left most _))
      by_cases waits : middle.exchange.inFlight = 0
      · refine ⟨more, middle, fun bound allowed count within sufficient _ => ?_, readyMiddle,
          spends⟩
        rw [settleFrom, drained bound bound count within sufficient]
        simp [waits]
      · obtain ⟨readyNext, free, something, sameCollected⟩ :=
          readyMiddle.receive responsive empty waits rfl
        have paid := spends.requests
        have paidNext := free.requests
        have fewer : session.asked screens ≤
            session.exchange.ledger.collected.length + more + turns := by
          by_cases nothing : session.exchange.collect? = none
          · rw [if_pos nothing] at enough
            omega
          · have atLeastOne := progress nothing
            omega
        obtain ⟨others, result, settled, readyAfter, spendsAfter⟩ :=
          inductionHypothesis readyNext (by omega) (by rw [if_neg something]; omega)
        refine ⟨more + others, result, fun bound allowed count within sufficient atLeast => ?_,
          readyAfter, spends.trans (free.trans spendsAfter)⟩
        obtain ⟨left, rfl⟩ : ∃ left, allowed = left + 1 := ⟨allowed - 1, by omega⟩
        rw [settleFrom, drained bound bound count within sufficient]
        have later := settled bound left (count + more) within sufficient (by omega)
        rw [Nat.add_assoc] at later
        simpa [waits] using later

omit runs respects

end Interpreter

/-- A step in which nothing is asked of the app but what follows from its requests. -/
def Step.FollowsUp : Step → Prop
  | .drain | .collect | .arrive _ _ | .connect _ => True
  | .settle network => network.Responsive
  | _ => False

namespace Interpreter

open Session

variable {interpreter : Interpreter} {screens : List (String × Screen)} {limit most : Nat}
  (runs : ∀ index, interpreter.Runs index screens limit limit)
  (respects : ∀ entry ∈ interpreter.commands, entry.2.Respects Dispatches)
  {session : Session}

include runs respects

/-- A step that follows up ends within a bound that depends on the number of requests alone. -/
theorem exists_perform
    (ready : session.Ready screens limit)
    (atMost : session.asked screens ≤ most)
    {step : Step}
    (follows : step.FollowsUp) :
    ∃ outcome : Nat × Session, (∀ bound, limit + most < bound →
        interpreter.perform bound step session = some outcome) ∧
      outcome.2.Ready screens limit ∧ Spends screens (fun _ => 0) 0 session outcome.2 := by
  cases step with
  | event | command | set | remove | assign | resolve | observe | unobserve => cases follows
  | drain =>
      obtain ⟨more, result, drained, readyAfter, spends, -⟩ :=
        drains_of_asked_le runs respects ready (Nat.le_trans atMost (Nat.le_add_left most _))
      exact ⟨_, fun bound enough => drained bound bound 0 (by omega) (by omega), readyAfter, spends⟩
  | settle network =>
      have enough : session.asked screens + (if session.exchange.collect? = none then 1 else 0) ≤
          session.exchange.ledger.collected.length + (most + 1) := by
        split <;> omega
      obtain ⟨more, result, settled, readyAfter, spends⟩ :=
        exists_settleFrom runs respects follows ready atMost enough
      exact ⟨_, fun bound enough => settled bound bound 0 (by omega) (by omega) (by omega),
        readyAfter, spends⟩
  | collect =>
      cases collected : session.exchange.collect? with
      | none =>
          refine ⟨(0, session), fun _ _ => ?_, ready, .refl session⟩
          simp only [perform, collect, collected]
      | some taken =>
          obtain ⟨pending, outcome, exchange⟩ := taken
          obtain ⟨result, completed, readyAfter, spends, -⟩ :=
            exists_complete runs respects ready collected
          refine ⟨(1, result), fun bound enough => ?_, readyAfter, spends⟩
          simp only [perform, collect, collected]
          rw [completed bound (by omega)]
          rfl
  | arrive id outcome =>
      exact ⟨_, fun _ _ => rfl, ready.exchange (ready.balanced.finish id outcome)
        (session.exchange.pending_finish id outcome) (Web.Exchange.issued_finish id outcome)⟩
  | connect online =>
      exact ⟨_, fun _ _ => rfl,
        ready.exchange (ready.balanced.move (.connect online)) rfl rfl⟩

/-- Steps that follow up end one after another within the same bound. -/
theorem exists_run
    (steps : List Step)
    (follow : ∀ step ∈ steps, step.FollowsUp)
    (ready : session.Ready screens limit)
    (atMost : session.asked screens ≤ most) :
    ∃ outcome : Nat × Session, (∀ bound, limit + most < bound →
        interpreter.run bound steps session = some outcome) ∧
      outcome.2.Ready screens limit ∧ Spends screens (fun _ => 0) 0 session outcome.2 := by
  induction steps generalizing session with
  | nil => exact ⟨(0, session), fun _ _ => rfl, ready, .refl session⟩
  | cons step rest inductionHypothesis =>
      obtain ⟨first, performed, readyMiddle, spends⟩ :=
        exists_perform runs respects ready atMost (follow step List.mem_cons_self)
      have paid := spends.requests
      obtain ⟨last, ran, readyAfter, spendsAfter⟩ := inductionHypothesis
        (fun other member => follow other (List.mem_cons_of_mem step member)) readyMiddle
        (by omega)
      refine ⟨(first.1 + last.1, last.2), fun bound enough => ?_, readyAfter,
        spends.trans spendsAfter⟩
      rw [run_cons, performed bound enough]
      simp only [Option.bind_some, ran bound enough, Option.map_some]

omit runs respects

end Interpreter

namespace Session

/-- Deeds are put on record, and none is struck off. -/
theorem lasting_deeds :
    Lasting fun session result => session.deeds <+: result.deeds where
  refl _ := List.prefix_rfl
  trans first second := first.trans second
  context _ _ _ := List.prefix_rfl
  exchange _ _ := List.prefix_rfl
  note session deed := List.prefix_append session.deeds [deed]
  push session id _ := List.prefix_append session.deeds [.screen id]
  pop _ := List.prefix_rfl
  popToRoot _ := List.prefix_rfl
  store _ _ _ := List.prefix_rfl
  log _ _ := List.prefix_rfl

/-- The parts of the event of a known screen. -/
def partsOnAppear (session : Session) (id : String) : List Node :=
  (session.onAppear? id).elim [] Node.parts

/-- What is on record of a session in which nothing waits is part of the budget and of the events
of the screens that were opened. -/
theorem Spends.subperm
    {screens : List (String × Screen)}
    {event : Node}
    {requests : Nat}
    {session result : Session}
    (spends : Spends screens (fun weight => event.total weight) requests session result)
    (known : session.screens = screens)
    (waits : session.exchange.pending = [])
    {deeds : List Deed}
    (later : result.deeds = session.deeds ++ deeds) :
    (Deed.commands deeds).Subperm
      (event.parts ++ (Deed.screens deeds).flatMap session.partsOnAppear) := by
  refine subperm_of_sum_le fun weight => ?_
  have events : ∀ ids : List String, ((ids.flatMap session.partsOnAppear).map weight).sum =
      (ids.map fun id => Node.total? weight (Screen.event? screens id)).sum := by
    intro ids
    have each : ∀ id, ((session.partsOnAppear id).map weight).sum =
        Node.total? weight (Screen.event? screens id) := by
      intro id
      have same : session.onAppear? id = Screen.event? screens id := by
        rw [← known]
        rfl
      unfold partsOnAppear
      rw [same]
      cases Screen.event? screens id <;> rfl
    induction ids with
    | nil => rfl
    | cons id rest inductionHypothesis =>
        simp only [List.flatMap_cons, List.map_append, List.sum_append, List.map_cons,
          List.sum_cons, each, inductionHypothesis]
  have paid := spends.commands weight
  simp only [spent, earned, later, Deed.commands_append, Deed.screens_append, List.map_append,
    List.sum_append, Web.Exchange.awaited, waits, List.map_nil, List.sum_nil] at paid
  rw [List.map_append, List.sum_append, events]
  change _ ≤ event.total weight + _
  omega

end Session

namespace Interpreter

/-- An event of built-in commands ends, and so do all drains and waits that follow, within a bound
that is known from the start: every command that is carried out is a part of the event, or of the
event of a screen that was opened, and each part is carried out no more often than it stands there.
No more requests are issued than the event and the events of the screens that it opens have keys. -/
theorem event_ends
    (interpreter : Interpreter)
    (commands : ∀ entry ∈ interpreter.commands, entry ∈ Command.builtin)
    (session : Session)
    (plain : Screen.Lacks Node.navigateKey session.screens)
    (quiet : session.context.Quiet)
    (reachable : session.exchange.Reachable)
    (idle : session.exchange.inFlight = 0)
    (index : Option Nat)
    (event : Node) :
    ∃ least, ∀ steps : List Step, (∀ step ∈ steps, step.FollowsUp) →
      ∃ total final deeds,
        (∀ bound, least < bound →
          interpreter.run bound (.event index event :: steps) session = some (total, final)) ∧
        final.deeds = session.deeds ++ deeds ∧
        (Deed.commands deeds).Subperm
          (event.parts ++ (Deed.screens deeds).flatMap session.partsOnAppear) ∧
        final.exchange.ledger.issued.length ≤ session.exchange.ledger.issued.length +
          (event.occurrences Node.requestKey +
            event.occurrences Node.navigateKey * Screen.mostRequests session.screens) := by
  have waits : session.exchange.pending = [] := List.length_eq_zero_iff.mp idle
  have ready : session.Ready session.screens (event.levels session.screens + 1) :=
    ⟨quiet, rfl, reachable.balanced, fun entry member => by rw [waits] at member; cases member⟩
  have runs : ∀ index, interpreter.Runs index session.screens
      (event.levels session.screens + 1) (event.levels session.screens + 1) :=
    fun index => runs_of_builtin commands plain (Nat.le_refl _)
  have respects := Session.closed_dispatches.registered fun entry member =>
    .inl (commands entry member)
  obtain ⟨middle, handled, readyMiddle, spends⟩ :=
    (runs index).handle event (Nat.lt_succ_self _) session ready
  refine ⟨event.levels session.screens + 1 + middle.asked session.screens, fun steps follow => ?_⟩
  obtain ⟨last, ran, readyAfter, spendsAfter⟩ :=
    exists_run runs respects steps follow readyMiddle (Nat.le_refl _)
  have whole : ∀ bound,
      event.levels session.screens + 1 + middle.asked session.screens < bound →
        interpreter.run bound (.event index event :: steps) session = some last := by
    intro bound enough
    have performed : interpreter.perform bound (.event index event) session =
        some (0, middle) := by
      rw [perform]
      exact Option.map_eq_some_iff.mpr ⟨middle, handled bound (by omega), rfl⟩
    rw [run_cons, performed]
    simp only [Option.bind_some, ran bound enough, Option.map_some, Nat.zero_add]
  have lasts : session.deeds <+: last.2.deeds :=
    Session.lasting_deeds.run (Session.lasting_deeds.closed.registered fun entry member =>
      .inl (commands entry member)) (whole _ (Nat.lt_succ_self _))
  obtain ⟨deeds, later⟩ := lasts
  have paid := spends.trans spendsAfter
  refine ⟨_, _, deeds, whole, later.symm, ?_, ?_⟩
  · exact Session.Spends.subperm paid rfl waits later.symm
  · have requested := paid.requests
    rw [Node.total_charge] at requested
    simp only [Session.asked, Web.Exchange.awaited, waits, List.map_nil, List.sum_nil] at requested
    omega

/-- A screen whose event issues a request is opened, and the session waits for the answer. -/
theorem event_ends_after_answer :
    let request : Node :=
      .mapping [("HttpRequest.request", .mapping [("url", .string "https://a.example/"),
        ("onFinally", .mapping [("log", .string "end")])])]
    let session : Session :=
      { screens := [("next", { id := "next", onAppear := some request })] }
    let transport : Web.Transport := fun _ _ => .ok ⟨200, [], []⟩
    ∃ least total final,
      (∀ bound, least < bound →
        Interpreter.run {} bound
          [.event none (.mapping [("navigate", .string "next")]), .settle transport.network]
          session = some (total, final)) ∧
      final.exchange.ledger.issued.length ≤ 1 := by
  intro request session transport
  have plain : Screen.Lacks Node.navigateKey session.screens := by
    intro entry member event appears
    obtain rfl := List.mem_singleton.mp member
    obtain rfl := Option.some.inj appears
    decide
  have quiet : session.context.Quiet := fun _ member => by cases member
  have reachable : session.exchange.Reachable := ⟨true, [], rfl⟩
  obtain ⟨least, ends⟩ := event_ends {} (fun _ builtIn => builtIn) session plain quiet reachable
    rfl none (.mapping [("navigate", .string "next")])
  have follow : ∀ step ∈ [Step.settle transport.network], step.FollowsUp := by
    intro step member
    obtain rfl := List.mem_singleton.mp member
    exact transport.responsive_network
  obtain ⟨total, final, deeds, ran, -, -, issued⟩ := ends _ follow
  exact ⟨least, total, final, ran, issued⟩

end Interpreter
end Storyboard
