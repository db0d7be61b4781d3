import Storyboard.Proofs.Assignment
import Storyboard.Proofs.Dispatch

/-!
# What the end of a request does

When a request ends, a fixed list of acts is done in order, whatever each of them comes to:
the body of a response of success is written, the event for the outcome is handled, and the
last event is handled.  In a run the acts of a request are done once, when its outcome is
collected, in the loop row in which the request was issued.
-/

namespace Storyboard

/-- Something that is done when a request ends. -/
inductive Act where
  /-- A value is written at a path given as text. -/
  | write (path : String) (value : Node)
  /-- An event is handled while variables have values. -/
  | event (temporaries : List (String × Node)) (event : Node)

/-- The acts for an outcome: a response of success is kept and has its event, every other end has
another event. -/
def Settings.outcomeActs (settings : Settings) (pending : Web.Pending) :
    Web.Outcome → List Act
  | .ok response =>
      if Web.isSuccess response.status then
        pending.target.toList.map (fun path => .write path (Web.decodeBody response.body)) ++
          pending.callbacks.onSuccess.toList.map
            (.event [(settings.responseVariable, response.metadata)])
      else
        pending.callbacks.onError.toList.map
          (.event
            [(settings.responseVariable, response.metadata),
             (settings.errorVariable,
               (Web.RequestError.status response.status).report (some response))])
  | .error error =>
      pending.callbacks.onError.toList.map
        (.event [(settings.errorVariable, error.report none)])

/-- All that is done when a request ends, in order: one more event comes last in any case. -/
def Settings.agenda
    (settings : Settings)
    (pending : Web.Pending)
    (outcome : Web.Outcome) : List Act :=
  settings.outcomeActs pending outcome ++ pending.callbacks.onFinally.toList.map (.event [])

namespace Frame

/-- Do something while variables have values; the first is set first and restored last. -/
def amid (frame : Frame) :
    List (String × Node) → (Session → Option Session) → Session → Option Session
  | [], body => body
  | (name, value) :: rest, body => frame.during name value (frame.amid rest body)

/-- Do one act. -/
def act (frame : Frame) : Act → Session → Option Session
  | .write path value, session =>
      (session.assign frame.evaluator frame.bound frame.index path value).map Prod.snd
  | .event temporaries event, session => frame.amid temporaries (frame.handle event) session

/-- Do acts one after another. -/
def actAll (frame : Frame) (acts : List Act) (session : Session) : Option Session :=
  acts.foldlM (fun session act => frame.act act session) session

variable {frame : Frame}

theorem actAll_append
    (first second : List Act)
    (session : Session) :
    frame.actAll (first ++ second) session =
      frame.actAll first session >>= frame.actAll second :=
  List.foldlM_append

theorem actAll_singleton
    (act : Act)
    (session : Session) :
    frame.actAll [act] session = frame.act act session := by
  simp [actAll]

theorem keep_eq_actAll
    (target : Option String)
    (response : Web.Response)
    (session : Session) :
    frame.keep target response session =
      frame.actAll (target.toList.map fun path => .write path (Web.decodeBody response.body))
        session := by
  cases target with
  | none => rfl
  | some path => exact (actAll_singleton (.write path _) session).symm

theorem handleDuring_eq_actAll
    (name : String)
    (value : Node)
    (event : Option Node)
    (session : Session) :
    frame.handleDuring name value event session =
      frame.actAll (event.toList.map (.event [(name, value)])) session := by
  cases event with
  | none => rfl
  | some event => exact (actAll_singleton (.event [(name, value)] event) session).symm

theorem handle?_eq_actAll
    (event : Option Node)
    (session : Session) :
    frame.handle? event session = frame.actAll (event.toList.map (.event [])) session := by
  cases event with
  | none => rfl
  | some event => exact (actAll_singleton (.event [] event) session).symm

theorem settleOutcome_eq_actAll
    (pending : Web.Pending)
    (outcome : Web.Outcome)
    (session : Session) :
    frame.settleOutcome pending outcome session =
      frame.actAll (frame.settings.outcomeActs pending outcome) session := by
  cases outcome with
  | error error => exact handleDuring_eq_actAll _ _ _ session
  | ok response =>
      by_cases success : Web.isSuccess response.status = true
      · simp only [settleOutcome, keepOutcome, callBack, Settings.outcomeActs, success, if_true,
          actAll_append, keep_eq_actAll]
        congr 1
        funext middle
        exact handleDuring_eq_actAll _ _ _ middle
      · simp only [settleOutcome, keepOutcome, callBack, Settings.outcomeActs, success,
          Bool.false_eq_true, if_false]
        cases pending.callbacks.onError with
        | none => rfl
        | some event =>
            simp only [Option.toList_some, List.map_cons, List.map_nil, actAll_singleton]
            rfl

/-- The end of a request is its agenda, whatever the commands in its events come to. -/
theorem complete_eq_actAll
    (frame : Frame)
    (pending : Web.Pending)
    (outcome : Web.Outcome)
    (session : Session) :
    frame.complete pending outcome session =
      frame.actAll (frame.settings.agenda pending outcome) session := by
  rw [complete, settleOutcome_eq_actAll, Settings.agenda, actAll_append]
  congr 1
  funext middle
  exact handle?_eq_actAll _ middle

end Frame

namespace Web
namespace Exchange

/-- A collection notes the outcome with what was to be done about it. -/
theorem exists_noted_of_collect?_eq_some
    {exchange after : Exchange}
    {pending : Pending}
    {outcome : Outcome}
    (collected : exchange.collect? = some (pending, outcome, after)) :
    ∃ id, after.ledger =
      { exchange.ledger with
        collected := exchange.ledger.collected ++ [(id, pending, outcome)] } := by
  unfold collect? at collected
  generalize exchange.arrived = arrived at collected
  induction arrived with
  | nil => cases collected
  | cons entry rest inductionHypothesis =>
      obtain ⟨id, first⟩ := entry
      rw [collectFrom] at collected
      split at collected
      · cases collected
        exact ⟨id, rfl⟩
      · exact inductionHypothesis collected

/-- Nothing that was collected is forgotten in a move. -/
theorem prefix_move
    (exchange : Exchange)
    (move : Move) :
    exchange.ledger.collected <+: (exchange.move move).ledger.collected := by
  cases move with
  | issue request pending => exact List.prefix_rfl
  | finish id outcome =>
      simp only [Exchange.move, finish]
      split <;> exact List.prefix_rfl
  | collect =>
      simp only [Exchange.move]
      split
      · exact List.prefix_rfl
      · next pending outcome after collected =>
        obtain ⟨id, noted⟩ := exists_noted_of_collect?_eq_some collected
        rw [noted]
        exact List.prefix_append _ _
  | connect online => exact List.prefix_rfl

/-- Moves that collect no more than before collect nothing. -/
theorem Plays.collected_eq
    {exchange after : Exchange}
    (plays : Plays 0 exchange after) :
    after.ledger.collected = exchange.ledger.collected := by
  obtain ⟨⟨moves, rfl⟩, length⟩ := plays
  have kept : exchange.ledger.collected <+: (moves.foldl move exchange).ledger.collected := by
    clear length
    induction moves generalizing exchange with
    | nil => exact List.prefix_rfl
    | cons first rest inductionHypothesis =>
        exact (exchange.prefix_move first).trans inductionHypothesis
  exact (kept.eq_of_length length.symm).symm

end Exchange
end Web

namespace Interpreter

/-- Outcomes that are collected one after another, while others may arrive: the agenda of each is
done in the loop row in which its request was issued, before the next one is collected. -/
inductive Applies (interpreter : Interpreter) (bound : Nat) :
    Session → List (Nat × Web.Pending × Web.Outcome) → Session → Prop
  /-- Nothing more is collected. -/
  | done (session : Session) : Applies interpreter bound session [] session
  /-- Outcomes arrive. -/
  | arrive {session result : Session} {applied : List (Nat × Web.Pending × Web.Outcome)}
      (arrivals : List (Nat × Web.Outcome))
      (others : Applies interpreter bound
        { session with exchange := session.exchange.receive arrivals } applied result) :
      Applies interpreter bound session applied result
  /-- An outcome is collected, and its agenda is done. -/
  | apply {session middle result : Session} {applied : List (Nat × Web.Pending × Web.Outcome)}
      {id : Nat} {pending : Web.Pending} {outcome : Web.Outcome} {exchange : Web.Exchange}
      (collected : session.exchange.collect? = some (pending, outcome, exchange))
      (noted : exchange.ledger.collected =
        session.exchange.ledger.collected ++ [(id, pending, outcome)])
      (acted : (interpreter.outerFrame pending.index bound).actAll
        (interpreter.settings.agenda pending outcome)
        { session with exchange := exchange } = some middle)
      (others : Applies interpreter bound middle applied result) :
      Applies interpreter bound session ((id, pending, outcome) :: applied) result

/-- A list of outcomes that were collected in order, counted and noted. -/
structure Collects
    (interpreter : Interpreter)
    (bound count : Nat)
    (session result : Session)
    (applied : List (Nat × Web.Pending × Web.Outcome)) : Prop where
  /-- The agenda of each was done when it was collected. -/
  applies : interpreter.Applies bound session applied result
  /-- They are counted. -/
  counted : applied.length = count
  /-- They are noted, and nothing else is. -/
  noted : result.exchange.ledger.collected = session.exchange.ledger.collected ++ applied

namespace Collects

variable {interpreter : Interpreter} {bound count others : Nat} {session middle result : Session}
  {applied later : List (Nat × Web.Pending × Web.Outcome)}

theorem done (session : Session) : interpreter.Collects bound 0 session session [] :=
  ⟨.done session, rfl, (List.append_nil _).symm⟩

theorem trans
    (first : interpreter.Collects bound count session middle applied)
    (second : interpreter.Collects bound others middle result later) :
    interpreter.Collects bound (count + others) session result (applied ++ later) := by
  refine ⟨?_, ?_, ?_⟩
  · obtain ⟨applies, -, -⟩ := first
    induction applies with
    | done session => exact second.applies
    | arrive arrivals _ inductionHypothesis => exact .arrive arrivals (inductionHypothesis second)
    | apply collected noted acted _ inductionHypothesis =>
        exact .apply collected noted acted (inductionHypothesis second)
  · rw [List.length_append, first.counted, second.counted]
  · rw [second.noted, first.noted, List.append_assoc]

theorem receive
    {arrivals : List (Nat × Web.Outcome)}
    (collects : interpreter.Collects bound count
      { session with exchange := session.exchange.receive arrivals } result applied) :
    interpreter.Collects bound count session result applied :=
  ⟨.arrive arrivals collects.applies, collects.counted,
    collects.noted.trans
      (congrArg (· ++ applied) (session.exchange.plays_receive arrivals).collected_eq)⟩

/-- One outcome is collected and its agenda done; its events collect nothing. -/
theorem complete
    (respects : ∀ entry ∈ interpreter.commands, entry.2.Respects Session.Dispatches)
    {pending : Web.Pending}
    {outcome : Web.Outcome}
    {exchange : Web.Exchange}
    (collected : session.exchange.collect? = some (pending, outcome, exchange))
    (completed : (interpreter.outerFrame pending.index bound).complete pending outcome
      { session with exchange := exchange } = some result) :
    ∃ id, interpreter.Collects bound 1 session result [(id, pending, outcome)] := by
  obtain ⟨id, record⟩ := Web.Exchange.exists_noted_of_collect?_eq_some collected
  have noted := congrArg Web.Ledger.collected record
  have plays : Web.Exchange.Plays 0 exchange result.exchange :=
    Session.closed_dispatches.completeOuter respects pending.index bound pending outcome
      { session with exchange := exchange } result completed
  rw [Frame.complete_eq_actAll] at completed
  exact ⟨id, .apply collected noted completed (.done result), rfl,
    plays.collected_eq.trans noted⟩

end Collects

variable {interpreter : Interpreter} {bound : Nat}

/-- A drain collects outcomes in order, by induction on the number that it may collect. -/
theorem collects_drainFrom
    (respects : ∀ entry ∈ interpreter.commands, entry.2.Respects Session.Dispatches)
    {limit count : Nat}
    {session : Session}
    {result : Nat × Session}
    (drained : interpreter.drainFrom bound limit count session = some result) :
    ∃ more applied, result.1 = count + more ∧
      interpreter.Collects bound more session result.2 applied := by
  induction limit generalizing count session with
  | zero =>
      rcases drainFrom_cases drained with ⟨_, rfl⟩ | ⟨_, _, _, _, _, _, impossible, _⟩
      · exact ⟨0, [], rfl, .done session⟩
      · cases impossible
  | succ limit inductionHypothesis =>
      rcases drainFrom_cases drained with
        ⟨_, rfl⟩ | ⟨pending, outcome, exchange, fewer, middle, collected, same, completed, rest⟩
      · exact ⟨0, [], rfl, .done session⟩
      · obtain rfl := Nat.succ.inj same
        obtain ⟨id, first⟩ := Collects.complete respects collected completed
        obtain ⟨more, applied, counted, later⟩ := inductionHypothesis rest
        exact ⟨1 + more, _, by rw [counted, Nat.add_assoc], first.trans later⟩

theorem collects_settleFrom
    (respects : ∀ entry ∈ interpreter.commands, entry.2.Respects Session.Dispatches)
    (network : Web.Network)
    {turns count : Nat}
    {session : Session}
    {result : Nat × Session}
    (settled : interpreter.settleFrom (fun exchange => exchange.receive (network exchange)) bound
      turns count session = some result) :
    ∃ more applied, result.1 = count + more ∧
      interpreter.Collects bound more session result.2 applied := by
  induction turns generalizing count session with
  | zero =>
      obtain ⟨drained, first, ⟨_, rfl⟩ | ⟨_, impossible, _⟩⟩ := settleFrom_cases settled
      · exact collects_drainFrom respects first
      · cases impossible
  | succ turns inductionHypothesis =>
      obtain ⟨drained, first, ⟨_, rfl⟩ | ⟨fewer, same, rest⟩⟩ := settleFrom_cases settled
      · exact collects_drainFrom respects first
      · obtain rfl := Nat.succ.inj same
        obtain ⟨more, applied, sum, collects⟩ := collects_drainFrom respects first
        obtain ⟨others, later, sumLater, collectsLater⟩ := inductionHypothesis rest
        exact ⟨more + others, _, by rw [sumLater, sum, Nat.add_assoc],
          collects.trans collectsLater.receive⟩

end Interpreter

/-- Whether outcomes are collected in a step. -/
def Step.collects : Step → Bool
  | .drain | .settle _ | .collect => true
  | _ => false

namespace Interpreter

variable {interpreter : Interpreter} {bound : Nat}

/-- The outcomes of a step that collects any are collected in order. -/
theorem exists_collects_perform
    (respects : ∀ entry ∈ interpreter.commands, entry.2.Respects Session.Dispatches)
    {step : Step}
    (collecting : step.collects = true)
    {session : Session}
    {result : Nat × Session}
    (performed : interpreter.perform bound step session = some result) :
    ∃ applied, interpreter.Collects bound result.1 session result.2 applied := by
  cases step with
  | drain =>
      obtain ⟨more, applied, counted, collects⟩ := collects_drainFrom respects performed
      rw [Nat.zero_add] at counted
      exact ⟨applied, counted ▸ collects⟩
  | settle network =>
      obtain ⟨more, applied, counted, collects⟩ := collects_settleFrom respects network performed
      rw [Nat.zero_add] at counted
      exact ⟨applied, counted ▸ collects⟩
  | collect =>
      simp only [perform, collect] at performed
      cases collected : session.exchange.collect? with
      | none =>
          rw [collected] at performed
          obtain rfl := Option.some.inj performed
          exact ⟨[], .done session⟩
      | some taken =>
          obtain ⟨pending, outcome, exchange⟩ := taken
          rw [collected] at performed
          obtain ⟨after, completed, rfl⟩ := Option.map_eq_some_iff.mp performed
          obtain ⟨id, collects⟩ := Collects.complete respects collected completed
          exact ⟨_, collects⟩
  | event | command | set | remove | assign | resolve | arrive | connect | observe | unobserve =>
      cases collecting

/-- No other step counts an outcome. -/
theorem count_of_perform
    {step : Step}
    (idle : step.collects = false)
    {session : Session}
    {result : Nat × Session}
    (performed : interpreter.perform bound step session = some result) :
    result.1 = 0 := by
  cases step with
  | drain | settle | collect => cases idle
  | arrive | connect | observe | unobserve =>
      obtain rfl := Option.some.inj performed
      rfl
  | event | command | set | remove | assign | resolve =>
      obtain ⟨_, -, rfl⟩ := Option.map_eq_some_iff.mp performed
      rfl

/-- What becomes of requests when they end. -/
structure CompletesInOrder (interpreter : Interpreter) : Prop where
  /-- The end of a request is its agenda, in order and nothing else, whatever the commands in its
  events come to. -/
  agenda : ∀ (frame : Frame) (pending : Web.Pending) (outcome : Web.Outcome) (session : Session),
    frame.complete pending outcome session =
      frame.actAll (frame.settings.agenda pending outcome) session
  /-- The write of a body is an update or, where its path does not parse or cannot be written,
  nothing that counts; it never ends the agenda. -/
  write : ∀ (frame : Frame) (path : String) (value : Node) (session : Session),
    frame.act (.write path value) session =
      match session.placed? frame.evaluator frame.index path value with
      | none => some (session.parsed frame.evaluator frame.index path)
      | some update =>
          (session.parsed frame.evaluator frame.index path).update frame.bound update
  /-- A request is issued with the events of its payload and with the loop row of its command. -/
  issue : ∀ (frame : Frame) (payload target : Node) (request : Web.Request)
      (session after : Session),
    frame.rules.draft (frame.evaluateField payload) session = (.ok request, after) →
      Command.requestTo frame payload target session =
        some (after.issue request ⟨.ofPayload payload, Command.target? target, frame.index⟩)
  /-- Where outcomes are collected, the agenda of each is done, one after another, in the loop row
  in which its request was issued. -/
  collect : ∀ (bound : Nat) (step : Step) (session result : Session) (count : Nat),
    step.collects = true → interpreter.perform bound step session = some (count, result) →
      ∃ applied, interpreter.Collects bound count session result applied
  /-- No other step collects outcomes. -/
  idle : ∀ (bound : Nat) (step : Step) (session result : Session) (count : Nat),
    step.collects = false → interpreter.perform bound step session = some (count, result) →
      count = 0 ∧ result.exchange.ledger.collected = session.exchange.ledger.collected
  /-- No request ends twice. -/
  once : ∀ (bound : Nat) (steps : List Step) (session result : Session) (count : Nat),
    session.exchange.Reachable → interpreter.run bound steps session = some (count, result) →
      (Web.ids result.exchange.ledger.collected).Nodup
  /-- The end of a request without events and without a path for the body changes nothing but that
  one request less waits. -/
  unchanged : ∀ (bound : Nat) (session : Session) (pending : Web.Pending)
      (outcome : Web.Outcome) (exchange : Web.Exchange),
    session.exchange.Reachable →
      session.exchange.collect? = some (pending, outcome, exchange) →
      pending.callbacks = {} → pending.target = none →
      interpreter.collect bound session = some (1, { session with exchange := exchange }) ∧
        exchange.inFlight + 1 = session.exchange.inFlight

end Interpreter

/-- Nothing is on the agenda of a request without events and without a path for the body. -/
theorem Settings.agenda_eq_nil
    (settings : Settings)
    {pending : Web.Pending}
    (silent : pending.callbacks = {})
    (unwritten : pending.target = none)
    (outcome : Web.Outcome) :
    settings.agenda pending outcome = [] := by
  cases outcome with
  | error error => simp [agenda, outcomeActs, silent]
  | ok response =>
      unfold agenda outcomeActs
      split <;> simp [silent, unwritten]

namespace Interpreter

/-- Whatever the registered commands are, as long as they leave collecting to the interpreter, what
a request brings about when it ends is done once, in order and in its own loop row. -/
theorem completes_in_order
    (interpreter : Interpreter)
    (commands : ∀ entry ∈ interpreter.commands,
      entry ∈ Command.builtin ∨ entry.2.Respects Session.Dispatches) :
    interpreter.CompletesInOrder := by
  have respects := Session.closed_dispatches.registered commands
  constructor
  · exact Frame.complete_eq_actAll
  · exact fun frame path value session =>
      session.map_snd_assign frame.evaluator frame.bound frame.index path value
  · intro frame payload target request session after drafted
    rw [Command.requestTo, drafted]
    rfl
  · intro bound step session result count collecting performed
    exact exists_collects_perform respects collecting performed
  · intro bound step session result count idle performed
    obtain rfl := count_of_perform idle performed
    have plays : Web.Exchange.Plays 0 session.exchange result.exchange :=
      plays_perform respects bound performed
    exact ⟨rfl, plays.collected_eq⟩
  · intro bound steps session result count reachable ran
    have plays : Web.Exchange.Plays count session.exchange result.exchange :=
      plays_run respects bound ran
    have accounted := (plays.reachable reachable).balanced.accounted
    exact (List.nodup_append.mp (accounted.nodup_iff.mpr List.nodup_range)).1
  · intro bound session pending outcome exchange reachable collected silent unwritten
    have taken := Web.Exchange.plays_of_collect?_eq_some collected
    refine ⟨?_, ?_⟩
    · rw [collect, collected]
      simp only [Frame.complete_eq_actAll, Settings.agenda_eq_nil _ silent unwritten]
      rfl
    · obtain ⟨id, record⟩ := Web.Exchange.exists_noted_of_collect?_eq_some collected
      have before := reachable.balanced.orderly.total
      have after := (taken.reachable reachable).balanced.orderly.total
      rw [record] at after
      simp only [List.length_append, List.length_singleton] at after
      omega

/-- A response of success whose body has no path that parses: its event and the last event are
handled all the same, and no variable is left behind. -/
theorem completes_in_order_despite_path :
    let line (text : String) : Node := .mapping [("log", .string text)]
    let pending : Web.Pending :=
      ⟨{ onSuccess := some (line "done"), onFinally := some (line "end") }, some "title..", some 2⟩
    let start : Session :=
      { exchange := [.issue ⟨"https://a.example/", "GET", [], none⟩ pending,
          .finish 0 (.ok ⟨200, [], []⟩)].foldl Web.Exchange.move {} }
    ∃ final applied, Interpreter.perform {} 2 .drain start = some (1, final) ∧
      final.lines = ["done", "end"] ∧ final.context.bindings.length = 0 ∧
      Interpreter.Collects {} 2 1 start final applied ∧
      (Web.ids final.exchange.ledger.collected).Nodup := by
  intro line pending start
  have observed : (Interpreter.perform {} 2 .drain start).map
      (fun result => (result.1, result.2.lines, result.2.context.bindings.length)) =
        some (1, ["done", "end"], 0) := by
    decide +kernel
  obtain ⟨⟨count, final⟩, drained, same⟩ := Option.map_eq_some_iff.mp observed
  obtain ⟨rfl, rest⟩ := Prod.mk.inj same
  obtain ⟨lines, bindings⟩ := Prod.mk.inj rest
  have completes := completes_in_order {} fun _ builtIn => .inl builtIn
  obtain ⟨applied, collects⟩ := completes.collect 2 .drain start final 1 rfl drained
  have ran : Interpreter.run {} 2 [.drain] start = some (1 + 0, final) := by
    rw [run_cons, drained]
    rfl
  exact ⟨final, applied, drained, lines, bindings, collects,
    completes.once 2 [.drain] start final (1 + 0) ⟨true, _, rfl⟩ ran⟩

end Interpreter
end Storyboard
