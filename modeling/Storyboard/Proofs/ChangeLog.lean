import Storyboard.Proofs.Overlooked
import Storyboard.Proofs.Run

/-!
# The change log of a run

Whatever happens in a run whose observers only watch, variables change by updates
alone, and each update is announced.  So the notices of an observer that is registered
throughout are the chronicle of the variables, and a run that nobody watches ends in
the same session.
-/

namespace Storyboard

/-- Whether a step only concerns who watches. -/
def Step.isWatching : Step → Bool
  | .observe | .unobserve _ => true
  | _ => false

namespace Interpreter

/-- A counted result as nobody watches it or has watched it. -/
def mute (result : Nat × Session) : Nat × Session := (result.1, result.2.silence)

variable {interpreter : Interpreter}

theorem overlooked_resolve
    (bound : Nat)
    (index : Option Nat)
    (cap : Nat)
    {session : Session}
    (quiet : session.context.Quiet) :
    Overlooked (fun result => (result.1, result.2.silence)) (fun result => result.2.context)
      session.context
      (session.silence.resolve interpreter.evaluator bound index cap)
      (session.resolve interpreter.evaluator bound index cap) :=
  (interpreter.evaluator.overlooked_resolveAfter bound index session.shelf.entries 0 cap quiet
    session.paths).map (fun _ => rfl) fun _ => rfl

/-- Outcomes are collected the same where nobody watches, by induction on their number. -/
theorem overlooked_drainFrom
    (respects : ∀ entry ∈ interpreter.commands, entry.2.Respects Session.Watched)
    (bound limit count : Nat)
    {session : Session}
    (quiet : session.context.Quiet) :
    Overlooked mute (fun result => result.2.context) session.context
      (interpreter.drainFrom bound limit count session.silence)
      (interpreter.drainFrom bound limit count session) := by
  induction limit generalizing count session with
  | zero =>
      have sameCollect : session.silence.exchange.collect? = session.exchange.collect? := rfl
      unfold drainFrom
      rw [sameCollect]
      cases session.exchange.collect? with
      | none => exact .done (count, session) (.refl _)
      | some collected => exact .fail
  | succ limit inductionHypothesis =>
      have sameCollect : session.silence.exchange.collect? = session.exchange.collect? := rfl
      unfold drainFrom
      rw [sameCollect]
      cases session.exchange.collect? with
      | none => exact .done (count, session) (.refl _)
      | some collected =>
          obtain ⟨pending, outcome, exchange⟩ := collected
          have completed := Session.closed_watched.completeOuter respects pending.index bound
            pending outcome { session with exchange := exchange } quiet
          exact completed.bind quiet fun _ quietMiddle =>
            inductionHypothesis (count + 1) quietMiddle

/-- A session waits the same where nobody watches, by induction on the turns. -/
theorem overlooked_settleFrom
    (respects : ∀ entry ∈ interpreter.commands, entry.2.Respects Session.Watched)
    (arrive : Web.Exchange → Web.Exchange)
    (bound turns count : Nat)
    {session : Session}
    (quiet : session.context.Quiet) :
    Overlooked mute (fun result => result.2.context) session.context
      (interpreter.settleFrom arrive bound turns count session.silence)
      (interpreter.settleFrom arrive bound turns count session) := by
  induction turns generalizing count session with
  | zero =>
      unfold settleFrom
      refine (overlooked_drainFrom respects bound bound count quiet).bind quiet fun drained _ => ?_
      have sameWaiting : (mute drained).2.exchange.inFlight = drained.2.exchange.inFlight := rfl
      dsimp only
      rw [sameWaiting]
      split
      · exact .done drained (.refl _)
      · exact .fail
  | succ turns inductionHypothesis =>
      unfold settleFrom
      refine (overlooked_drainFrom respects bound bound count quiet).bind quiet
        fun drained quietMiddle => ?_
      have sameWaiting : (mute drained).2.exchange.inFlight = drained.2.exchange.inFlight := rfl
      dsimp only
      rw [sameWaiting]
      split
      · exact .done drained (.refl _)
      · have quietArrived : ({ drained.2 with
            exchange := arrive drained.2.exchange } : Session).context.Quiet := quietMiddle
        exact inductionHypothesis drained.1 quietArrived

/-- Every step of the app, its host or the network is made the same where nobody watches. -/
theorem overlooked_perform
    (respects : ∀ entry ∈ interpreter.commands, entry.2.Respects Session.Watched)
    (bound : Nat)
    (step : Step)
    (acts : step.isWatching = false)
    {session : Session}
    (quiet : session.context.Quiet) :
    Overlooked mute (fun result => result.2.context) session.context
      (interpreter.perform bound step session.silence)
      (interpreter.perform bound step session) := by
  cases step with
  | event index event =>
      exact (Session.closed_watched.handleOuter respects index bound event session quiet).map
        (fun _ => rfl) fun _ => rfl
  | command index command =>
      exact (Session.closed_watched.execute respects index bound command session quiet).map
        (fun _ => rfl) fun _ => rfl
  | set name value =>
      exact (Session.watched_update bound ⟨name, some value⟩ session quiet).map
        (fun _ => rfl) fun _ => rfl
  | remove name =>
      exact (Session.watched_update bound ⟨name, none⟩ session quiet).map
        (fun _ => rfl) fun _ => rfl
  | assign index path value =>
      have carried : ∀ other : Session, interpreter.perform bound (.assign index path value) other =
          ((other.assign interpreter.evaluator bound index path value).map Prod.snd).map
            (Prod.mk 0) := by
        intro other
        rw [Option.map_map]
        rfl
      rw [carried, carried]
      exact (Session.watched_assign interpreter.evaluator bound index path value session
        quiet).map (fun _ => rfl) fun _ => rfl
  | resolve index cap =>
      exact (overlooked_resolve bound index cap quiet).map (fun _ => rfl) fun _ => rfl
  | drain => exact overlooked_drainFrom respects bound bound 0 quiet
  | settle network => exact overlooked_settleFrom respects _ bound bound 0 quiet
  | collect =>
      have sameCollect : session.silence.exchange.collect? = session.exchange.collect? := rfl
      simp only [perform, collect]
      rw [sameCollect]
      cases session.exchange.collect? with
      | none => exact .done (0, session) (.refl _)
      | some collected =>
          obtain ⟨pending, outcome, exchange⟩ := collected
          have completed := Session.closed_watched.completeOuter respects pending.index bound
            pending outcome { session with exchange := exchange } quiet
          exact completed.map (fun _ => rfl) fun _ => rfl
  | arrive id outcome =>
      exact .done (0, { session with exchange := session.exchange.finish id outcome }) (.refl _)
  | connect online =>
      exact .done (0, { session with exchange := { session.exchange with online := online } })
        (.refl _)
  | observe | unobserve => cases acts

/-- A step that only concerns who watches leaves the rest of a quiet session alone. -/
theorem exists_perform_of_isWatching
    (interpreter : Interpreter)
    (bound : Nat)
    {step : Step}
    (watching : step.isWatching = true)
    {session : Session}
    (quiet : session.context.Quiet) :
    ∃ after, interpreter.perform bound step session = some (0, after) ∧
      after.silence = session.silence ∧ after.context.Quiet := by
  cases step with
  | observe => exact ⟨_, rfl, rfl, quiet.observe⟩
  | unobserve id => exact ⟨_, rfl, rfl, quiet.unobserve id⟩
  | _ => cases watching

/-- One step leaves a registered observer registered, and all that the observer hears meanwhile is
the chronicle of the variables. -/
theorem recounts_perform
    (respects : ∀ entry ∈ interpreter.commands, entry.2.Respects Session.Watched)
    (bound : Nat)
    {id : Nat}
    {step : Step}
    (stays : step ≠ .unobserve id)
    {session : Session}
    (attended : session.context.Attended id)
    {result : Nat × Session}
    (performed : interpreter.perform bound step session = some result) :
    result.2.context.Attended id ∧
      Context.Recounts id session.context result.2.context := by
  cases acts : step.isWatching with
  | false =>
      have evolves :=
        (overlooked_perform respects bound step acts attended.quiet).evolves result performed
      exact ⟨attended.evolve evolves, evolves.recounts attended⟩
  | true =>
      cases step with
      | observe =>
          obtain rfl := Option.some.inj performed
          exact ⟨attended.observe, .refl id session.context⟩
      | unobserve other =>
          have apart : other ≠ id := fun same => stays (same ▸ rfl)
          obtain rfl := Option.some.inj performed
          exact ⟨attended.unobserve apart, .refl id session.context⟩
      | _ => cases acts

/-- The step lemma along a run. -/
theorem recounts_run
    (respects : ∀ entry ∈ interpreter.commands, entry.2.Respects Session.Watched)
    (bound : Nat)
    {id : Nat}
    {steps : List Step}
    (stays : .unobserve id ∉ steps)
    {session : Session}
    (attended : session.context.Attended id)
    {result : Nat × Session}
    (ran : interpreter.run bound steps session = some result) :
    Context.Recounts id session.context result.2.context := by
  induction steps generalizing session result with
  | nil =>
      obtain rfl := Option.some.inj ran
      exact .refl id session.context
  | cons step rest inductionHypothesis =>
      rw [List.mem_cons, not_or] at stays
      obtain ⟨middle, last, performed, others, rfl⟩ := exists_of_run_cons ran
      obtain ⟨attendedMiddle, first⟩ :=
        recounts_perform respects bound (Ne.symm stays.1) attended performed
      have later : Context.Recounts id middle.2.context last.2.context :=
        inductionHypothesis stays.2 attendedMiddle others
      exact first.trans later

/-- A run that nobody watches ends in the same session, by induction on the steps. -/
theorem run_silence
    (respects : ∀ entry ∈ interpreter.commands, entry.2.Respects Session.Watched)
    (bound : Nat)
    (steps : List Step)
    {session : Session}
    (quiet : session.context.Quiet) :
    interpreter.run bound (steps.filter fun step => !step.isWatching) session.silence =
      (interpreter.run bound steps session).map mute := by
  induction steps generalizing session with
  | nil => rfl
  | cons step rest inductionHypothesis =>
      cases acts : step.isWatching with
      | true =>
          obtain ⟨after, performed, silent, quietAfter⟩ :=
            exists_perform_of_isWatching interpreter bound acts quiet
          rw [List.filter_cons_of_neg (by simp [acts]), run_cons, performed, ← silent,
            inductionHypothesis quietAfter, Option.bind_some, Option.map_map]
          congr 1
          funext last
          simp [mute]
      | false =>
          obtain ⟨same, evolves⟩ := overlooked_perform respects bound step acts quiet
          rw [List.filter_cons_of_pos (by simp [acts]), run_cons, run_cons, same]
          cases performed : interpreter.perform bound step session with
          | none => rfl
          | some first =>
              have quietAfter := quiet.evolve (evolves first performed)
              simp only [Option.map_some, Option.bind_some, mute,
                inductionHypothesis quietAfter, Option.map_map]
              rfl

/-- An observer that is registered throughout a run hears one notice for every change.  Each tells
what its variable held at that moment, and the changes made in order lead from the variables at
the start to those at the end.  Where nobody watches the run ends in the same session. -/
theorem change_log_of_run
    (interpreter : Interpreter)
    (bound : Nat)
    (steps : List Step)
    (start : Session)
    (id : Nat)
    (commands : ∀ entry ∈ interpreter.commands,
      entry ∈ Command.builtin ∨ entry.2.Respects Session.Watched)
    (attended : start.context.Attended id)
    (stays : .unobserve id ∉ steps) :
    interpreter.run bound (steps.filter fun step => !step.isWatching) start.silence =
        (interpreter.run bound steps start).map mute ∧
      ∀ count final, interpreter.run bound steps start = some (count, final) →
        ∃ log, final.context.heard id = start.context.heard id ++ log ∧
          final.context.revision = start.context.revision + log.length ∧
          Chronicle start.context.bindings log final.context.bindings ∧
          (∀ notice ∈ log, notice.change.old = notice.stored ∧ notice.change.Counts) ∧
          (log.map Notice.change).foldl Variables.amend start.context.bindings =
            final.context.bindings := by
  have respects := Session.closed_watched.registered commands
  refine ⟨run_silence respects bound steps attended.quiet, ?_⟩
  intro count final ran
  obtain ⟨log, heard, chronicle, revision⟩ := recounts_run respects bound stays attended ran
  exact ⟨log, heard, revision, chronicle, fun notice member => chronicle.of_mem member,
    chronicle.foldl_amend⟩

/-- A variable is set, set again, and removed while a second observer comes and an event closes
all screens: the first observer hears of two changes. -/
theorem change_log_of_three_writes :
    let start : Session :=
      { context :=
          { bindings := [("title", .string "old")]
            observers := [⟨0, Observer.watch⟩]
            nextObserver := 1 } }
    let steps : List Step :=
      [.set "count" (.bool true), .observe, .set "count" (.bool true),
        .event none (.mapping [("popToRoot", .null)]), .remove "title"]
    start.context.Attended 0 ∧ .unobserve 0 ∉ steps ∧
      ∃ final log, Interpreter.run {} 1 steps start = some (0, final) ∧
        final.context.heard 0 = start.context.heard 0 ++ log ∧
        final.context.revision = 2 ∧ log.length = 2 ∧
        (log.map Notice.change).foldl Variables.amend start.context.bindings =
          final.context.bindings := by
  intro start steps
  have attended : start.context.Attended 0 := by
    refine ⟨?_, ⟨by decide, ?_⟩, List.mem_singleton_self 0⟩
    · intro observer member
      obtain rfl := List.mem_singleton.mp member
      exact Observer.passive_watch 0
    · intro observer member
      obtain rfl := List.mem_singleton.mp member
      decide
  have stays : .unobserve 0 ∉ steps := by simp [steps]
  have counted : (Interpreter.run {} 1 steps start).map
      (fun result => (result.1, result.2.context.revision)) = some (0, 2) := rfl
  obtain ⟨⟨count, final⟩, ran, same⟩ := Option.map_eq_some_iff.mp counted
  obtain ⟨rfl, revision⟩ := Prod.mk.inj same
  obtain ⟨_, told⟩ := change_log_of_run {} 1 steps start 0 (fun _ builtIn => Or.inl builtIn)
    attended stays
  obtain ⟨log, heard, counts, _, _, replayed⟩ := told 0 final ran
  have length : log.length = 2 := by
    have startRevision : start.context.revision = 0 := rfl
    rw [revision, startRevision, Nat.zero_add] at counts
    exact counts.symm
  exact ⟨attended, stays, final, log, ran, heard, revision, length, replayed⟩

end Interpreter
end Storyboard
