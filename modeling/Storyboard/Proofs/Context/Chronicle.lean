import Storyboard.Proofs.Context.Quiet

/-!
# Notices as a chronicle of the variables

Where observers only watch, the notices that one of them gets tell the whole story:
each says what its variable held at that moment, announces a change that counts, and
the changes made in order lead from the variables at the start to those at the end.
Nobody's watching has a say in what becomes of the variables.
-/

namespace Storyboard

/-- The variables after a change. -/
def Variables.amend (bindings : Variables) (change : Change) : Variables :=
  match change.new with
  | some value => Table.insert bindings change.name value
  | none => Table.erase bindings change.name

/-- A change that makes a difference: a value that is not shallowly equal to the old one, or the
removal of a variable that is set. -/
def Change.Counts (change : Change) : Prop :=
  match change.new, change.old with
  | some value, some old => Node.shallowEq old value = false
  | some _, none => True
  | none, old => old.isSome = true

/-- Notices that tell, one after another, how variables become others. -/
inductive Chronicle : Variables → List Notice → Variables → Prop where
  /-- Without a notice nothing happens. -/
  | rest (bindings : Variables) : Chronicle bindings [] bindings
  /-- A notice tells of the variables as they are, and the next ones of what it makes of them. -/
  | change {bindings final : Variables} {notice : Notice} {later : List Notice} :
      notice.change.old = Table.get? bindings notice.change.name →
      notice.stored = Table.get? bindings notice.change.name →
      notice.change.Counts →
      Chronicle (bindings.amend notice.change) later final →
      Chronicle bindings (notice :: later) final

namespace Chronicle

/-- One notice tells of one change. -/
theorem single
    {bindings : Variables}
    {notice : Notice}
    (old : notice.change.old = Table.get? bindings notice.change.name)
    (stored : notice.stored = Table.get? bindings notice.change.name)
    (counts : notice.change.Counts) :
    Chronicle bindings [notice] (bindings.amend notice.change) :=
  .change old stored counts (.rest _)

/-- A chronicle may be continued. -/
theorem append
    {bindings middle final : Variables}
    {earlier later : List Notice}
    (first : Chronicle bindings earlier middle)
    (second : Chronicle middle later final) :
    Chronicle bindings (earlier ++ later) final := by
  induction first with
  | rest => exact second
  | change old stored counts _ inductionHypothesis =>
      exact .change old stored counts (inductionHypothesis second)

/-- The changes of a chronicle, made in order, lead to its end. -/
theorem foldl_amend
    {bindings final : Variables}
    {notices : List Notice}
    (chronicle : Chronicle bindings notices final) :
    (notices.map Notice.change).foldl Variables.amend bindings = final := by
  induction chronicle with
  | rest => rfl
  | change _ _ _ _ inductionHypothesis => exact inductionHypothesis

/-- Every notice of a chronicle tells what its variable held and of a change that counts. -/
theorem of_mem
    {bindings final : Variables}
    {notices : List Notice}
    (chronicle : Chronicle bindings notices final)
    {notice : Notice}
    (member : notice ∈ notices) :
    notice.change.old = notice.stored ∧ notice.change.Counts := by
  induction chronicle with
  | rest => cases member
  | change old stored counts _ inductionHypothesis =>
      rcases List.mem_cons.mp member with same | later
      · subst same
        exact ⟨old.trans stored.symm, counts⟩
      · exact inductionHypothesis later

end Chronicle

namespace Context

/-- The numbers of the observers are distinct and were all given out. -/
structure Numbered (context : Context) : Prop where
  /-- No two observers share a number. -/
  distinct : (context.observers.map Observer.id).Nodup
  /-- Every number was given out. -/
  below : ∀ observer ∈ context.observers, observer.id < context.nextObserver

/-- Whether an observer of this number is registered. -/
def Watches (context : Context) (id : Nat) : Prop :=
  id ∈ context.observers.map Observer.id

/-- The notices that an observer got. -/
def heard (context : Context) (id : Nat) : List Notice :=
  context.notices.filter fun notice => notice.observer == id

/-- A context that nobody watches or has watched. -/
def silence (context : Context) : Context :=
  { bindings := context.bindings
    revision := context.revision }

/-- A context becomes another by updates. -/
def Evolves (context after : Context) : Prop :=
  ∃ updates : List Update, after = updates.foldl revise context

theorem Evolves.refl (context : Context) : context.Evolves context := ⟨[], rfl⟩

theorem Evolves.trans
    {first second third : Context}
    (earlier : first.Evolves second)
    (later : second.Evolves third) :
    first.Evolves third := by
  obtain ⟨updates, rfl⟩ := earlier
  obtain ⟨others, rfl⟩ := later
  exact ⟨updates ++ others, by rw [List.foldl_append]⟩

theorem evolves_revise
    (context : Context)
    (update : Update) :
    context.Evolves (context.revise update) := ⟨[update], rfl⟩

/-- What an update keeps is kept however a context evolves. -/
theorem Evolves.keeps
    {kept : Context → Prop}
    (step : ∀ context update, kept context → kept (context.revise update))
    {context after : Context}
    (evolves : context.Evolves after)
    (start : kept context) :
    kept after := by
  obtain ⟨updates, rfl⟩ := evolves
  induction updates generalizing context with
  | nil => exact start
  | cons update rest inductionHypothesis =>
      exact inductionHypothesis (step context update start)

theorem quiet_silence (context : Context) : context.silence.Quiet := by
  intro observer member
  exact absurd member List.not_mem_nil

/-- An update has the same effect where nobody watches. -/
theorem silence_revise
    (context : Context)
    (update : Update) :
    (context.revise update).silence = context.silence.revise update := by
  have sameIdle : context.silence.idle update = context.idle update := rfl
  unfold revise
  rw [sameIdle]
  split
  · rfl
  · simp [silence, record, commit]

theorem Quiet.evolve
    {context after : Context}
    (quiet : context.Quiet)
    (evolves : context.Evolves after) :
    after.Quiet :=
  evolves.keeps (fun _ update quiet => quiet.revise update) quiet

theorem Numbered.evolve
    {context after : Context}
    (numbered : context.Numbered)
    (evolves : context.Evolves after) :
    after.Numbered := by
  refine evolves.keeps (fun context update numbered => ?_) numbered
  constructor
  · rw [observers_revise]
    exact numbered.distinct
  · rw [observers_revise, nextObserver_revise]
    exact numbered.below

theorem Watches.evolve
    {context after : Context}
    {id : Nat}
    (watches : context.Watches id)
    (evolves : context.Evolves after) :
    after.Watches id := by
  have step : ∀ (context : Context) (update : Update),
      context.Watches id → (context.revise update).Watches id := by
    intro context update watches
    unfold Watches
    rw [observers_revise]
    exact watches
  exact evolves.keeps step watches

/-- One call of each of several observers is one call of any one of them. -/
theorem filter_notices
    {observers : List Observer}
    (distinct : (observers.map Observer.id).Nodup)
    {id : Nat}
    (registered : id ∈ observers.map Observer.id)
    (change : Change)
    (stored : Option Node) :
    ((observers.map fun observer => (⟨observer.id, change, stored⟩ : Notice)).filter
      fun notice => notice.observer == id) = [⟨id, change, stored⟩] := by
  induction observers with
  | nil => cases registered
  | cons observer rest inductionHypothesis =>
      rw [List.map_cons, List.nodup_cons] at distinct
      by_cases same : observer.id = id
      · have others : ((rest.map fun observer => (⟨observer.id, change, stored⟩ : Notice)).filter
            fun notice => notice.observer == id) = [] := by
          rw [List.filter_eq_nil_iff]
          intro notice member
          obtain ⟨other, otherMember, rfl⟩ := List.mem_map.mp member
          have apart : other.id ≠ id := by
            intro equal
            exact distinct.1 (same.trans equal.symm ▸ List.mem_map_of_mem otherMember)
          simpa using apart
        simp [same, others]
      · have registeredLater : id ∈ rest.map Observer.id := by
          rw [List.map_cons] at registered
          rcases List.mem_cons.mp registered with equal | later
          · exact absurd equal.symm same
          · exact later
        simp [same, inductionHypothesis distinct.2 registeredLater]

/-- An update that is not idle is a change that counts. -/
theorem counts_changeOf
    {context : Context}
    {update : Update}
    (busy : context.idle update = false) :
    (context.changeOf update).Counts := by
  unfold idle at busy
  unfold Change.Counts changeOf
  cases value : update.value <;> cases old : context.get? update.name <;> simp_all

/-- What an observer hears from one context to another is the chronicle of the variables, with one
notice for every change. -/
def Recounts (id : Nat) (context after : Context) : Prop :=
  ∃ log, after.heard id = context.heard id ++ log ∧
    Chronicle context.bindings log after.bindings ∧
    after.revision = context.revision + log.length

theorem Recounts.refl
    (id : Nat)
    (context : Context) :
    Recounts id context context :=
  ⟨[], (List.append_nil _).symm, .rest _, rfl⟩

theorem Recounts.trans
    {id : Nat}
    {first second third : Context}
    (earlier : Recounts id first second)
    (later : Recounts id second third) :
    Recounts id first third := by
  obtain ⟨log, heard, chronicle, revision⟩ := earlier
  obtain ⟨others, heardLater, chronicleLater, revisionLater⟩ := later
  refine ⟨log ++ others, ?_, chronicle.append chronicleLater, ?_⟩
  · rw [heardLater, heard, List.append_assoc]
  · rw [revisionLater, revision, List.length_append, Nat.add_assoc]

/-- A context whose observers only watch, have distinct numbers, and include a certain one. -/
structure Attended (id : Nat) (context : Context) : Prop where
  /-- No observer writes. -/
  quiet : context.Quiet
  /-- Each observer has a number of its own. -/
  numbered : context.Numbered
  /-- The observer is registered. -/
  watches : context.Watches id

theorem Attended.evolve
    {id : Nat}
    {context after : Context}
    (attended : context.Attended id)
    (evolves : context.Evolves after) :
    after.Attended id :=
  ⟨attended.quiet.evolve evolves, attended.numbered.evolve evolves,
    attended.watches.evolve evolves⟩

/-- One update is told to every registered observer once, or changes nothing. -/
theorem recounts_revise
    {id : Nat}
    {context : Context}
    (attended : context.Attended id)
    (update : Update) :
    Recounts id context (context.revise update) := by
  cases idle : context.idle update with
  | true =>
      rw [revise_of_idle idle]
      exact .refl id context
  | false =>
      rw [revise_of_not_idle idle]
      refine ⟨[⟨id, context.changeOf update, context.get? update.name⟩], ?_, ?_, rfl⟩
      · unfold heard
        rw [notices_commit, record, List.filter_append,
          filter_notices attended.numbered.distinct attended.watches]
      · have amended : ((context.record update).commit update).bindings =
            context.bindings.amend (context.changeOf update) := rfl
        rw [amended]
        exact Chronicle.single rfl rfl (counts_changeOf idle)

/-- However a context evolves, what a registered observer hears is the chronicle of it. -/
theorem Evolves.recounts
    {id : Nat}
    {context after : Context}
    (evolves : context.Evolves after)
    (attended : context.Attended id) :
    Recounts id context after := by
  obtain ⟨updates, rfl⟩ := evolves
  induction updates generalizing context with
  | nil => exact .refl id context
  | cons update rest inductionHypothesis =>
      have first := recounts_revise attended update
      have later := inductionHypothesis (attended.evolve (context.evolves_revise update))
      exact first.trans later

/-! ## Observers come and go -/

/-- Another observer that only watches leaves a context quiet. -/
theorem Quiet.observe
    {context : Context}
    (quiet : context.Quiet) :
    ((context.observe Observer.watch).2).Quiet := by
  intro observer member
  rcases List.mem_append.mp member with old | new
  · exact quiet observer old
  · obtain rfl := List.mem_singleton.mp new
    exact Observer.passive_watch context.nextObserver

theorem Quiet.unobserve
    {context : Context}
    (quiet : context.Quiet)
    (id : Nat) :
    (context.unobserve id).Quiet := by
  intro observer member
  exact quiet observer (List.mem_filter.mp member).1

/-- Another observer that only watches leaves a context attended. -/
theorem Attended.observe
    {id : Nat}
    {context : Context}
    (attended : context.Attended id) :
    ((context.observe Observer.watch).2).Attended id := by
  refine ⟨attended.quiet.observe, ⟨?_, ?_⟩, ?_⟩
  · simp only [Context.observe, List.map_append, List.map_cons, List.map_nil]
    refine List.nodup_append.mpr ⟨attended.numbered.distinct, by simp, ?_⟩
    intro old oldMember new newMember
    obtain ⟨observer, member, rfl⟩ := List.mem_map.mp oldMember
    obtain rfl := List.mem_singleton.mp newMember
    exact Nat.ne_of_lt (attended.numbered.below observer member)
  · intro observer member
    rcases List.mem_append.mp member with old | new
    · exact Nat.lt_succ_of_lt (attended.numbered.below observer old)
    · obtain rfl := List.mem_singleton.mp new
      exact Nat.lt_succ_self context.nextObserver
  · have watches : id ∈ context.observers.map Observer.id := attended.watches
    simp only [Watches, Context.observe, List.map_append, List.mem_append]
    exact Or.inl watches

/-- The end of another observer leaves a context attended. -/
theorem Attended.unobserve
    {id other : Nat}
    {context : Context}
    (attended : context.Attended id)
    (apart : other ≠ id) :
    (context.unobserve other).Attended id := by
  have sublist : (context.unobserve other).observers.Sublist context.observers :=
    List.filter_sublist
  refine ⟨attended.quiet.unobserve other, ⟨?_, ?_⟩, ?_⟩
  · exact attended.numbered.distinct.sublist (sublist.map Observer.id)
  · exact fun observer member => attended.numbered.below observer (sublist.subset member)
  · obtain ⟨observer, member, same⟩ := List.mem_map.mp attended.watches
    refine List.mem_map.mpr ⟨observer, List.mem_filter.mpr ⟨member, ?_⟩, same⟩
    simpa [same] using apart.symm

end Context
end Storyboard
