import Storyboard.Proofs.Assignment
import Storyboard.Proofs.Command.Closure
import Storyboard.Proofs.Context.Chronicle

/-!
# What watching does not change

Where observers only watch, everything that commands and resolutions do is done the
same as if nobody watched, and the variables change by updates alone.
-/

namespace Storyboard

/-- What becomes of a context where nobody watches and where somebody does: the same, and by
updates alone. -/
structure Overlooked
    {α : Type}
    (mute : α → α)
    (contextOf : α → Context)
    (start : Context)
    (silent loud : Option α) : Prop where
  /-- Nobody's watching has a say in the result. -/
  same : silent = loud.map mute
  /-- The context of the result comes from the start by updates. -/
  evolves : ∀ result, loud = some result → start.Evolves (contextOf result)

namespace Overlooked

variable {α β : Type} {mute : α → α} {contextOf : α → Context} {start : Context}
  {muteNext : β → β} {contextOfNext : β → Context}

theorem fail : Overlooked mute contextOf start none none :=
  ⟨rfl, fun _ impossible => by cases impossible⟩

/-- A result whose context comes from the start by updates. -/
theorem done
    (result : α)
    (evolves : start.Evolves (contextOf result)) :
    Overlooked mute contextOf start (some (mute result)) (some result) := by
  refine ⟨rfl, fun other same => ?_⟩
  cases same
  exact evolves

/-- What follows may start from the result, and is quiet if the start is. -/
theorem bind
    {silent loud : Option α}
    {next : α → Option β}
    (quiet : start.Quiet)
    (first : Overlooked mute contextOf start silent loud)
    (second : ∀ result, (contextOf result).Quiet →
      Overlooked muteNext contextOfNext (contextOf result) (next (mute result)) (next result)) :
    Overlooked muteNext contextOfNext start (silent >>= next) (loud >>= next) := by
  obtain ⟨rfl, evolves⟩ := first
  cases loud with
  | none => exact fail
  | some result =>
      have evolvesFirst := evolves result rfl
      obtain ⟨same, evolvesSecond⟩ := second result (quiet.evolve evolvesFirst)
      exact ⟨same, fun other finished => evolvesFirst.trans (evolvesSecond other finished)⟩

/-- A result that is carried along in another. -/
theorem map
    {silent loud : Option α}
    (first : Overlooked mute contextOf start silent loud)
    {carry : α → β}
    (muted : ∀ result, carry (mute result) = muteNext (carry result))
    (carried : ∀ result, contextOfNext (carry result) = contextOf result) :
    Overlooked muteNext contextOfNext start (silent.map carry) (loud.map carry) := by
  obtain ⟨rfl, evolves⟩ := first
  constructor
  · cases loud with
    | none => rfl
    | some result => exact congrArg some (muted result)
  · intro other finished
    obtain ⟨result, done, rfl⟩ := Option.map_eq_some_iff.mp finished
    rw [carried]
    exact evolves result done

end Overlooked

namespace Session

/-- The session as nobody watches it or has watched it. -/
def silence (session : Session) : Session :=
  { session with context := session.context.silence }

/-- An operation that does the same where nobody watches, and changes variables by updates
alone. -/
def Watched (operation : Session → Option Session) : Prop :=
  ∀ session : Session, session.context.Quiet →
    Overlooked silence Session.context session.context (operation session.silence)
      (operation session)

theorem evaluate_silence
    (session : Session)
    (evaluator : Evaluator)
    (index : Option Nat)
    (node : Node) :
    session.silence.evaluate evaluator index node =
      ((session.evaluate evaluator index node).1,
        (session.evaluate evaluator index node).2.silence) := by
  have sameScope : session.silence.scope index = session.scope index := rfl
  have samePaths : session.silence.paths = session.paths := rfl
  unfold Session.evaluate
  rw [sameScope, samePaths]
  generalize evaluator.evaluate (session.scope index) node session.paths = result
  rfl

/-- One update of a quiet session has a closed form. -/
theorem update_of_quiet
    (bound : Nat)
    (update : Update)
    {session : Session}
    (quiet : session.context.Quiet) :
    session.update bound update =
      some { session with context := session.context.revise update } := by
  unfold Session.update
  rw [Context.update_of_quiet bound update quiet]
  rfl

theorem silence_revise
    (session : Session)
    (update : Update) :
    { session.silence with context := session.silence.context.revise update } =
      ({ session with context := session.context.revise update } : Session).silence := by
  unfold silence
  rw [Context.silence_revise]

/-- An operation that changes no variable. -/
theorem watched_of_unchanged
    {operation : Session → Session}
    (silent : ∀ session : Session, operation session.silence = (operation session).silence)
    (unchanged : ∀ session : Session, (operation session).context = session.context) :
    Watched fun session => some (operation session) := by
  intro session _
  dsimp only
  rw [silent]
  exact .done _ (unchanged session ▸ .refl _)

theorem watched_update
    (bound : Nat)
    (update : Update) :
    Watched fun session => session.update bound update := by
  intro session quiet
  have silent : session.silence.context.Quiet := session.context.quiet_silence
  dsimp only
  rw [update_of_quiet bound update quiet, update_of_quiet bound update silent, silence_revise]
  exact .done _ (Context.evolves_revise session.context update)

theorem Watched.andThen
    {first second : Session → Option Session}
    (watchedFirst : Watched first)
    (watchedSecond : Watched second) :
    Watched fun session => first session >>= second := by
  intro session quiet
  exact (watchedFirst session quiet).bind quiet fun middle => watchedSecond middle

theorem watched_assign
    (evaluator : Evaluator)
    (bound : Nat)
    (index : Option Nat)
    (path : String)
    (value : Node) :
    Watched fun session => (session.assign evaluator bound index path value).map Prod.snd := by
  intro session quiet
  have samePlaced : session.silence.placed? evaluator index path value =
      session.placed? evaluator index path value := rfl
  have sameParsed : session.silence.parsed evaluator index path =
      (session.parsed evaluator index path).silence := rfl
  dsimp only
  rw [map_snd_assign, map_snd_assign, samePlaced, sameParsed]
  cases session.placed? evaluator index path value with
  | none => exact .done _ (.refl _)
  | some update => exact watched_update bound update (session.parsed evaluator index path) quiet

theorem watched_during
    (frame : Frame)
    (name : String)
    (value : Node)
    {body : Session → Option Session}
    (watched : Watched body) :
    Watched (frame.during name value body) := by
  intro session quiet
  have sets := watched_update frame.bound ⟨name, some value⟩
  have restores := watched_update frame.bound ⟨name, session.context.get? name⟩
  exact (sets.andThen (watched.andThen restores)) session quiet

/-- Everything that built-in commands do is done the same where nobody watches. -/
theorem closed_watched : Closed Watched where
  fail _ _ := .fail
  stay := watched_of_unchanged (fun _ => rfl) (fun _ => rfl)
  andThen first second := first.andThen second
  evaluate evaluator index node next each := by
    intro session quiet
    dsimp only
    rw [evaluate_silence]
    have later := each (session.evaluate evaluator index node).1
      (session.evaluate evaluator index node).2
    rw [context_evaluate] at later
    exact later quiet
  assign := watched_assign
  during frame name value body := watched_during frame name value
  note _ := watched_of_unchanged (fun _ => rfl) (fun _ => rfl)
  push id _ next each := by
    intro session quiet
    exact each (session.onAppear? id) (session.push id) quiet
  pop := watched_of_unchanged (fun _ => rfl) (fun _ => rfl)
  popToRoot := watched_of_unchanged (fun _ => rfl) (fun _ => rfl)
  store _ _ := watched_of_unchanged (fun _ => rfl) (fun _ => rfl)
  log _ := watched_of_unchanged (fun _ => rfl) (fun _ => rfl)
  issue _ _ := watched_of_unchanged (fun _ => rfl) (fun _ => rfl)

end Session

/-! ## Resolution -/

namespace Evaluator

/-- The progress of a resolution that nobody watches. -/
def Progress.silence (progress : Progress) : Progress :=
  { progress with context := progress.context.silence }

variable (evaluator : Evaluator) (bound : Nat) (index : Option Nat)
  (stored : List (String × Node))

theorem overlooked_resolveVariable
    {progress : Progress}
    (quiet : progress.context.Quiet)
    (name : String) :
    Overlooked Progress.silence Progress.context progress.context
      (evaluator.resolveVariable bound index stored progress.silence name)
      (evaluator.resolveVariable bound index stored progress name) := by
  have sameValue : progress.silence.context.get? name = progress.context.get? name := rfl
  unfold resolveVariable
  rw [sameValue]
  cases progress.context.get? name with
  | none => exact .done _ (.refl _)
  | some value =>
      have sameBindings : progress.silence.context.bindings = progress.context.bindings := rfl
      have sameCache : progress.silence.cache = progress.cache := rfl
      simp only [sameBindings, sameCache]
      generalize evaluator.evaluate ⟨progress.context.bindings, index, stored⟩ value
        progress.cache = result
      obtain ⟨resolved, cache⟩ := result
      split
      · split
        · exact .done (⟨progress.context, cache, progress.changed⟩ : Progress) (.refl _)
        · have silentSet : progress.silence.context.set bound name resolved =
              some (progress.context.revise ⟨name, some resolved⟩).silence := by
            rw [Context.silence_revise]
            exact Context.update_of_quiet bound _ progress.context.quiet_silence
          have loudSet : progress.context.set bound name resolved =
              some (progress.context.revise ⟨name, some resolved⟩) :=
            Context.update_of_quiet bound _ quiet
          rw [silentSet, loudSet]
          exact .done
            (⟨progress.context.revise ⟨name, some resolved⟩, cache, true⟩ : Progress)
            (Context.evolves_revise _ _)
      · exact .done _ (.refl _)

theorem overlooked_foldlM_resolveVariable
    (names : List String)
    {progress : Progress}
    (quiet : progress.context.Quiet) :
    Overlooked Progress.silence Progress.context progress.context
      (names.foldlM (evaluator.resolveVariable bound index stored) progress.silence)
      (names.foldlM (evaluator.resolveVariable bound index stored) progress) := by
  induction names generalizing progress with
  | nil => exact .done _ (.refl _)
  | cons name rest inductionHypothesis =>
      simp only [List.foldlM_cons]
      exact (overlooked_resolveVariable evaluator bound index stored quiet name).bind quiet
        fun _ quietMiddle => inductionHypothesis quietMiddle

/-- A resolution has the same effect where nobody watches, by induction on the passes. -/
theorem overlooked_resolveAfter
    (made allowed : Nat)
    {context : Context}
    (quiet : context.Quiet)
    (cache : Path.Cache) :
    Overlooked (fun result => (result.1, result.2.1.silence, result.2.2))
      (fun result => result.2.1) context
      (evaluator.resolveAfter bound index stored made allowed context.silence cache)
      (evaluator.resolveAfter bound index stored made allowed context cache) := by
  induction allowed generalizing made context cache with
  | zero => exact .done ((⟨made, false⟩, context, cache) : Report × Context × Path.Cache) (.refl _)
  | succ allowed inductionHypothesis =>
      have pass : (⟨context, cache, false⟩ : Progress).context.Quiet := quiet
      refine (overlooked_foldlM_resolveVariable evaluator bound index stored context.names
        pass).bind quiet fun progress quietMiddle => ?_
      have sameChanged : progress.silence.changed = progress.changed := rfl
      rw [sameChanged]
      cases progress.changed with
      | true => exact inductionHypothesis (made + 1) quietMiddle progress.cache
      | false =>
          exact .done
            ((⟨made + 1, true⟩, progress.context, progress.cache) :
              Report × Context × Path.Cache) (.refl _)

end Evaluator
end Storyboard
