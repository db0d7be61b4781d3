import Storyboard.Operator.Builtin
import Storyboard.Proofs.Resolution.Passes

/-!
# Resolutions end in fixed points

A resolution is followed pass by pass.  It ends with the first pass that writes nothing,
or when all passes that are allowed were made.  In the first case it has reached a fixed
point: every expression that is left evaluates to itself, and a further resolution has
nothing to do.
-/

namespace Storyboard
namespace Evaluator

/-- The contexts and the caches before and after each of some passes.  A pass is said to have
changed something exactly when the revision has grown. -/
structure Course (evaluator : Evaluator) (bound : Nat) (index : Option Nat)
    (stored : List (String × Node)) (passes : Nat) where
  /-- The context after a number of passes. -/
  contexts : Nat → Context
  /-- The cache after a number of passes. -/
  caches : Nat → Path.Cache
  /-- Every pass starts from what the one before has left. -/
  step : ∀ pass < passes,
    evaluator.resolvePass bound index stored (contexts pass) (caches pass) =
      some ⟨contexts (pass + 1), caches (pass + 1),
        decide ((contexts pass).revision < (contexts (pass + 1)).revision)⟩

namespace Course

variable {evaluator : Evaluator} {bound : Nat} {index : Option Nat}
  {stored : List (String × Node)} {passes : Nat}

/-- A pass writes at least one variable. -/
def Writes (course : Course evaluator bound index stored passes) (pass : Nat) : Prop :=
  (course.contexts pass).revision < (course.contexts (pass + 1)).revision

/-- No pass at all. -/
def nil (context : Context) (cache : Path.Cache) : Course evaluator bound index stored 0 where
  contexts _ := context
  caches _ := cache
  step _ below := absurd below (Nat.not_lt_zero _)

/-- One pass, and others after it. -/
def cons
    (context : Context)
    (cache : Path.Cache)
    (course : Course evaluator bound index stored passes)
    (first : evaluator.resolvePass bound index stored context cache =
      some ⟨course.contexts 0, course.caches 0,
        decide (context.revision < (course.contexts 0).revision)⟩) :
    Course evaluator bound index stored (passes + 1) where
  contexts
    | 0 => context
    | pass + 1 => course.contexts pass
  caches
    | 0 => cache
    | pass + 1 => course.caches pass
  step
    | 0, _ => first
    | pass + 1, below => course.step pass (Nat.lt_of_succ_lt_succ below)

/-- What holds before the passes holds after them where every pass keeps it. -/
theorem keeps
    (course : Course evaluator bound index stored passes)
    (property : Context → Path.Cache → Prop)
    (kept : ∀ pass < passes, property (course.contexts pass) (course.caches pass) →
      property (course.contexts (pass + 1)) (course.caches (pass + 1)))
    {earlier later : Nat}
    (ordered : earlier ≤ later)
    (within : later ≤ passes)
    (holds : property (course.contexts earlier) (course.caches earlier)) :
    property (course.contexts later) (course.caches later) := by
  obtain ⟨more, rfl⟩ := Nat.exists_eq_add_of_le ordered
  induction more with
  | zero => exact holds
  | succ more inductionHypothesis =>
      exact kept (earlier + more) (by omega) (inductionHypothesis (by omega) (by omega))

/-- A pass over a quiet context resolves all variables, and leaves a faithful cache. -/
theorem step_of_quiet
    (course : Course evaluator bound index stored passes)
    {pass : Nat}
    (below : pass < passes)
    (quiet : (course.contexts pass).Quiet)
    (faithful : (course.caches pass).Faithful) :
    course.contexts (pass + 1) = evaluator.resolveAll index stored (course.contexts pass) ∧
      (course.caches (pass + 1)).Faithful := by
  obtain ⟨remembered, kept, made⟩ :=
    evaluator.resolvePass_of_quiet index stored bound quiet faithful
  have both := (course.step pass below).symm.trans made
  simp only [Option.some.injEq, Progress.mk.injEq] at both
  obtain ⟨sameContext, sameCache, -⟩ := both
  exact ⟨sameContext, sameCache ▸ kept⟩

/-- A course that starts in a quiet context stays quiet, and its caches stay faithful. -/
theorem quiet_and_faithful
    (course : Course evaluator bound index stored passes)
    (quiet : (course.contexts 0).Quiet)
    (faithful : (course.caches 0).Faithful)
    {pass : Nat}
    (within : pass ≤ passes) :
    (course.contexts pass).Quiet ∧ (course.caches pass).Faithful := by
  refine course.keeps (fun context cache => context.Quiet ∧ cache.Faithful)
    (fun pass below holds => ?_) (Nat.zero_le pass) within ⟨quiet, faithful⟩
  obtain ⟨resolved, kept⟩ := course.step_of_quiet below holds.1 holds.2
  rw [resolved]
  exact ⟨quiet_foldl _ holds.1, kept⟩

/-- Every pass of a course that starts in a quiet context resolves all variables. -/
theorem contexts_succ
    (course : Course evaluator bound index stored passes)
    (quiet : (course.contexts 0).Quiet)
    (faithful : (course.caches 0).Faithful)
    {pass : Nat}
    (below : pass < passes) :
    course.contexts (pass + 1) = evaluator.resolveAll index stored (course.contexts pass) := by
  obtain ⟨stillQuiet, stillFaithful⟩ :=
    course.quiet_and_faithful quiet faithful (Nat.le_of_lt below)
  exact (course.step_of_quiet below stillQuiet stillFaithful).1

/-- The variables and their order are the same after every pass. -/
theorem names_contexts
    (course : Course evaluator bound index stored passes)
    (quiet : (course.contexts 0).Quiet)
    (faithful : (course.caches 0).Faithful)
    {pass : Nat}
    (within : pass ≤ passes) :
    (course.contexts pass).names = (course.contexts 0).names := by
  refine course.keeps (fun context _ => context.names = (course.contexts 0).names)
    (fun pass below same => ?_) (Nat.zero_le pass) within rfl
  rw [course.contexts_succ quiet faithful below, names_resolveAll, same]

/-- A variable that holds no expression before a pass holds the same value from then on. -/
theorem get?_contexts
    (course : Course evaluator bound index stored passes)
    (quiet : (course.contexts 0).Quiet)
    (faithful : (course.caches 0).Faithful)
    {earlier later : Nat}
    (ordered : earlier ≤ later)
    (within : later ≤ passes)
    {name : String}
    {value : Node}
    (found : (course.contexts earlier).get? name = some value)
    (plain : evaluator.isExpression value = false) :
    (course.contexts later).get? name = some value := by
  refine course.keeps (fun context _ => context.get? name = some value)
    (fun pass below same => ?_) ordered within found
  rw [course.contexts_succ quiet faithful below, Context.get?, bindings_resolveAll]
  exact get?_foldl_of_literal _ same plain

/-- A pass that writes nothing leaves the context as it is, and nothing in it is left to be
written. -/
theorem fixed_of_not_writes
    (course : Course evaluator bound index stored passes)
    (quiet : (course.contexts 0).Quiet)
    (faithful : (course.caches 0).Faithful)
    {pass : Nat}
    (below : pass < passes)
    (still : ¬ course.Writes pass) :
    course.contexts (pass + 1) = course.contexts pass ∧
      ∀ name ∈ (course.contexts pass).names,
        evaluator.resolved? index stored (course.contexts pass).bindings name = none := by
  have resolved := course.contexts_succ quiet faithful below
  rw [Writes, resolved] at still
  rw [resolved]
  exact foldl_of_revision_le (Nat.le_of_not_lt still)

end Course

section Resolutions

variable (evaluator : Evaluator) (index : Option Nat) (stored : List (String × Node))

/-- Where observers only watch, a resolution ends, and every pass but a last one that converges
writes a variable. -/
theorem resolveAfter_of_quiet
    (bound made allowed : Nat)
    {context : Context}
    {cache : Path.Cache}
    (quiet : context.Quiet)
    (faithful : cache.Faithful) :
    ∃ (passes : Nat) (converged : Bool) (course : Course evaluator bound index stored passes),
      course.contexts 0 = context ∧ course.caches 0 = cache ∧
      evaluator.resolveAfter bound index stored made allowed context cache =
        some (⟨made + passes, converged⟩, course.contexts passes, course.caches passes) ∧
      passes ≤ allowed ∧
      (∀ pass, pass + 1 < passes → course.Writes pass) ∧
      (converged = true → ∃ last, passes = last + 1 ∧ ¬ course.Writes last) ∧
      (converged = false → passes = allowed ∧ ∀ pass < passes, course.Writes pass) := by
  induction allowed generalizing made context cache with
  | zero =>
      exact ⟨0, false, .nil context cache, rfl, rfl, rfl, Nat.le_refl 0,
        fun _ below => absurd below (Nat.not_lt_zero _), nofun,
        fun _ => ⟨rfl, fun _ below => absurd below (Nat.not_lt_zero _)⟩⟩
  | succ allowed inductionHypothesis =>
      obtain ⟨remembered, kept, pass⟩ :=
        evaluator.resolvePass_of_quiet index stored bound quiet faithful
      by_cases writes :
          context.revision < (evaluator.resolveAll index stored context).revision
      · have quietNext : (evaluator.resolveAll index stored context).Quiet := quiet_foldl _ quiet
        obtain ⟨passes, converged, course, starts, remembers, ended, within, earlier, fixed,
          capped⟩ := inductionHypothesis (made + 1) quietNext kept
        have first : evaluator.resolvePass bound index stored context cache =
            some ⟨course.contexts 0, course.caches 0,
              decide (context.revision < (course.contexts 0).revision)⟩ := by
          rw [starts, remembers, pass]
        have firstWrites : (course.cons context cache first).Writes 0 := by
          change context.revision < (course.contexts 0).revision
          rw [starts]
          exact writes
        refine ⟨passes + 1, converged, course.cons context cache first, rfl, rfl, ?_,
          Nat.succ_le_succ within, ?_, ?_, ?_⟩
        · rw [resolveAfter, pass]
          simp only [Option.bind_eq_bind, Option.bind_some, writes, decide_true, if_true, ended]
          rw [Nat.add_assoc, Nat.add_comm 1 passes]
          rfl
        · rintro (_ | pass) below
          · exact firstWrites
          · exact earlier pass (Nat.lt_of_succ_lt_succ below)
        · intro converges
          obtain ⟨last, rfl, still⟩ := fixed converges
          exact ⟨last + 1, rfl, still⟩
        · intro diverges
          obtain ⟨rfl, all⟩ := capped diverges
          refine ⟨rfl, ?_⟩
          rintro (_ | pass) below
          · exact firstWrites
          · exact all pass (Nat.lt_of_succ_lt_succ below)
      · refine ⟨1, true,
          (Course.nil (evaluator.resolveAll index stored context) remembered).cons context cache
            pass, rfl, rfl, ?_, by omega, fun _ below => by omega,
          fun _ => ⟨0, rfl, writes⟩, nofun⟩
        rw [resolveAfter, pass]
        simp only [Option.bind_eq_bind, Option.bind_some, writes, decide_false]
        rfl

/-- A resolution of a quiet context in which nothing is left to be written makes one pass and leaves
the context as it is. -/
theorem resolve_of_resolved?_eq_none
    (bound : Nat)
    {allowed : Nat}
    (some : 1 ≤ allowed)
    {context : Context}
    {cache : Path.Cache}
    (quiet : context.Quiet)
    (faithful : cache.Faithful)
    (idle : ∀ name ∈ context.names,
      evaluator.resolved? index stored context.bindings name = none) :
    ∃ left : Path.Cache, left.Faithful ∧
      evaluator.resolve bound index stored allowed context cache =
        .some (⟨1, true⟩, context, left) := by
  obtain ⟨left, kept, pass⟩ := evaluator.resolvePass_of_quiet index stored bound quiet faithful
  obtain ⟨others, rfl⟩ := Nat.exists_eq_add_of_le' some
  have unchanged : evaluator.resolveAll index stored context = context :=
    foldl_of_resolved?_eq_none idle
  refine ⟨left, kept, ?_⟩
  rw [resolve, resolveAfter, pass, unchanged]
  simp

end Resolutions

/--
A resolution of a context whose observers only watch ends, after no more passes than are allowed.
The variables and their order stay, and a variable that holds no expression keeps its value.

Where the resolution converged, every expression that is left evaluates to itself, every pass but
the last has written a variable, and a further resolution makes a single pass that changes nothing.
Where it did not, all passes were made that are allowed, and the last has written a variable.
-/
theorem resolve_reaches_fixed_point
    (evaluator : Evaluator)
    (bound : Nat)
    (index : Option Nat)
    (stored : List (String × Node))
    (cap : Nat)
    {context : Context}
    {cache : Path.Cache}
    (quiet : context.Quiet)
    (faithful : cache.Faithful) :
    ∃ (report : Report) (course : Course evaluator bound index stored report.passes),
      let final := course.contexts report.passes
      course.contexts 0 = context ∧ course.caches 0 = cache ∧
      evaluator.resolve bound index stored cap context cache =
        some (report, final, course.caches report.passes) ∧
      report.passes ≤ cap ∧
      (∀ pass ≤ report.passes, (course.contexts pass).names = context.names) ∧
      (∀ earlier later, earlier ≤ later → later ≤ report.passes → ∀ name value,
        (course.contexts earlier).get? name = some value →
        evaluator.isExpression value = false →
        (course.contexts later).get? name = some value) ∧
      (report.converged = true →
        (∀ name value, final.get? name = some value → evaluator.isExpression value = true →
          ∀ remembered : Path.Cache, remembered.Faithful →
          Node.same
            (evaluator.evaluate ⟨final.bindings, index, stored⟩ value remembered).1 value =
              true) ∧
        (∀ pass, pass + 1 < report.passes → course.Writes pass) ∧
        (∀ again, 1 ≤ again → ∀ remembered : Path.Cache, remembered.Faithful → ∃ left,
          evaluator.resolve bound index stored again final remembered =
            some (⟨1, true⟩, final, left)) ∧
        (course.caches report.passes).Faithful) ∧
      (report.converged = false →
        report.passes = cap ∧ (cap = 0 ∨ course.Writes (cap - 1))) := by
  obtain ⟨passes, converged, course, starts, remembers, ended, within, earlier, fixed, capped⟩ :=
    evaluator.resolveAfter_of_quiet index stored bound 0 cap quiet faithful
  rw [Nat.zero_add] at ended
  subst starts remembers
  obtain ⟨finalQuiet, finalFaithful⟩ :=
    course.quiet_and_faithful quiet faithful (Nat.le_refl passes)
  refine ⟨⟨passes, converged⟩, course, rfl, rfl, ended, within,
    fun pass inside => course.names_contexts quiet faithful inside,
    fun _ _ ordered inside _ _ found plain =>
      course.get?_contexts quiet faithful ordered inside found plain,
    fun converges => ?_, fun diverges => ?_⟩
  · obtain ⟨last, rfl, still⟩ := fixed converges
    obtain ⟨unchanged, idle⟩ :=
      course.fixed_of_not_writes quiet faithful (Nat.lt_succ_self last) still
    rw [← unchanged] at idle
    refine ⟨fun name value found expression remembered kept => ?_, earlier,
      fun again some remembered kept => ?_, finalFaithful⟩
    · have member : name ∈ (course.contexts (last + 1)).names :=
        (Table.contains_iff _ name).mp (by
          rw [Context.get?] at found
          rw [Table.contains, found]
          rfl)
      rw [(evaluator.evaluate_of_faithful _ value kept).1]
      exact resolved?_eq_none_iff.mp (idle name member) value found expression
    · obtain ⟨left, -, again⟩ :=
        evaluator.resolve_of_resolved?_eq_none index stored bound some finalQuiet kept idle
      exact ⟨left, again⟩
  · obtain ⟨rfl, all⟩ := capped diverges
    refine ⟨rfl, ?_⟩
    rcases Nat.eq_zero_or_pos passes with none | positive
    · exact Or.inl none
    · exact Or.inr (all (passes - 1) (Nat.sub_lt positive Nat.one_pos))

/-- A label reads a choice that is made after it, and an echo reads itself: two passes write, the
third finds nothing to do, and the echo is left. -/
theorem resolve_label_of_later_choice :
    let evaluator : Evaluator := ⟨Operator.builtin, "$index"⟩
    let choice : Node := .mapping [("condition", .bool true), ("then", .string "yes")]
    let context : Context :=
      { bindings :=
          [("label", .mapping [("var", .string "chosen")]),
            ("chosen", .mapping [("Operator.if", choice)]),
            ("echo", .mapping [("var", .string "echo")])]
        observers := [⟨0, Observer.watch⟩]
        nextObserver := 1 }
    context.Quiet ∧ Path.Cache.Faithful [] ∧
      ∃ course : Course evaluator 0 none [] 3,
        course.contexts 0 = context ∧ course.caches 0 = [] ∧
        evaluator.resolve 0 none [] 10 context [] =
          some (⟨3, true⟩, course.contexts 3, course.caches 3) ∧
        course.Writes 0 ∧ course.Writes 1 ∧
        (course.contexts 3).names = ["label", "chosen", "echo"] ∧
        ∃ left, evaluator.resolve 0 none [] 5 (course.contexts 3) (course.caches 3) =
          some (⟨1, true⟩, course.contexts 3, left) := by
  intro evaluator choice context
  have quiet : context.Quiet := by
    intro observer member
    obtain rfl : observer = ⟨0, Observer.watch⟩ := by simpa [context] using member
    exact Observer.passive_watch 0
  have faithful : Path.Cache.Faithful [] := Path.Cache.faithful_nil
  have counted : (evaluator.resolve 0 none [] 10 context []).map Prod.fst = some ⟨3, true⟩ := by
    decide +kernel
  obtain ⟨report, course, starts, remembers, ended, -, names, -, fixed, -⟩ :=
    resolve_reaches_fixed_point evaluator 0 none [] 10 quiet faithful
  rw [ended] at counted
  obtain rfl : report = ⟨3, true⟩ := by simpa using counted
  obtain ⟨-, writes, again, kept⟩ := fixed rfl
  exact ⟨quiet, faithful, course, starts, remembers, ended, writes 0 (by decide),
    writes 1 (by decide), names 3 (Nat.le_refl 3), again 5 (by decide) _ kept⟩

end Evaluator
end Storyboard
