import Storyboard.Proofs.Assignment
import Storyboard.Proofs.Command.Coupling
import Storyboard.Proofs.Context.Levels
import Storyboard.Proofs.Web.Drafts

/-!
# Runs from sessions that are alike

Two sessions may be alike in all that operations look at.  Where a command comes to an
end from the one, it does so from the other, on as many levels of nesting or on more, and
the sessions are alike again.  Two such relations matter: to be the same session, so that
more levels change nothing, and to differ in no more than what is on record and what is
remembered of parsed paths.
-/

namespace Storyboard
namespace Session

/-- From like sessions, whenever the first operation comes to an end, so does the other, in like
sessions. -/
def Follows
    (like : Session → Session → Prop)
    (operation other : Session → Option Session) : Prop :=
  ∀ session twin, like session twin → ∀ result, operation session = some result →
    ∃ another, other twin = some another ∧ like result another

/-- A relation of sessions that are the same to every operation, and stay so. -/
structure Likeness (like : Session → Session → Prop) : Prop where
  /-- The variables and their observers are the same. -/
  context : ∀ {session twin}, like session twin → twin.context = session.context
  /-- They may change in both. -/
  withContext : ∀ {session twin}, like session twin → ∀ context : Context,
    like { session with context := context } { twin with context := context }
  /-- A node is evaluated to the same. -/
  evaluate : ∀ {session twin}, like session twin →
    ∀ (evaluator : Evaluator) (index : Option Nat) (node : Node),
      (twin.evaluate evaluator index node).1 = (session.evaluate evaluator index node).1 ∧
        like (session.evaluate evaluator index node).2 (twin.evaluate evaluator index node).2
  /-- An assignment comes to the same update. -/
  placed? : ∀ {session twin}, like session twin →
    ∀ (evaluator : Evaluator) (index : Option Nat) (path : String) (value : Node),
      twin.placed? evaluator index path value = session.placed? evaluator index path value ∧
        like (session.parsed evaluator index path) (twin.parsed evaluator index path)
  /-- A screen has the same event. -/
  onAppear? : ∀ {session twin}, like session twin → ∀ id : String,
    twin.onAppear? id = session.onAppear? id
  /-- Changes that look at nothing else may be made in both. -/
  edit : ∀ {session twin}, like session twin → ∀ edit : Edit,
    like (session.edit edit) (twin.edit edit)

section Follows

variable {like : Session → Session → Prop}

/-- An operation that always comes to an end. -/
theorem follows_some
    {operation : Session → Session}
    (keeps : ∀ {session twin}, like session twin → like (operation session) (operation twin)) :
    Follows like (fun session => some (operation session)) fun session =>
      some (operation session) := by
  intro session twin alike result done
  obtain rfl := Option.some.inj done
  exact ⟨_, rfl, keeps alike⟩

theorem Follows.andThen
    {first second other another : Session → Option Session}
    (follows : Follows like first other)
    (followsThen : Follows like second another) :
    Follows like (fun session => first session >>= second) fun session =>
      other session >>= another := by
  intro session twin alike result done
  obtain ⟨middle, started, ended⟩ := Option.bind_eq_some_iff.mp done
  obtain ⟨between, startedToo, alikeBetween⟩ := follows session twin alike middle started
  obtain ⟨last, endedToo, alikeLast⟩ := followsThen middle between alikeBetween result ended
  exact ⟨last, Option.bind_eq_some_iff.mpr ⟨between, startedToo, endedToo⟩, alikeLast⟩

/-- What follows an operation whose value is the same in like sessions. -/
theorem couples_follows
    {α : Type}
    {operation : Session → α × Session}
    (keeps : ∀ {session twin}, like session twin →
      (operation twin).1 = (operation session).1 ∧ like (operation session).2 (operation twin).2) :
    Couples (Follows like) operation := by
  intro next other each session twin alike result done
  obtain ⟨same, alikeAfter⟩ := keeps alike
  dsimp only at done ⊢
  rw [same]
  exact each (operation session).1 _ _ alikeAfter result done

namespace Likeness

variable (likeness : Likeness like)

include likeness

/-- An update on as many levels or more. -/
theorem update
    {bound more : Nat}
    (atMost : bound ≤ more)
    (update : Update) :
    Follows like (fun session => session.update bound update) fun session =>
      session.update more update := by
  intro session twin alike result done
  obtain ⟨context, updated, rfl⟩ := Option.map_eq_some_iff.mp done
  refine ⟨{ twin with context := context }, ?_, likeness.withContext alike context⟩
  rw [← likeness.context alike] at updated
  exact Option.map_eq_some_iff.mpr ⟨context, Context.update_of_le atMost updated, rfl⟩

theorem assign
    (evaluator : Evaluator)
    {bound more : Nat}
    (atMost : bound ≤ more)
    (index : Option Nat)
    (path : String)
    (value : Node) :
    Follows like (fun session => (session.assign evaluator bound index path value).map Prod.snd)
      fun session => (session.assign evaluator more index path value).map Prod.snd := by
  intro session twin alike result done
  obtain ⟨same, alikeAfter⟩ := likeness.placed? alike evaluator index path value
  dsimp only at done ⊢
  rw [map_snd_assign] at done ⊢
  rw [same]
  cases placed : session.placed? evaluator index path value with
  | none =>
      rw [placed] at done
      obtain rfl := Option.some.inj done
      exact ⟨_, rfl, alikeAfter⟩
  | some update =>
      rw [placed] at done
      exact likeness.update atMost update _ _ alikeAfter result done

theorem during
    {frame other : Frame}
    (atMost : frame.bound ≤ other.bound)
    (name : String)
    (value : Node)
    {body twin : Session → Option Session}
    (follows : Follows like body twin) :
    Follows like (frame.during name value body) (other.during name value twin) := by
  intro session another alike
  have sets := likeness.update atMost ⟨name, some value⟩
  have restores := likeness.update atMost ⟨name, session.context.get? name⟩
  have steps := sets.andThen (follows.andThen restores)
  unfold Frame.during
  rw [likeness.context alike]
  exact steps session another alike

/-- The operations of commands come to like ends from like sessions. -/
theorem coupled : Coupled (· ≤ ·) (Follows like) where
  stay := follows_some id
  andThen first second := first.andThen second
  evaluate evaluator index node :=
    couples_follows fun alike => likeness.evaluate alike evaluator index node
  assign evaluator _ _ atMost := likeness.assign evaluator atMost
  during atMost name value _ _ follows := likeness.during atMost name value follows
  push id _ := couples_follows fun alike =>
    ⟨likeness.onAppear? alike id, likeness.edit alike (.push id)⟩
  edit edit _ := follows_some fun alike => likeness.edit alike edit

/-! ## The interpreter -/

variable {interpreter : Interpreter}
  (couples : ∀ entry ∈ interpreter.commands, entry.2.Couples (· ≤ ·) (Follows like))

include couples

/-- A command that comes to an end does so from a like session and on more levels, by induction on
the fewer levels. -/
theorem execute
    (index : Option Nat)
    {bound more : Nat}
    (atMost : bound ≤ more)
    (node : Node) :
    Follows like (interpreter.execute index bound node) (interpreter.execute index more node) := by
  induction bound generalizing more node with
  | zero => exact fun _ _ _ _ impossible => by cases impossible
  | succ bound inductionHypothesis =>
      obtain ⟨more, rfl⟩ : ∃ fewer, more = fewer + 1 := ⟨more - 1, by omega⟩
      have fewer : bound ≤ more := Nat.le_of_succ_le_succ atMost
      intro session twin alike result done
      rw [Interpreter.execute] at done ⊢
      cases parted : commandParts? node with
      | none =>
          rw [parted] at done
          obtain rfl := Option.some.inj done
          exact ⟨twin, rfl, alike⟩
      | some parts =>
          obtain ⟨name, payload⟩ := parts
          rw [parted] at done
          dsimp only at done ⊢
          cases found : Table.get? interpreter.commands name with
          | none =>
              rw [found] at done
              obtain rfl := Option.some.inj done
              exact ⟨twin, rfl, alike⟩
          | some command =>
              rw [found] at done
              have member : (name, command) ∈ interpreter.commands :=
                Table.mem_of_get?_eq_some found
              exact couples (name, command) member (interpreter.outerFrame index bound) more
                (interpreter.execute index more) payload fewer
                (fun node => inductionHypothesis fewer node)
                (session.note (.command index node)) (twin.note (.command index node))
                (likeness.edit alike (.note _)) result done

theorem handle
    (index : Option Nat)
    {bound more : Nat}
    (atMost : bound ≤ more)
    (event : Node) :
    Follows like (interpreter.handle index bound event) (interpreter.handle index more event) := by
  have runs : ∀ node, Follows like ((interpreter.outerFrame index bound).run node)
      (interpreter.execute index more node) :=
    fun node => likeness.execute couples index atMost node
  exact likeness.coupled.handle more runs event

end Likeness

end Follows

/-! ## The two relations -/

/-- A session is like itself. -/
theorem likeness_eq : Likeness Eq where
  context := by
    rintro session _ rfl
    rfl
  withContext := by
    rintro session _ rfl context
    rfl
  evaluate := by
    rintro session _ rfl evaluator index node
    exact ⟨rfl, rfl⟩
  placed? := by
    rintro session _ rfl evaluator index path value
    exact ⟨rfl, rfl⟩
  onAppear? := by
    rintro session _ rfl id
    rfl
  edit := by
    rintro session _ rfl edit
    rfl

/-- A session in which nothing but the record of deeds and the remembered paths may differ, and
every path is parsed with the same outcome. -/
def Resembles (session other : Session) : Prop :=
  ∃ (paths : Path.Cache) (deeds : List Deed), paths.Agrees session.paths ∧
    other = { session with paths := paths, deeds := deeds }

theorem Resembles.refl (session : Session) : session.Resembles session :=
  ⟨session.paths, session.deeds, .refl _, rfl⟩

theorem Resembles.symm
    {session other : Session}
    (resembles : session.Resembles other) :
    other.Resembles session := by
  obtain ⟨paths, deeds, agrees, rfl⟩ := resembles
  exact ⟨session.paths, session.deeds, fun path => (agrees path).symm, rfl⟩

theorem Resembles.note
    {session other : Session}
    (resembles : session.Resembles other)
    (deed : Deed) :
    session.Resembles (other.note deed) := by
  obtain ⟨paths, deeds, agrees, rfl⟩ := resembles
  exact ⟨paths, deeds ++ [deed], agrees, rfl⟩

/-- What is on record and what is remembered makes no difference to operations. -/
theorem likeness_resembles : Likeness Resembles where
  context := by
    rintro session _ ⟨paths, deeds, agrees, rfl⟩
    rfl
  withContext := by
    rintro session _ ⟨paths, deeds, agrees, rfl⟩ context
    exact ⟨paths, deeds, agrees, rfl⟩
  evaluate := by
    rintro session _ ⟨paths, deeds, agrees, rfl⟩ evaluator index node
    obtain ⟨same, kept⟩ := evaluator.evaluate_recall (session.scope index) node agrees
    obtain ⟨-, keptFirst⟩ := evaluator.evaluate_recall (session.scope index) node
      (.refl session.paths)
    have sameScope : Session.scope { session with paths := paths, deeds := deeds } index =
        session.scope index := rfl
    unfold Session.evaluate
    rw [sameScope]
    exact ⟨same, (evaluator.evaluate (session.scope index) node paths).2, deeds,
      fun path => (kept path).trans (keptFirst path).symm, rfl⟩
  placed? := by
    rintro session _ ⟨paths, deeds, agrees, rfl⟩ evaluator index path value
    have kept := agrees.snd_parse (evaluator.substitute index path)
    have keptFirst := (Path.Cache.Agrees.refl session.paths).snd_parse
      (evaluator.substitute index path)
    refine ⟨?_, _, deeds, fun text => (kept text).trans (keptFirst text).symm, rfl⟩
    unfold placed?
    rw [agrees (evaluator.substitute index path)]
  onAppear? := by
    rintro session _ ⟨paths, deeds, agrees, rfl⟩ id
    rfl
  edit := by
    rintro session _ ⟨paths, deeds, agrees, rfl⟩ edit
    cases edit <;> exact ⟨paths, _, agrees, rfl⟩

/-- An evaluation returns the same, and leaves no more than what is remembered. -/
theorem Resembles.evaluate
    {session other : Session}
    (resembles : session.Resembles other)
    (evaluator : Evaluator)
    (index : Option Nat)
    (node : Node) :
    (other.evaluate evaluator index node).1 = (session.evaluate evaluator index node).1 ∧
      session.Resembles (other.evaluate evaluator index node).2 := by
  refine ⟨(likeness_resembles.evaluate resembles evaluator index node).1, ?_⟩
  obtain ⟨paths, deeds, agrees, rfl⟩ := resembles
  obtain ⟨-, remembered, kept, same⟩ := (Recalls.refl _).evaluate evaluator index node
  rw [same]
  exact ⟨remembered, deeds, fun path => (kept path).trans (agrees path), rfl⟩

end Session
end Storyboard
