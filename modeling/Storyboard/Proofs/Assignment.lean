import Storyboard.Session
import Storyboard.Proofs.Context.Quiet
import Storyboard.Proofs.Path.Cache
import Storyboard.Proofs.Path.RoundTrip

/-!
# Assignments and reads through one written path

A write at a path given as text succeeds exactly when the text, with the loop
position in the place of the placeholder, is a path within the limit.  A read of the
same text from the same loop row then finds the value.  A write that fails leaves
variables, observers and notices as they are.
-/

namespace Storyboard
namespace Variables

/-- A write at a variable itself gives it the value. -/
@[simp] theorem place_key
    (bindings : Variables)
    (value : Node)
    (name : String) :
    bindings.place value [.key name] = .ok ⟨name, some value⟩ := rfl

/-- A write below a variable rebuilds its value. -/
theorem place_key_cons_cons
    (bindings : Variables)
    (value : Node)
    (name : String)
    (component : Component)
    (rest : Path) :
    bindings.place value (.key name :: component :: rest) =
      (Path.modify value (component :: rest)
        (Path.ground (component :: rest) (Table.get? bindings name))).map
          fun node => ⟨name, some node⟩ := by
  rw [place, Component.name?]
  simp only
  cases Path.modify value (component :: rest)
      (Path.ground (component :: rest) (Table.get? bindings name)) <;> rfl

/-- A value can be placed at a path exactly when the path is within the limit. -/
theorem exists_place_eq_ok_iff
    (bindings : Variables)
    (value : Node)
    (name : String)
    (rest : Path) :
    (∃ update, bindings.place value (.key name :: rest) = .ok update) ↔
      Path.WithinLimit (.key name :: rest) := by
  rw [Path.withinLimit_key_cons]
  cases rest with
  | nil =>
      rw [place_key]
      exact ⟨fun _ => Path.withinLimit_nil, fun _ => ⟨_, rfl⟩⟩
  | cons component rest =>
      rw [place_key_cons_cons, ← Path.exists_modify_eq_ok_iff value (component :: rest)
        (Path.ground (component :: rest) (Table.get? bindings name))]
      cases Path.modify value (component :: rest)
        (Path.ground (component :: rest) (Table.get? bindings name)) <;> simp [Except.map]

/-- A placed value is found below the variable that the update sets, and unless the variable
itself is the place, the update counts as a change. -/
theorem exists_of_place_eq_ok
    {bindings : Variables}
    {value : Node}
    {name : String}
    {rest : Path}
    {update : Update}
    (placed : bindings.place value (.key name :: rest) = .ok update) :
    ∃ node, update = ⟨name, some node⟩ ∧ Path.walk? rest node = some value ∧
      (rest = [] ∨ ∀ current, Node.shallowEq current node = false) := by
  cases rest with
  | nil =>
      rw [place_key] at placed
      cases placed
      exact ⟨value, rfl, Path.walk?_nil value, Or.inl rfl⟩
  | cons component rest =>
      rw [place_key_cons_cons] at placed
      cases done : Path.modify value (component :: rest)
          (Path.ground (component :: rest) (Table.get? bindings name)) with
      | error error => simp [done, Except.map] at placed
      | ok node =>
          rw [done] at placed
          cases placed
          exact ⟨node, rfl, Path.walk?_of_modify done,
            Or.inr (Path.not_shallowEq_of_modify done)⟩

/-- No update that places a value removes a variable. -/
theorem value_of_place_eq_ok
    {bindings : Variables}
    {value : Node}
    {path : Path}
    {update : Update}
    (placed : bindings.place value path = .ok update) :
    ∃ node, update.value = some node := by
  unfold place at placed
  split at placed
  · cases placed
  split at placed
  · cases placed
  split at placed
  · cases placed
    exact ⟨value, rfl⟩
  split at placed
  · cases placed
    exact ⟨_, rfl⟩
  · cases placed

/-- A read from a variable on walks through its value. -/
theorem read_key_cons
    (bindings : Variables)
    (name : String)
    (rest : Path) :
    bindings.read (.key name :: rest) =
      Node.ofOption ((Table.get? bindings name).bind (Path.walk? rest)) := rfl

end Variables

namespace Context

/-- A write through a path is one update of a quiet context, or nothing. -/
theorem write_of_quiet
    (bound : Nat)
    (path : Path)
    (value : Node)
    {context : Context}
    (quiet : context.Quiet) :
    context.write bound path value =
      match context.bindings.place value path with
      | .ok update => some (.ok (), context.revise update)
      | .error error => some (.error error, context) := by
  unfold write
  cases context.bindings.place value path with
  | error error => rfl
  | ok update =>
      simp only [update_of_quiet bound update quiet]
      rfl

/-- A variable that is set either has the new value afterwards, or had a shallowly equal one and
keeps it, and then nothing changes. -/
theorem get?_revise_some
    (context : Context)
    (name : String)
    (value : Node) :
    (context.revise ⟨name, some value⟩).get? name = some value ∨
      ∃ old, context.get? name = some old ∧ Node.shallowEq old value = true ∧
        context.revise ⟨name, some value⟩ = context := by
  cases idle : context.idle ⟨name, some value⟩ with
  | false =>
      left
      rw [revise_of_not_idle idle, get?_commit_some, if_pos rfl]
  | true =>
      right
      have unchanged := revise_of_idle idle
      simp only [Context.idle] at idle
      cases found : context.get? name with
      | none => simp [found] at idle
      | some old =>
          rw [found] at idle
          exact ⟨old, rfl, idle, unchanged⟩

/-- A write through a path that parsing returned succeeds exactly within the limit, and then a
read of the path finds the value, or the shallowly equal one that made the write idle. -/
theorem write_key_cons
    (bound : Nat)
    (name : String)
    (rest : Path)
    (value : Node)
    {context : Context}
    (quiet : context.Quiet) :
    ∃ outcome written,
      context.write bound (.key name :: rest) value = some (outcome, written) ∧
      (outcome = .ok () ↔ Path.WithinLimit (.key name :: rest)) ∧
      (outcome = .ok () →
        written.bindings.read (.key name :: rest) = value ∨
        ∃ old, rest = [] ∧ context.get? name = some old ∧ Node.shallowEq old value = true ∧
          written.bindings.read (.key name :: rest) = old) ∧
      (outcome ≠ .ok () → written = context) := by
  rw [write_of_quiet bound _ value quiet,
    ← Variables.exists_place_eq_ok_iff context.bindings value name rest]
  cases placed : context.bindings.place value (.key name :: rest) with
  | error error => exact ⟨.error error, context, rfl, by simp, by simp, fun _ => rfl⟩
  | ok update =>
      refine ⟨.ok (), context.revise update, rfl, by simp, fun _ => ?_, fun failed => ?_⟩
      · obtain ⟨node, rfl, found, changes⟩ := Variables.exists_of_place_eq_ok placed
        rw [Variables.read_key_cons]
        rcases context.get?_revise_some name node with set | ⟨old, present, equal, unchanged⟩
        · left
          have stored : Table.get? (context.revise ⟨name, some node⟩).bindings name = some node :=
            set
          rw [stored, Option.bind_some, found]
          rfl
        · right
          rcases changes with atVariable | change
          · subst atVariable
            obtain rfl : node = value := by simpa using found
            have stored : Table.get? context.bindings name = some old := present
            refine ⟨old, rfl, present, equal, ?_⟩
            rw [unchanged, stored, Option.bind_some, Path.walk?_nil]
            rfl
          · simp [change old] at equal
      · exact absurd rfl failed

end Context

namespace Evaluator

/-- A read through a faithful cache reads at the components that parsing returns. -/
theorem fst_read
    (evaluator : Evaluator)
    (scope : Scope)
    (path : String)
    {cache : Path.Cache}
    (faithful : cache.Faithful)
    {components : Path}
    (parsed : Path.parse (evaluator.substitute scope.index path) = .ok components) :
    (evaluator.read scope path cache).1 = scope.bindings.read components := by
  have outcome := faithful.fst_parse (evaluator.substitute scope.index path)
  rw [parsed] at outcome
  unfold read
  cases through : cache.parse (evaluator.substitute scope.index path) with
  | mk result remembered =>
      rw [through] at outcome
      cases outcome
      rfl

/--
A write at a written path succeeds exactly when the path, with the loop position in the place of
the placeholder, is parsed and no position in it lies beyond the limit.  A read of the same path
from the same loop row then finds the value, whatever was there before; only a variable that
already had a shallowly equal value keeps it.  A write that fails changes nothing.
-/
theorem read_after_assign
    (evaluator : Evaluator)
    (bound : Nat)
    (index : Option Nat)
    (stored : List (String × Node))
    (path : String)
    (value : Node)
    (context : Context)
    (cache : Path.Cache)
    (quiet : context.Quiet)
    (faithful : cache.Faithful) :
    ∃ outcome written remembered,
      evaluator.assign bound index path value context cache =
        some (outcome, written, remembered) ∧
      (outcome = .ok () ↔
        ∃ components, Path.parse (evaluator.substitute index path) = .ok components ∧
          ∀ position, Component.index position ∈ components →
            position ≤ Path.indexLimit) ∧
      (outcome = .ok () →
        (evaluator.read ⟨written.bindings, index, stored⟩ path remembered).1 = value ∨
        ∃ name old, Path.parse (evaluator.substitute index path) = .ok [.key name] ∧
          context.get? name = some old ∧ Node.shallowEq old value = true ∧
          (evaluator.read ⟨written.bindings, index, stored⟩ path remembered).1 = old) ∧
      (outcome ≠ .ok () → written = context) := by
  have outcomeOfParse := faithful.fst_parse (evaluator.substitute index path)
  have faithfulAfter := faithful.snd_parse (evaluator.substitute index path)
  unfold assign
  cases parsedThrough : cache.parse (evaluator.substitute index path) with
  | mk result remembered =>
      rw [parsedThrough] at outcomeOfParse faithfulAfter
      cases result with
      | error error =>
          refine ⟨.error error, context, remembered, rfl, ?_, ?_, fun _ => rfl⟩
          · simp [← outcomeOfParse]
          · simp
      | ok components =>
          have parsed : Path.parse (evaluator.substitute index path) = .ok components :=
            outcomeOfParse.symm
          obtain ⟨name, rest, rfl⟩ := Path.exists_key_of_parse parsed
          obtain ⟨outcome, written, done, succeeds, found, failed⟩ :=
            Context.write_key_cons bound name rest value quiet
          have readBack :
              (evaluator.read ⟨written.bindings, index, stored⟩ path remembered).1 =
                written.bindings.read (.key name :: rest) :=
            fst_read evaluator _ path faithfulAfter parsed
          refine ⟨outcome, written, remembered, by simp [done], ?_, ?_, failed⟩
          · rw [succeeds, parsed]
            constructor
            · intro within
              exact ⟨_, rfl, within⟩
            · rintro ⟨other, same, within⟩
              cases same
              exact within
          · intro success
            rw [readBack]
            rcases found success with new | ⟨old, atVariable, present, equal, kept⟩
            · exact Or.inl new
            · subst atVariable
              exact Or.inr ⟨name, old, parsed, present, equal, kept⟩

/-- A row writes its title below a variable that held no list, watched by one observer, and reads
the title back. -/
theorem read_after_assign_title :
    let evaluator : Evaluator := ⟨[], "$index"⟩
    let context : Context :=
      { bindings := [("rows", .bool true)]
        observers := [⟨0, Observer.watch⟩]
        nextObserver := 1 }
    context.Quiet ∧ Path.Cache.Faithful [] ∧
      ∃ written remembered,
        evaluator.assign 0 (some 2) "rows[$index].title" (.string "new") context [] =
          some (.ok (), written, remembered) ∧
        (evaluator.read ⟨written.bindings, some 2, []⟩ "rows[$index].title" remembered).1 =
          .string "new" := by
  intro evaluator context
  have quiet : context.Quiet := by
    intro observer member
    obtain rfl : observer = ⟨0, Observer.watch⟩ := by simpa [context] using member
    exact Observer.passive_watch 0
  have parsed : Path.parse (evaluator.substitute (some 2) "rows[$index].title") =
      .ok [.key "rows", .index 2, .key "title"] := by
    have found : (Path.parse (evaluator.substitute (some 2) "rows[$index].title")).toOption =
        some [.key "rows", .index 2, .key "title"] := by decide +kernel
    cases outcome : Path.parse (evaluator.substitute (some 2) "rows[$index].title") with
    | error error => simp [outcome, Except.toOption] at found
    | ok components => simpa [outcome, Except.toOption] using found
  obtain ⟨outcome, written, remembered, done, succeeds, found, _⟩ :=
    read_after_assign evaluator 0 (some 2) [] "rows[$index].title" (.string "new") context []
      quiet Path.Cache.faithful_nil
  have success : outcome = .ok () := by
    refine succeeds.mpr ⟨_, parsed, ?_⟩
    intro position member
    obtain rfl : position = 2 := by simpa using member
    decide
  refine ⟨quiet, Path.Cache.faithful_nil, written, remembered, success ▸ done, ?_⟩
  rcases found success with new | ⟨name, _, atVariable, _⟩
  · exact new
  · rw [parsed] at atVariable
    injection atVariable with components
    simp at components

end Evaluator

namespace Session

/-- The update that an assignment comes to, if it comes to one. -/
def placed?
    (session : Session)
    (evaluator : Evaluator)
    (index : Option Nat)
    (path : String)
    (value : Node) :
    Option Update :=
  match (session.paths.parse (evaluator.substitute index path)).1 with
  | .ok components => (session.context.bindings.place value components).toOption
  | .error _ => none

/-- A session that remembers the paths that an assignment has parsed. -/
def parsed
    (session : Session)
    (evaluator : Evaluator)
    (index : Option Nat)
    (path : String) :
    Session :=
  { session with paths := (session.paths.parse (evaluator.substitute index path)).2 }

/-- An assignment is one update or none. -/
theorem map_snd_assign
    (session : Session)
    (evaluator : Evaluator)
    (bound : Nat)
    (index : Option Nat)
    (path : String)
    (value : Node) :
    (session.assign evaluator bound index path value).map Prod.snd =
      match session.placed? evaluator index path value with
      | none => some (session.parsed evaluator index path)
      | some update => (session.parsed evaluator index path).update bound update := by
  unfold assign Evaluator.assign placed? parsed
  cases session.paths.parse (evaluator.substitute index path) with
  | mk result paths =>
      cases result with
      | error error => rfl
      | ok components =>
          simp only [Context.write]
          cases session.context.bindings.place value components with
          | error error => rfl
          | ok update =>
              simp only [Except.toOption, Session.update, Option.map_map]
              rfl

/-- An assignment never removes a variable. -/
theorem value_of_placed?
    {session : Session}
    {evaluator : Evaluator}
    {index : Option Nat}
    {path : String}
    {value : Node}
    {update : Update}
    (placed : session.placed? evaluator index path value = some update) :
    ∃ node, update.value = some node := by
  unfold placed? at placed
  split at placed
  · next components _ =>
      cases put : session.context.bindings.place value components with
      | error error => simp [put, Except.toOption] at placed
      | ok other =>
          obtain rfl : other = update := by simpa [put, Except.toOption] using placed
          exact Variables.value_of_place_eq_ok put
  · cases placed

end Session
end Storyboard
