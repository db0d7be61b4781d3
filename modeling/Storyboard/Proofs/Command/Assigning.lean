import Storyboard.Interpreter
import Storyboard.Proofs.Assignment
import Storyboard.Proofs.Table
import Storyboard.Proofs.Web.Drafts

/-!
# Commands that write

A command that writes leaves everything as it is, or it changes one variable once, however deep
the path goes below the variable.  What it does depends on what becomes of its path: the path may
be missing, or may not be parsed, or may reach too far, and the value may be there already.
-/

namespace Storyboard

/-- The path in a field of a payload, with the loop position in the place of the placeholder; there
is none where the field is no text. -/
def Evaluator.target?
    (evaluator : Evaluator)
    (index : Option Nat)
    (payload : Node)
    (key : String) :
    Option (Except PathError Path) :=
  ((payload.get? key).bind Node.asString?).map fun path =>
    Path.parse (evaluator.substitute index path)

namespace Context

/-- Why the write of a value leaves the variables as they are, by what became of its path. -/
inductive Overlooks (context : Context) (value : Node) : Option (Except PathError Path) → Prop
  /-- No path is given as text. -/
  | noText : Overlooks context value none
  /-- The path is not parsed. -/
  | unparsed
      (error : PathError) :
      Overlooks context value (some (.error error))
  /-- A position lies beyond the limit for writes. -/
  | tooFar
      {components : Path}
      {position : Nat}
      (member : Component.index position ∈ components)
      (beyond : Path.indexLimit < position) :
      Overlooks context value (some (.ok components))
  /-- The path is a variable that has a shallowly equal value. -/
  | unchanged
      {name : String}
      {old : Node}
      (present : context.get? name = some old)
      (equal : Node.shallowEq old value = true) :
      Overlooks context value (some (.ok [.key name]))

/-- A change of one variable, of which every observer was told once. -/
structure ChangesOnce (before after : Context) (name : String) (node : Node) : Prop where
  /-- The variable has the new value. -/
  get? : after.get? name = some node
  /-- The other variables have their values and their order. -/
  others : (after.bindings.filter fun entry => entry.1 != name) =
    before.bindings.filter fun entry => entry.1 != name
  /-- It was one change. -/
  revision : after.revision = before.revision + 1
  /-- Every observer was told of this change, and of no other. -/
  notices : after.notices = before.notices ++ before.observers.map fun observer =>
    ⟨observer.id, ⟨name, before.get? name, some node⟩, before.get? name⟩
  /-- The observers are the same. -/
  observers : after.observers = before.observers
  /-- The number of the next observer is the same. -/
  nextObserver : after.nextObserver = before.nextObserver

/-- An update that is not idle is one change of its variable. -/
theorem changesOnce_revise
    {context : Context}
    {name : String}
    {node : Node}
    (busy : context.idle ⟨name, some node⟩ = false) :
    context.ChangesOnce (context.revise ⟨name, some node⟩) name node := by
  rw [revise_of_not_idle busy]
  exact {
    get? := by rw [get?_commit_some, if_pos rfl]
    others := Table.filter_insert context.bindings name node
    revision := rfl
    notices := rfl
    observers := rfl
    nextObserver := rfl }

/-- A variable that is set is idle exactly if it has a shallowly equal value. -/
theorem idle_some_iff
    {context : Context}
    {name : String}
    {node : Node} :
    context.idle ⟨name, some node⟩ = true ↔
      ∃ old, context.get? name = some old ∧ Node.shallowEq old node = true := by
  unfold idle
  cases context.get? name <;> simp

/-- What the write of a value makes of a context whose observers only watch. -/
def written (context : Context) (value : Node) : Option (Except PathError Path) → Context
  | some (.ok components) =>
      match context.bindings.place value components with
      | .ok update => context.revise update
      | .error _ => context
  | _ => context

section Written

variable {context : Context} {value : Node} {components : Path}

theorem written_of_place_eq_ok
    {update : Update}
    (placed : context.bindings.place value components = .ok update) :
    context.written value (some (.ok components)) = context.revise update := by
  simp only [written, placed]

theorem written_of_place_eq_error
    {error : PathError}
    (placed : context.bindings.place value components = .error error) :
    context.written value (some (.ok components)) = context := by
  simp only [written, placed]

end Written

/-- The write of a value below a variable is overlooked, or it is one change of the variable. -/
theorem written_key_cons
    (context : Context)
    (value : Node)
    (name : String)
    (rest : Path) :
    (context.Overlooks value (some (.ok (.key name :: rest))) ∧
        context.written value (some (.ok (.key name :: rest))) = context) ∨
      (¬ context.Overlooks value (some (.ok (.key name :: rest))) ∧
        ∃ node, Path.walk? rest node = some value ∧ context.ChangesOnce
          (context.written value (some (.ok (.key name :: rest)))) name node) := by
  have fits := Variables.exists_place_eq_ok_iff context.bindings value name rest
  cases placed : context.bindings.place value (.key name :: rest) with
  | error error =>
      have beyondLimit : ¬ Path.WithinLimit (.key name :: rest) := by
        rw [← fits, placed]
        rintro ⟨update, impossible⟩
        cases impossible
      simp only [Path.WithinLimit, Classical.not_forall, Nat.not_le] at beyondLimit
      obtain ⟨position, member, beyond⟩ := beyondLimit
      exact .inl ⟨.tooFar member beyond, written_of_place_eq_error placed⟩
  | ok update =>
      have within : Path.WithinLimit (.key name :: rest) := fits.mp ⟨update, placed⟩
      rw [written_of_place_eq_ok placed]
      obtain ⟨node, rfl, found, changes⟩ := Variables.exists_of_place_eq_ok placed
      cases idle : context.idle ⟨name, some node⟩ with
      | true =>
          obtain ⟨old, present, equal⟩ := idle_some_iff.mp idle
          rcases changes with rfl | change
          · obtain rfl : node = value := by simpa using found
            exact .inl ⟨.unchanged present equal, revise_of_idle idle⟩
          · rw [change old] at equal
            cases equal
      | false =>
          refine .inr ⟨fun overlooks => ?_, node, found, changesOnce_revise idle⟩
          cases overlooks with
          | tooFar member beyond => exact absurd (within _ member) (Nat.not_le.mpr beyond)
          | unchanged present equal =>
              obtain rfl : node = value := by simpa using found
              rw [idle_some_iff.mpr ⟨_, present, equal⟩] at idle
              cases idle

end Context

/-- The record of commands has no say in what a field is evaluated to. -/
theorem Session.field_note
    (session : Session)
    (deed : Deed)
    (frame : Frame)
    (payload : Node)
    (key : String) :
    (session.note deed).field frame payload key =
      (session.evaluateField frame.evaluator frame.index payload key).1 := by
  have sameScope : (session.note deed).scope frame.index = session.scope frame.index := rfl
  have samePaths : (session.note deed).paths = session.paths := rfl
  unfold field Frame.evaluateField evaluateField
  cases payload.get? key with
  | none => rfl
  | some node =>
      dsimp only [evaluate]
      rw [sameScope, samePaths]

namespace Command

/-- A command that writes evaluates its value and makes the one write that its path comes to. -/
theorem assignAt_of_quiet
    (frame : Frame)
    (key : String)
    (payload : Node)
    {session : Session}
    (quiet : session.context.Quiet)
    (faithful : session.paths.Faithful) :
    ∃ paths, assignAt key frame payload session = some { session with
      context := session.context.written (session.field frame payload "value")
        (frame.evaluator.target? frame.index payload key)
      paths := paths } := by
  unfold assignAt Evaluator.target?
  cases (payload.get? key).bind Node.asString? with
  | none => exact ⟨session.paths, rfl⟩
  | some path =>
      obtain ⟨-, paths, agrees, evaluated⟩ :=
        (Session.Recalls.refl session).evaluateField frame payload "value"
      have parsed := (agrees (frame.evaluator.substitute frame.index path)).trans
        (faithful.fst_parse _)
      have sameValue : (frame.evaluateField payload "value" session).1 =
          session.field frame payload "value" := rfl
      dsimp only [Option.map_some]
      rw [evaluated, Session.map_snd_assign, sameValue, Session.placed?, parsed]
      generalize session.field frame payload "value" = value
      cases Path.parse (frame.evaluator.substitute frame.index path) with
      | error error => exact ⟨_, rfl⟩
      | ok components =>
          dsimp only
          cases placed : session.context.bindings.place value components with
          | error error =>
              rw [Context.written_of_place_eq_error placed]
              exact ⟨_, rfl⟩
          | ok update =>
              rw [Context.written_of_place_eq_ok placed]
              dsimp only [Except.toOption, Session.update, Session.parsed]
              rw [Context.update_of_quiet frame.bound update quiet]
              exact ⟨_, rfl⟩

end Command

namespace Interpreter

/--
`set` and `setAtPath` change one variable once, or nothing.  They change nothing exactly if the path
is no text, is not parsed or reaches too far, or if it is a variable with a shallowly equal value.
Otherwise the value is found where the path leads below its variable, every observer was told once
of the change of this variable, and all others stand as they stood.  In both cases nothing else
changes but the record of commands and the paths that are remembered.
-/
theorem execute_assignAt
    (interpreter : Interpreter)
    {name key : String}
    (kind : (name, key) ∈ [("set", "var"), ("setAtPath", "path")])
    (registered : Table.get? interpreter.commands name = Table.get? Command.builtin name)
    (index : Option Nat)
    (bound : Nat)
    (payload : Node)
    (session : Session)
    (quiet : session.context.Quiet)
    (faithful : session.paths.Faithful) :
    let command := Node.mapping [(name, payload)]
    let value := (session.evaluateField interpreter.evaluator index payload "value").1
    let target := interpreter.evaluator.target? index payload key
    ∃ context paths,
      interpreter.execute index (bound + 1) command session =
        some { session.note (.command index command) with context := context, paths := paths } ∧
      (session.context.Overlooks value target ∧ context = session.context ∨
        ¬ session.context.Overlooks value target ∧
          ∃ base rest node, target = some (.ok (.key base :: rest)) ∧
            Path.walk? rest node = some value ∧ session.context.ChangesOnce context base node) := by
  intro command value target
  have found : Table.get? interpreter.commands name = some (Command.assignAt key) := by
    rw [registered]
    simp only [List.mem_cons, List.not_mem_nil, or_false, Prod.mk.injEq] at kind
    rcases kind with ⟨rfl, rfl⟩ | ⟨rfl, rfl⟩ <;> rfl
  let frame := interpreter.frame index bound (interpreter.execute index bound)
  have entered : interpreter.execute index (bound + 1) command session =
      Command.assignAt key frame payload (session.note (.command index command)) := by
    rw [execute]
    simp only [command, commandParts?, found]
    rfl
  have quietNoted : (session.note (.command index command)).context.Quiet := quiet
  have faithfulNoted : (session.note (.command index command)).paths.Faithful := faithful
  obtain ⟨paths, done⟩ := Command.assignAt_of_quiet frame key payload quietNoted faithfulNoted
  rw [Session.field_note] at done
  refine ⟨session.context.written value target, paths, entered.trans done, ?_⟩
  cases outcome : target with
  | none => exact .inl ⟨.noText, rfl⟩
  | some result =>
      cases result with
      | error error => exact .inl ⟨.unparsed error, rfl⟩
      | ok components =>
          obtain ⟨path, -, parsed⟩ := Option.map_eq_some_iff.mp outcome
          obtain ⟨base, rest, rfl⟩ := Path.exists_key_of_parse parsed
          rcases session.context.written_key_cons value base rest with
            overlooked | ⟨busy, node, walked, changed⟩
          · exact .inl overlooked
          · exact .inr ⟨busy, base, rest, node, rfl, walked, changed⟩

/-- A row writes what a variable holds deep below another one that holds no list, before the eyes of
an observer. -/
theorem execute_set_in_row :
    let context : Context :=
      { bindings := [("rows", .bool true), ("title", .string "kept")]
        observers := [⟨0, Observer.watch⟩]
        nextObserver := 1 }
    let session : Session := { context := context }
    let payload : Node := .mapping
      [("var", .string "rows[$index].tags[0]"), ("value", .mapping [("var", .string "title")])]
    let command : Node := .mapping [("set", payload)]
    context.Quiet ∧ Path.Cache.Faithful [] ∧
      ∃ after paths node,
        Interpreter.execute {} (some 1) 1 command session =
          some { session.note (.command (some 1) command) with
            context := after
            paths := paths } ∧
        (Path.walk? [.index 1, .key "tags", .index 0] node).bind Node.asString? = some "kept" ∧
        context.ChangesOnce after "rows" node := by
  intro context session payload command
  have quiet : context.Quiet := by
    intro observer member
    obtain rfl := List.mem_singleton.mp member
    exact Observer.passive_watch 0
  have isTarget : (Interpreter.evaluator {}).target? (some 1) payload "var" =
      some (.ok [.key "rows", .index 1, .key "tags", .index 0]) := by
    have found : ((Interpreter.evaluator {}).target? (some 1) payload "var").bind
        Except.toOption = some [.key "rows", .index 1, .key "tags", .index 0] := by decide +kernel
    obtain ⟨result, outcome, parsed⟩ := Option.bind_eq_some_iff.mp found
    cases result with
    | error error => cases parsed
    | ok components => rw [outcome, Option.some.inj parsed]
  have isText : (session.evaluateField (Interpreter.evaluator {}) (some 1) payload
      "value").1.asString? = some "kept" := by decide +kernel
  have kind : ("set", "var") ∈ [("set", "var"), ("setAtPath", "path")] := List.mem_cons_self
  obtain ⟨after, paths, done, ⟨overlooked, -⟩ | ⟨-, base, rest, node, target, walked, changed⟩⟩ :=
    execute_assignAt {} kind rfl (some 1) 0 payload session quiet Path.Cache.faithful_nil
  · rw [isTarget] at overlooked
    cases overlooked with
    | tooFar member beyond =>
        have near : ∀ position, Component.index position ∈
            [.key "rows", .index 1, .key "tags", .index 0] → position ≤ 1 := by simp
        have least : Path.indexLimit < 1 := Nat.lt_of_lt_of_le beyond (near _ member)
        exact absurd least (by decide)
  · rw [isTarget] at target
    cases target
    rw [← Option.bind_some _ Node.asString?, ← walked] at isText
    exact ⟨quiet, Path.Cache.faithful_nil, after, paths, node, done, isText, changed⟩

end Interpreter
end Storyboard
