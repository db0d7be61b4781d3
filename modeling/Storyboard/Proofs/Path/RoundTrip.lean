import Storyboard.Context.Place
import Storyboard.Path.Parser
import Storyboard.Proofs.Path.Slots

/-!
# Writing below a node and reading back

A write below a node succeeds exactly when no position of the path lies beyond the
limit, whatever the node is.  What was written is then found at the path.  The
containers that a write makes on the way never keep a later read from its value.
-/

namespace Storyboard

/-- No value is shallowly equal to a sequence. -/
theorem Node.shallowEq_sequence_right
    (node : Node)
    (items : List Node) :
    Node.shallowEq node (.sequence items) = false := by
  cases node <;> rfl

/-- No value is shallowly equal to a mapping. -/
theorem Node.shallowEq_mapping_right
    (node : Node)
    (entries : List (String × Node)) :
    Node.shallowEq node (.mapping entries) = false := by
  cases node <;> rfl

/-- Neither is any to a container that was filled. -/
theorem Slot.shallowEq_fill
    (current : Node)
    (slot : Slot)
    (node child : Node) :
    Node.shallowEq current (slot.fill node child) = false := by
  cases slot with
  | key name => exact Node.shallowEq_mapping_right current _
  | item position => exact Node.shallowEq_sequence_right current _

namespace Path

/-- A name in front of a path has no say in its limit. -/
theorem withinLimit_key_cons
    (name : String)
    (rest : Path) :
    WithinLimit (.key name :: rest) ↔ WithinLimit rest := by
  rw [withinLimit_cons_iff]
  exact and_iff_right fun _ impossible => by cases impossible

/-- A write succeeds exactly when no position lies beyond the limit. -/
theorem exists_modify_eq_ok_iff
    (value : Node)
    (path : Path)
    (node : Node) :
    (∃ written, modify value path node = .ok written) ↔ WithinLimit path := by
  refine ⟨?_, fun within => ⟨_, modify_eq_put value within node⟩⟩
  induction path generalizing node with
  | nil => exact fun _ => withinLimit_nil
  | cons component rest inductionHypothesis =>
      rintro ⟨written, done⟩
      have allowed : ∀ position, component = .index position → position ≤ indexLimit := by
        rintro position rfl
        refine Nat.not_lt.mp fun beyond => ?_
        rw [modify, if_pos beyond] at done
        cases done
      rw [modify_cons value allowed] at done
      refine (withinLimit_cons_iff component rest).mpr
        ⟨allowed, inductionHypothesis (ground rest (some (component.slot.look node))) ?_⟩
      cases below : modify value rest (ground rest (some (component.slot.look node))) with
      | ok child => exact ⟨child, rfl⟩
      | error error =>
          rw [below] at done
          cases done

/-- What a write that succeeds comes to. -/
theorem eq_put_of_modify
    {value : Node}
    {path : Path}
    {node written : Node}
    (done : modify value path node = .ok written) :
    written = put value path node := by
  have within := (exists_modify_eq_ok_iff value path node).mp ⟨written, done⟩
  exact Except.ok.inj (done.symm.trans (modify_eq_put value within node))

/-- What is put at a path is found there, by induction on the path. -/
theorem walk?_put
    (value : Node)
    (path : Path)
    (node : Node) :
    walk? path (put value path node) = some value := by
  induction path generalizing node with
  | nil => exact walk?_nil value
  | cons component rest inductionHypothesis =>
      rw [put, walk?_cons, Slot.child?_fill]
      exact inductionHypothesis _

/-- What was written at a path is found there. -/
theorem walk?_of_modify
    {value : Node}
    {path : Path}
    {node written : Node}
    (done : modify value path node = .ok written) :
    walk? path written = some value := by
  rw [eq_put_of_modify done]
  exact walk?_put value path node

/-- A write below the top of a value always counts as a change. -/
theorem not_shallowEq_of_modify
    {value : Node}
    {component : Component}
    {rest : Path}
    {node written : Node}
    (done : modify value (component :: rest) node = .ok written)
    (current : Node) :
    Node.shallowEq current written = false := by
  rw [eq_put_of_modify done]
  exact component.slot.shallowEq_fill current node _

/-! ## The base of a path -/

theorem exists_key_of_prepend
    {name : String}
    {result : Except PathError Path}
    {components : Path}
    (parsed : prepend (.key name) result = .ok components) :
    ∃ name rest, components = .key name :: rest := by
  cases result with
  | ok rest =>
      cases parsed
      exact ⟨name, rest, rfl⟩
  | error error => cases parsed

/-- A key that is read comes first among the components. -/
theorem exists_key_of_readKey
    {path : String}
    {start : Nat}
    {taken : List Char}
    {offset : Nat}
    {text : List Char}
    {components : Path}
    (parsed : readKey path start taken offset text = .ok components) :
    ∃ name rest, components = .key name :: rest := by
  induction text generalizing taken offset with
  | nil =>
      rw [readKey] at parsed
      split at parsed
      · cases parsed
      · cases parsed
        exact ⟨_, [], rfl⟩
  | cons c text inductionHypothesis =>
      rw [readKey] at parsed
      split at parsed
      · cases parsed
      split at parsed
      · split at parsed
        · cases parsed
        · exact exists_key_of_prepend parsed
      split at parsed
      · split at parsed
        · cases parsed
        · exact exists_key_of_prepend parsed
      · exact inductionHypothesis parsed

/-- Every path that is parsed starts with a variable. -/
theorem exists_key_of_parse
    {path : String}
    {components : Path}
    (parsed : parse path = .ok components) :
    ∃ name rest, components = .key name :: rest := by
  unfold parse at parsed
  split at parsed
  · cases parsed
  · exact exists_key_of_readKey parsed

end Path
end Storyboard
