import Storyboard.Proofs.Path.Slots

/-!
# Writes one after another

Of two writes at one path the second counts, and to write what is there already changes
nothing.  Two writes at paths that fork, in keys of one mapping or in positions of one
sequence, commute but for the order of new keys.  None of this depends on what stands in
the way of the writes.
-/

namespace Storyboard

namespace Table

variable {α : Type}

/-- A write under a key has a place among the entries that does not depend on the value. -/
theorem exists_insert_eq
    (entries : List (String × α))
    (key : String) :
    ∃ front back, ∀ value, insert entries key value = front ++ (key, value) :: back := by
  induction entries with
  | nil => exact ⟨[], [], fun _ => rfl⟩
  | cons entry rest inductionHypothesis =>
      obtain ⟨name, old⟩ := entry
      by_cases same : name = key
      · exact ⟨[], rest, fun value => by rw [insert, if_pos same, same, List.nil_append]⟩
      · obtain ⟨front, back, placed⟩ := inductionHypothesis
        exact ⟨(name, old) :: front, back, fun value => by
          rw [insert, if_neg same, placed, List.cons_append]⟩

/-- Writes under different keys commute but for the order of the entries. -/
theorem insert_insert_perm
    {key other : String}
    (apart : key ≠ other)
    (entries : List (String × α))
    (value another : α) :
    (insert (insert entries key value) other another).Perm
      (insert (insert entries other another) key value) := by
  induction entries with
  | nil =>
      simp only [insert, if_neg apart, if_neg (Ne.symm apart)]
      exact .swap _ _ []
  | cons entry rest inductionHypothesis =>
      obtain ⟨name, old⟩ := entry
      by_cases here : name = key
      · subst here
        simp only [insert, if_true, if_neg apart]
        exact .refl _
      · by_cases there : name = other
        · subst there
          simp only [insert, if_true, if_neg here]
          exact .refl _
        · simp only [insert, if_neg here, if_neg there]
          exact inductionHypothesis.cons _

end Table

namespace Node

/-- Two nodes that are the same but for the order of entries, in mappings at any depth. -/
inductive Reordered : Node → Node → Prop where
  /-- Nothing is moved. -/
  | refl (node : Node) : Reordered node node
  /-- One order after another. -/
  | trans {one middle other : Node} :
      Reordered one middle → Reordered middle other → Reordered one other
  /-- The entries of a mapping are moved. -/
  | entries {entries others : List (String × Node)} :
      entries.Perm others → Reordered (.mapping entries) (.mapping others)
  /-- Entries are moved in a value of a mapping. -/
  | value {one other : Node} (front : List (String × Node)) (key : String)
      (back : List (String × Node)) :
      Reordered one other →
        Reordered (.mapping (front ++ (key, one) :: back))
          (.mapping (front ++ (key, other) :: back))
  /-- Entries are moved in an item of a sequence. -/
  | item {one other : Node} (front back : List Node) :
      Reordered one other →
        Reordered (.sequence (front ++ one :: back)) (.sequence (front ++ other :: back))

theorem Reordered.symm {one other : Node} (reordered : Reordered one other) :
    Reordered other one := by
  induction reordered with
  | refl node => exact .refl node
  | trans _ _ first second => exact second.trans first
  | entries perm => exact .entries perm.symm
  | value front key back _ inductionHypothesis => exact .value front key back inductionHypothesis
  | item front back _ inductionHypothesis => exact .item front back inductionHypothesis

end Node

namespace Slot

/-- What is moved in a child is moved in the container. -/
theorem reordered_fill
    (slot : Slot)
    (node : Node)
    {child other : Node}
    (reordered : child.Reordered other) :
    (slot.fill node child).Reordered (slot.fill node other) := by
  cases slot with
  | key name =>
      obtain ⟨front, back, placed⟩ := Table.exists_insert_eq (Path.entriesOf node) name
      simp only [fill, placed]
      exact .value front name back reordered
  | item position =>
      have inside : position < (Path.padded (Path.itemsOf node) (position + 1)).length := by
        rw [Path.length_padded]
        omega
      simp only [fill, Path.withItem, List.set_eq_take_append_cons_drop, if_pos inside]
      exact .item _ _ reordered

/-- Two slots of the same kind may be filled in any order. -/
theorem reordered_fill_fill
    {slot other : Slot}
    (apart : slot ≠ other)
    (alike : slot.Alike other)
    (node child another : Node) :
    (other.fill (slot.fill node child) another).Reordered
      (slot.fill (other.fill node another) child) := by
  cases slot with
  | key name =>
      cases other with
      | key second =>
          have differs : name ≠ second := fun same => apart (congrArg Slot.key same)
          exact .entries (Table.insert_insert_perm differs (Path.entriesOf node) child another)
      | item position => exact alike.elim
  | item position =>
      cases other with
      | key name => exact alike.elim
      | item second =>
          have differs : position ≠ second := fun same => apart (congrArg Slot.item same)
          simp only [fill, Path.itemsOf_sequence]
          rw [Path.withItem_comm _ _ _ differs]
          exact .refl _

end Slot

namespace Path

/-! ## One path -/

/-- What was written at a path before is lost, by induction on the path. -/
theorem put_put
    (before value : Node)
    (path : Path)
    (node : Node) :
    put value path (put before path node) = put value path node := by
  induction path generalizing node with
  | nil => rfl
  | cons component rest inductionHypothesis =>
      have below : ∀ ready, put value rest (ground rest (some (put before rest ready))) =
          put value rest ready := by
        intro ready
        cases rest with
        | nil => rfl
        | cons next rest => rw [ground_put before (List.cons_ne_nil _ _), inductionHypothesis]
      rw [put, put, Slot.look_fill, Slot.fill_fill, below]
      rfl

/-- A value that is written where it is found changes nothing, by induction on the path. -/
theorem put_of_walk?_eq_some
    {value : Node}
    {path : Path}
    {node : Node}
    (found : walk? path node = some value) :
    put value path node = node := by
  induction path generalizing node with
  | nil => exact (Option.some.inj ((walk?_nil node).symm.trans found)).symm
  | cons component rest inductionHypothesis =>
      rw [walk?_cons] at found
      obtain ⟨child, inSlot, walked⟩ := Option.bind_eq_some_iff.mp found
      have ready : ground rest (some child) = child := by
        cases child with
        | null =>
            -- nothing but null itself is found from null on
            cases rest with
            | nil => rfl
            | cons next rest => cases next <;> cases walked
        | bool | number | string | sequence | mapping => rfl
      rw [put, Slot.look, inSlot, Node.ofOption, ready, inductionHypothesis walked,
        Slot.fill_of_child?_eq_some inSlot]

/-- Of two writes at a path the second counts, down to the order of keys, and to write the value
that is found at a path changes nothing, also if the value is null. -/
theorem modify_modify
    {path : Path}
    (within : path.WithinLimit)
    (node : Node) :
    (∀ before value, ∃ first second, modify before path node = .ok first ∧
      modify value path first = .ok second ∧ modify value path node = .ok second) ∧
    ∀ value, walk? path node = some value → modify value path node = .ok node := by
  constructor
  · intro before value
    refine ⟨_, _, modify_eq_put before within node, modify_eq_put value within _, ?_⟩
    rw [modify_eq_put value within, put_put]
  · intro value found
    rw [modify_eq_put value within, put_of_walk?_eq_some found]

/-- A null that is stored deep in a list is found there and written again. -/
theorem modify_modify_of_null :
    let node : Node := .mapping [("rows", .sequence [.mapping [("title", .null)], .bool true])]
    let path : Path := [.key "rows", .index 0, .dynamic "title"]
    path.WithinLimit ∧ walk? path node = some .null ∧ modify .null path node = .ok node ∧
      ∃ first second, modify (.string "draft") path node = .ok first ∧
        modify .null path first = .ok second ∧ modify .null path node = .ok second := by
  intro node path
  have within : path.WithinLimit := by
    intro position member
    obtain rfl : position = 0 := by simpa [path] using member
    exact Nat.zero_le _
  obtain ⟨second, same⟩ := modify_modify within node
  exact ⟨within, rfl, same .null rfl, second (.string "draft") .null⟩

/-! ## Two paths -/

/-- Two paths that lead to the same slots up to a component where they lead to different ones of the
same kind. -/
def Forks (path other : Path) : Prop :=
  ∃ front component rest shared another others,
    path = front ++ component :: rest ∧ other = shared ++ another :: others ∧
      front.map Component.slot = shared.map Component.slot ∧
      component.slot ≠ another.slot ∧ component.slot.Alike another.slot

theorem Forks.symm
    {path other : Path}
    (forks : path.Forks other) :
    other.Forks path := by
  obtain ⟨front, component, rest, shared, another, others, first, second, same, apart, alike⟩ :=
    forks
  exact ⟨shared, another, others, front, component, rest, second, first, same.symm, Ne.symm apart,
    alike.symm⟩

theorem Forks.ne_nil
    {path other : Path}
    (forks : path.Forks other) :
    path ≠ [] := by
  obtain ⟨front, component, rest, -, -, -, rfl, -⟩ := forks
  exact List.append_ne_nil_of_right_ne_nil front (List.cons_ne_nil component rest)

/-- Components of the same kind need the same container. -/
theorem seed_of_alike
    {component another : Component}
    (alike : component.slot.Alike another.slot)
    (rest others : Path) :
    seed (component :: rest) = seed (another :: others) := by
  cases component with
  | key name | dynamic name =>
      cases another with
      | key second | dynamic second => rfl
      | index position => exact alike.elim
  | index position =>
      cases another with
      | key name | dynamic name => exact alike.elim
      | index second => rfl

/-- Paths that fork need the same container. -/
theorem Forks.seed
    {path other : Path}
    (forks : path.Forks other) :
    Path.seed path = Path.seed other := by
  obtain ⟨front, component, rest, shared, another, others, rfl, rfl, same, -, alike⟩ := forks
  cases front with
  | nil =>
      obtain rfl := List.map_eq_nil_iff.mp same.symm
      exact seed_of_alike alike rest others
  | cons first front =>
      obtain ⟨second, shared, rfl, slots, -⟩ := List.map_eq_cons_iff.mp same.symm
      have firstAlike : first.slot.Alike second.slot := by
        rw [slots]
        cases first <;> trivial
      exact seed_of_alike firstAlike _ _

theorem Forks.ground
    {path other : Path}
    (forks : path.Forks other)
    (node : Node) :
    Path.ground path (some node) = Path.ground other (some node) := by
  cases node with
  | null => exact forks.seed
  | bool | number | string | sequence | mapping => rfl

/-- Two paths that fork do so at their first components, or below a first component in common. -/
theorem Forks.cons_cases
    {component another : Component}
    {rest others : Path}
    (forks : Forks (component :: rest) (another :: others)) :
    (component.slot ≠ another.slot ∧ component.slot.Alike another.slot) ∨
      component.slot = another.slot ∧ Forks rest others := by
  obtain ⟨front, one, back, shared, two, behind, first, second, same, apart, alike⟩ := forks
  cases front with
  | nil =>
      obtain rfl := List.map_eq_nil_iff.mp same.symm
      cases first
      cases second
      exact .inl ⟨apart, alike⟩
  | cons next front =>
      obtain ⟨last, shared, rfl, slots, later⟩ := List.map_eq_cons_iff.mp same.symm
      cases first
      cases second
      exact .inr ⟨slots.symm, front, one, back, shared, two, behind, rfl, rfl, later.symm, apart,
        alike⟩

/-- Writes at paths that fork may come in any order, by induction on the first path. -/
theorem reordered_put_put
    (value another : Node)
    {path other : Path}
    (forks : path.Forks other)
    (node : Node) :
    (put another other (put value path node)).Reordered
      (put value path (put another other node)) := by
  induction path generalizing other node with
  | nil => exact absurd rfl forks.ne_nil
  | cons component rest inductionHypothesis =>
      cases other with
      | nil => exact absurd rfl forks.symm.ne_nil
      | cons second others =>
          simp only [put]
          rcases forks.cons_cases with ⟨apart, alike⟩ | ⟨same, later⟩
          · rw [Slot.look_fill_of_ne apart (.inr alike),
              Slot.look_fill_of_ne (Ne.symm apart) (.inr alike.symm)]
            exact Slot.reordered_fill_fill apart alike node _ _
          · -- below the common slot each write finds what the other has left there
            rw [← same, Slot.look_fill, Slot.look_fill, Slot.fill_fill, Slot.fill_fill,
              ground_put value later.ne_nil, ground_put another later.symm.ne_nil, ← later.ground]
            exact Slot.reordered_fill component.slot node (inductionHypothesis later _)

/-- Writes at paths that fork come to the same in any order, but for the order of entries, whatever
stands in their way. -/
theorem reordered_modify_modify
    (value another : Node)
    {path other : Path}
    (within : path.WithinLimit)
    (withinOther : other.WithinLimit)
    (forks : path.Forks other)
    (node : Node) :
    ∃ first both second same, modify value path node = .ok first ∧
      modify another other first = .ok both ∧ modify another other node = .ok second ∧
      modify value path second = .ok same ∧ both.Reordered same :=
  ⟨_, _, _, _, modify_eq_put value within node, modify_eq_put another withinOther _,
    modify_eq_put another withinOther node, modify_eq_put value within _,
    reordered_put_put value another forks node⟩

/-- Both writes find a truth value where they need a mapping, and each puts a key of its own into
the mapping that takes its place. -/
theorem reordered_modify_modify_of_colors :
    let node : Node := .mapping [("user", .bool true), ("tags", .null)]
    let path : Path := [.key "user", .key "colors", .index 0]
    let other : Path := [.dynamic "user", .dynamic "name"]
    path.WithinLimit ∧ other.WithinLimit ∧ path.Forks other ∧
      ∃ first both second same, modify (.string "red") path node = .ok first ∧
        modify (.string "Ada") other first = .ok both ∧
        modify (.string "Ada") other node = .ok second ∧
        modify (.string "red") path second = .ok same ∧ both.Reordered same := by
  intro node path other
  have within : path.WithinLimit := by
    intro position member
    obtain rfl : position = 0 := by simpa [path] using member
    exact Nat.zero_le _
  have withinOther : other.WithinLimit := by
    intro position member
    simp [other] at member
  have forks : path.Forks other :=
    ⟨[.key "user"], .key "colors", [.index 0], [.dynamic "user"], .dynamic "name", [], rfl, rfl,
      rfl, by decide, trivial⟩
  exact ⟨within, withinOther, forks,
    reordered_modify_modify (.string "red") (.string "Ada") within withinOther forks node⟩

end Path
end Storyboard
