import Storyboard.Proofs.Path.Slots

/-!
# What a write leaves alone

A write at a path that meets no value of a wrong kind on its way disturbs nothing else:
every path that parts from it is read as before.  The containers on the way keep what
they had.  A mapping keeps its keys in their order, with a new key behind them, and a
sequence grows just as far as the write reaches, with nulls.
-/

namespace Storyboard

/-- What filling a slot makes of the keys of a mapping, and of the length of a sequence. -/
def Slot.Enlarges : Slot → Node → Node → Prop
  | .key name, before, after =>
      ∃ entries, after = .mapping entries ∧
        Table.keys entries =
          if name ∈ Table.keys (Path.entriesOf before) then Table.keys (Path.entriesOf before)
          else Table.keys (Path.entriesOf before) ++ [name]
  | .item position, before, after =>
      ∃ items, after = .sequence items ∧
        items.length = max (Path.itemsOf before).length (position + 1) ∧
        ∀ other, (Path.itemsOf before).length ≤ other → other < items.length →
          other ≠ position → items[other]? = some .null

theorem Slot.enlarges_fill
    (slot : Slot)
    (node child : Node) :
    slot.Enlarges node (slot.fill node child) := by
  cases slot with
  | key name =>
      refine ⟨_, rfl, ?_⟩
      rw [Table.keys_insert]
      simp only [Table.contains_iff]
  | item position =>
      refine ⟨_, rfl, Path.length_withItem _ _ _, ?_⟩
      intro other added inside apart
      rw [Path.getElem?_eq_some_ofOption inside,
        Path.ofOption_getElem?_withItem _ _ _ (Ne.symm apart), List.getElem?_eq_none added]
      rfl

namespace Path

/-- Whatever stands on the way of a path is null or the container that the next component needs. -/
def Open (path : Path) (node : Node) : Prop :=
  ∀ front component back found, path = front ++ component :: back →
    walk? front node = some found → component.slot.Fits found

/-- Two paths that lead to different slots at some position. -/
def Diverges (path other : Path) : Prop :=
  ∃ (position : Nat) (component another : Component), path[position]? = some component ∧
    other[position]? = some another ∧ component.slot ≠ another.slot

theorem not_diverges_nil_left (other : Path) : ¬ Diverges [] other := by
  rintro ⟨position, component, another, here, -⟩
  cases here

theorem not_diverges_nil_right (path : Path) : ¬ Diverges path [] := by
  rintro ⟨position, component, another, -, there, -⟩
  cases there

theorem diverges_cons_iff
    (component another : Component)
    (rest others : Path) :
    Diverges (component :: rest) (another :: others) ↔
      component.slot ≠ another.slot ∨ Diverges rest others := by
  constructor
  · rintro ⟨_ | position, one, two, here, there, apart⟩
    · cases here
      cases there
      exact .inl apart
    · exact .inr ⟨position, one, two, here, there, apart⟩
  · rintro (apart | ⟨position, one, two, here, there, apart⟩)
    · exact ⟨0, component, another, rfl, rfl, apart⟩
    · exact ⟨position + 1, one, two, here, there, apart⟩

namespace Open

variable {component : Component} {rest : Path} {node : Node}

theorem fits (clear : Open (component :: rest) node) : component.slot.Fits node :=
  clear [] component rest node rfl (walk?_nil node)

theorem nil (node : Node) : Open [] node := by
  intro front component back found impossible
  cases front <;> cases impossible

/-- A path is open if it is from the child in its first slot on. -/
theorem cons
    (fits : component.slot.Fits node)
    (below : ∀ child, component.slot.child? node = some child → Open rest child) :
    Open (component :: rest) node := by
  intro front next back found same walked
  cases front with
  | nil =>
      cases same
      obtain rfl := Option.some.inj ((walk?_nil node).symm.trans walked)
      exact fits
  | cons first front =>
      obtain ⟨rfl, rfl⟩ := List.cons.inj same
      rw [walk?_cons] at walked
      obtain ⟨child, inSlot, walked⟩ := Option.bind_eq_some_iff.mp walked
      exact below child inSlot front next back found rfl walked

/-- An empty container is open to the path that asked for it. -/
theorem seed (path : Path) : Open path (Path.seed path) := by
  rintro front component back found rfl walked
  cases front with
  | nil =>
      obtain rfl := Option.some.inj ((walk?_nil _).symm.trans walked)
      cases component <;> trivial
  | cons first front => cases first <;> cases walked

/-- A path that is open goes on to be open from the ground of its next write. -/
theorem ground (clear : Open (component :: rest) node) :
    Open rest (Path.ground rest (some (component.slot.look node))) := by
  cases found : component.slot.child? node with
  | none =>
      rw [Slot.look, found]
      exact seed rest
  | some child =>
      have below : Open rest child := by
        intro front next back last same walked
        refine clear (component :: front) next back last (congrArg (component :: ·) same) ?_
        rw [walk?_cons, found]
        exact walked
      rw [Slot.look, found]
      cases child with
      | null => exact seed rest
      | bool | number | string | sequence | mapping => exact below

end Open

/-- A path that parts from a written one is read as before, by induction on the written path. -/
theorem look_put_of_diverges
    (value : Node)
    {path other : Path}
    {node : Node}
    (clear : path.Open node)
    (diverges : path.Diverges other) :
    look other (put value path node) = look other node := by
  induction path generalizing other node with
  | nil => exact absurd diverges (not_diverges_nil_left other)
  | cons component rest inductionHypothesis =>
      cases other with
      | nil => exact absurd diverges (not_diverges_nil_right _)
      | cons another others =>
          rw [put, look_cons, look_cons]
          by_cases same : component.slot = another.slot
          · have later : Diverges rest others :=
              ((diverges_cons_iff component another rest others).mp diverges).resolve_left
                fun apart => apart same
            rw [← same, Slot.look_fill, inductionHypothesis clear.ground later]
            cases others with
            | nil => exact absurd later (not_diverges_nil_right rest)
            | cons next others => exact look_cons_ground next others rest _
          · rw [Slot.look_fill_of_ne same (.inl clear.fits)]

/-- On the way to the written place every container is filled in the slot of the path, by induction
on the part of the path that leads to the container. -/
theorem exists_look_put_eq_fill
    (value : Node)
    (front : Path)
    (component : Component)
    (back : Path)
    (node : Node) :
    ∃ child, look front (put value (front ++ component :: back) node) =
      component.slot.fill (look front node) child := by
  induction front generalizing node with
  | nil => exact ⟨_, by rw [look_nil, look_nil]; rfl⟩
  | cons first front inductionHypothesis =>
      obtain ⟨child, filled⟩ := inductionHypothesis
        (ground (front ++ component :: back) (some (first.slot.look node)))
      refine ⟨child, ?_⟩
      rw [List.cons_append, put, look_cons, Slot.look_fill, filled, look_cons]
      cases front with
      | nil =>
          rw [look_nil, look_nil]
          exact fill_ground component back _ child
      | cons next front => rw [look_cons_ground]

/-- A write that no value of a wrong kind stands in the way of changes what is read at no path that
parts from its own, takes no key from a mapping on its way and no item from a sequence. -/
theorem modify_leaves_others
    (value : Node)
    {path : Path}
    {node : Node}
    (within : path.WithinLimit)
    (clear : path.Open node) :
    ∃ written, modify value path node = .ok written ∧
      (∀ other, path.Diverges other → look other written = look other node) ∧
      ∀ front component back, path = front ++ component :: back →
        component.slot.Enlarges (look front node) (look front written) := by
  refine ⟨_, modify_eq_put value within node, ?_, ?_⟩
  · intro other diverges
    exact look_put_of_diverges value clear diverges
  · rintro front component back rfl
    obtain ⟨child, filled⟩ := exists_look_put_eq_fill value front component back node
    rw [filled]
    exact component.slot.enlarges_fill _ child

/-- A name in brackets is read as before when a list beside it grows by two items. -/
theorem modify_leaves_others_of_tags :
    let node : Node := .mapping
      [("name", .string "Ada"), ("tags", .sequence [.string "new"])]
    let path : Path := [.key "tags", .index 2, .key "color"]
    path.WithinLimit ∧ path.Open node ∧
      ∃ written, modify (.string "red") path node = .ok written ∧
        look [.dynamic "name"] written = .string "Ada" ∧
        look [.dynamic "tags", .index 1] written = .null ∧
        ∃ items, look [.key "tags"] written = .sequence items ∧ items.length = 3 := by
  intro node path
  have within : path.WithinLimit := by
    intro position member
    obtain rfl : position = 2 := by simpa [path] using member
    decide
  have clear : path.Open node := by
    refine .cons trivial fun tags found => ?_
    obtain rfl := Option.some.inj found
    exact .cons trivial fun item impossible => by cases impossible
  have later : path.Diverges [.dynamic "tags", .index 1] :=
    ⟨1, .index 2, .index 1, rfl, rfl, by decide⟩
  obtain ⟨written, done, others, enlarged⟩ :=
    modify_leaves_others (.string "red") within clear
  obtain ⟨items, isList, length, -⟩ := enlarged [.key "tags"] (.index 2) [.key "color"] rfl
  exact ⟨within, clear, written, done,
    others [.dynamic "name"] ⟨0, .key "tags", .dynamic "name", rfl, rfl, by decide⟩,
    others _ later, items, isList, length⟩

end Path
end Storyboard
