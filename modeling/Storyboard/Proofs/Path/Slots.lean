import Storyboard.Path.Access
import Storyboard.Proofs.Table

/-!
# Slots

A component of a path leads to a slot of a container: a key of a mapping, however the
key is written, or a position of a sequence.  To read is to look into one slot after
another.  To write is to fill the slots on the way back, each container around what was
written below it.  The laws of paths follow from the laws of a single slot, by
induction on the path.
-/

namespace Storyboard

/-- A place for a child in a container. -/
inductive Slot where
  /-- A key of a mapping. -/
  | key (name : String)
  /-- A position of a sequence. -/
  | item (position : Nat)
  deriving DecidableEq

/-- The slot that a component leads to. -/
def Component.slot : Component → Slot
  | .key name => .key name
  | .dynamic name => .key name
  | .index position => .item position

namespace Path

@[simp] theorem entriesOf_mapping (entries : List (String × Node)) :
    entriesOf (.mapping entries) = entries := rfl

@[simp] theorem itemsOf_sequence (items : List Node) : itemsOf (.sequence items) = items := rfl

/-- Inside a list there is always an item, be it null. -/
theorem getElem?_eq_some_ofOption
    {items : List Node}
    {position : Nat}
    (inside : position < items.length) :
    items[position]? = some (Node.ofOption items[position]?) := by
  rw [List.getElem?_eq_getElem inside]
  rfl

/-- A list is known by its length and its items, also to a reader who takes nothing for null. -/
theorem ext_ofOption
    {items others : List Node}
    (length : items.length = others.length)
    (same : ∀ position : Nat,
      Node.ofOption items[position]? = Node.ofOption others[position]?) :
    items = others := by
  refine List.ext_getElem? fun position => ?_
  by_cases inside : position < items.length
  · calc
      items[position]? = some (Node.ofOption items[position]?) := getElem?_eq_some_ofOption inside
      _ = some (Node.ofOption others[position]?) := congrArg some (same position)
      _ = others[position]? := (getElem?_eq_some_ofOption (length ▸ inside)).symm
  · rw [List.getElem?_eq_none (Nat.le_of_not_lt inside),
      List.getElem?_eq_none (length ▸ Nat.le_of_not_lt inside)]

theorem length_padded
    (items : List Node)
    (length : Nat) :
    (padded items length).length = max items.length length := by
  simp only [padded, List.length_append, List.length_replicate]
  omega

theorem padded_of_le
    {items : List Node}
    {length : Nat}
    (enough : length ≤ items.length) :
    padded items length = items := by
  simp [padded, Nat.sub_eq_zero_of_le enough]

/-- What is added to a list is null. -/
theorem ofOption_getElem?_padded
    (items : List Node)
    (length position : Nat) :
    Node.ofOption (padded items length)[position]? = Node.ofOption items[position]? := by
  unfold padded
  by_cases inside : position < items.length
  · rw [List.getElem?_append_left inside]
  · rw [List.getElem?_append_right (Nat.le_of_not_lt inside), List.getElem?_replicate,
      List.getElem?_eq_none (Nat.le_of_not_lt inside)]
    split <;> rfl

/-- A list with an item put at a position, and nulls added in front of it where it takes any. -/
def withItem (items : List Node) (position : Nat) (item : Node) : List Node :=
  (padded items (position + 1)).set position item

section Items

variable (items : List Node) (position : Nat) (item : Node)

theorem length_withItem :
    (withItem items position item).length = max items.length (position + 1) := by
  rw [withItem, List.length_set, length_padded]

theorem getElem?_withItem : (withItem items position item)[position]? = some item := by
  have inside : position < (padded items (position + 1)).length := by
    rw [length_padded]
    omega
  exact List.getElem?_set_self inside

theorem ofOption_getElem?_withItem
    {other : Nat}
    (apart : position ≠ other) :
    Node.ofOption (withItem items position item)[other]? = Node.ofOption items[other]? := by
  rw [withItem, List.getElem?_set_ne apart, ofOption_getElem?_padded]

/-- The second of two items put at a position stays. -/
theorem withItem_withItem (before : Node) :
    withItem (withItem items position before) position item = withItem items position item := by
  have enough : position + 1 ≤ (withItem items position before).length := by
    rw [length_withItem]
    omega
  rw [withItem, padded_of_le enough, withItem, List.set_set]
  rfl

/-- An item that is put where it stands changes nothing. -/
theorem withItem_of_getElem?_eq_some
    {items : List Node}
    {position : Nat}
    {item : Node}
    (found : items[position]? = some item) :
    withItem items position item = items := by
  obtain ⟨inside, rfl⟩ := List.getElem?_eq_some_iff.mp found
  have enough : position + 1 ≤ items.length := inside
  rw [withItem, padded_of_le enough]
  exact List.set_getElem_self inside

/-- Items put at different positions may come in any order. -/
theorem withItem_comm
    {other : Nat}
    (apart : position ≠ other)
    (another : Node) :
    withItem (withItem items position item) other another =
      withItem (withItem items other another) position item := by
  refine ext_ofOption ?_ fun index => ?_
  · simp only [length_withItem]
    omega
  · by_cases here : index = position
    · subst here
      rw [ofOption_getElem?_withItem _ _ _ (Ne.symm apart), getElem?_withItem, getElem?_withItem]
    · by_cases there : index = other
      · subst there
        rw [getElem?_withItem, ofOption_getElem?_withItem _ _ _ apart, getElem?_withItem]
      · rw [ofOption_getElem?_withItem _ _ _ (Ne.symm there),
          ofOption_getElem?_withItem _ _ _ (Ne.symm here),
          ofOption_getElem?_withItem _ _ _ (Ne.symm here),
          ofOption_getElem?_withItem _ _ _ (Ne.symm there)]

end Items

end Path

namespace Slot

/-- The child in a slot.  A node that is not the container of the slot has none. -/
def child? : Slot → Node → Option Node
  | .key name, node => Table.get? (Path.entriesOf node) name
  | .item position, node => (Path.itemsOf node)[position]?

/-- The child in a slot; where there is none, null. -/
def look (slot : Slot) (node : Node) : Node := Node.ofOption (slot.child? node)

/-- A container with a child put into a slot.  A node of another kind gives way to an empty
container, and a sequence grows with nulls up to the slot. -/
def fill : Slot → Node → Node → Node
  | .key name, node, child => .mapping (Table.insert (Path.entriesOf node) name child)
  | .item position, node, child =>
      .sequence (Path.withItem (Path.itemsOf node) position child)

/-- Two slots of the same kind of container. -/
def Alike : Slot → Slot → Prop
  | .key _, .key _ => True
  | .item _, .item _ => True
  | _, _ => False

/-- A node that is null or the kind of container that a slot needs. -/
def Fits : Slot → Node → Prop
  | _, .null => True
  | .key _, .mapping _ => True
  | .item _, .sequence _ => True
  | _, _ => False

theorem Alike.symm {one other : Slot} (alike : one.Alike other) : other.Alike one := by
  cases one <;> cases other <;> exact alike

section Laws

variable (slot : Slot) (node child : Node)

theorem child?_fill : slot.child? (slot.fill node child) = some child := by
  cases slot with
  | key name => simp [child?, fill, Table.get?_insert]
  | item position => exact Path.getElem?_withItem (Path.itemsOf node) position child

/-- A slot holds what was put into it. -/
theorem look_fill : slot.look (slot.fill node child) = child := by
  rw [look, child?_fill]
  rfl

/-- What was put into a slot before is lost. -/
theorem fill_fill (before : Node) :
    slot.fill (slot.fill node before) child = slot.fill node child := by
  cases slot with
  | key name => simp only [fill, Path.entriesOf_mapping, Table.insert_insert]
  | item position => simp only [fill, Path.itemsOf_sequence, Path.withItem_withItem]

variable {slot node child}

/-- A container stays the same if a child is put where it is. -/
theorem fill_of_child?_eq_some
    (found : slot.child? node = some child) :
    slot.fill node child = node := by
  cases slot with
  | key name =>
      cases node with
      | mapping entries => exact congrArg Node.mapping (Table.insert_of_get?_eq_some found)
      | null | bool | number | string | sequence => cases found
  | item position =>
      cases node with
      | sequence items =>
          exact congrArg Node.sequence (Path.withItem_of_getElem?_eq_some found)
      | null | bool | number | string | mapping => cases found

/-- What is put into a slot leaves other slots of the same kind alone.  It leaves all others alone
if the node is the container already, or null. -/
theorem look_fill_of_ne
    {other : Slot}
    (apart : slot ≠ other)
    (suits : slot.Fits node ∨ slot.Alike other) :
    other.look (slot.fill node child) = other.look node := by
  cases slot with
  | key name =>
      cases other with
      | key another =>
          have differs : name ≠ another := fun same => apart (congrArg Slot.key same)
          simp only [look, child?, fill, Path.entriesOf_mapping, Table.get?_insert, if_neg differs]
      | item position =>
          have fits : Fits (.key name) node := suits.resolve_right id
          cases node with
          | null | mapping => rfl
          | bool | number | string | sequence => exact fits.elim
  | item position =>
      cases other with
      | key name =>
          have fits : Fits (.item position) node := suits.resolve_right id
          cases node with
          | null | sequence => rfl
          | bool | number | string | mapping => exact fits.elim
      | item another =>
          have differs : position ≠ another := fun same => apart (congrArg Slot.item same)
          exact Path.ofOption_getElem?_withItem (Path.itemsOf node) position child differs

end Laws

end Slot

/-! ## Paths as rows of slots -/

namespace Path

/-- The value at a path below a node; where there is none, null. -/
def look (path : Path) (node : Node) : Node := Node.ofOption (walk? path node)

/-- A node with a value written at a path below it, however far its positions reach. -/
def put (value : Node) : Path → Node → Node
  | [], _ => value
  | component :: rest, node =>
      component.slot.fill node (put value rest (ground rest (some (component.slot.look node))))

theorem walk?_cons
    (component : Component)
    (rest : Path)
    (node : Node) :
    walk? (component :: rest) node = (component.slot.child? node).bind (walk? rest) := by
  cases component with
  | key name | dynamic name =>
      cases node with
      | mapping entries =>
          rw [walk?]
          cases found : Table.get? entries name <;> simp [Component.slot, Slot.child?, found]
      | null | bool | number | string | sequence => rfl
  | index position =>
      cases node with
      | sequence items =>
          rw [walk?]
          cases found : items[position]? <;> simp [Component.slot, Slot.child?, found]
      | null | bool | number | string | mapping => rfl

theorem look_nil (node : Node) : look [] node = node := by
  rw [look, walk?_nil]
  rfl

theorem look_null (path : Path) : look path .null = .null := by
  cases path with
  | nil => exact look_nil .null
  | cons component rest => cases component <;> rfl

/-- To read is to look into one slot after another. -/
theorem look_cons
    (component : Component)
    (rest : Path)
    (node : Node) :
    look (component :: rest) node = look rest (component.slot.look node) := by
  rw [look, walk?_cons, Slot.look]
  cases component.slot.child? node with
  | none => exact (look_null rest).symm
  | some child => rfl

/-- The empty container that a path needs holds nothing. -/
theorem slot_look_seed
    (slot : Slot)
    (path : Path) :
    slot.look (seed path) = .null := by
  cases slot <;> rcases path with _ | ⟨_ | _ | _, _⟩ <;> rfl

/-- The ground for a write has nothing in it that was not there. -/
theorem look_cons_ground
    (component : Component)
    (rest path : Path)
    (node : Node) :
    look (component :: rest) (ground path (some node)) = look (component :: rest) node := by
  cases node with
  | null => rw [ground, look_cons, slot_look_seed, look_null, look_null]
  | bool | number | string | sequence | mapping => rfl

theorem ground_ofOption
    (path : Path)
    (found : Option Node) :
    ground path (some (Node.ofOption found)) = ground path found := by
  cases found <;> rfl

/-- A container that was filled is ground for any write. -/
theorem ground_fill
    (path : Path)
    (slot : Slot)
    (node child : Node) :
    ground path (some (slot.fill node child)) = slot.fill node child := by
  cases slot <;> rfl

/-- A slot of the empty container that a path needs is filled as if there were none. -/
theorem fill_ground
    (component : Component)
    (rest : Path)
    (node child : Node) :
    component.slot.fill (ground (component :: rest) (some node)) child =
      component.slot.fill node child := by
  cases node with
  | null => cases component <;> rfl
  | bool | number | string | sequence | mapping => rfl

/-- To write is to fill the slot of the first component around what is written below. -/
theorem modify_cons
    (value : Node)
    {component : Component}
    (allowed : ∀ position, component = .index position → position ≤ indexLimit)
    (rest : Path)
    (node : Node) :
    modify value (component :: rest) node =
      (modify value rest (ground rest (some (component.slot.look node)))).map
        (component.slot.fill node) := by
  cases component with
  | key name | dynamic name =>
      rw [modify, Slot.look, ground_ofOption]
      dsimp only [Component.slot, Slot.child?]
      cases modify value rest (ground rest (Table.get? (entriesOf node) name)) <;> rfl
  | index position =>
      have inside : ¬ indexLimit < position := Nat.not_lt.mpr (allowed position rfl)
      rw [modify, if_neg inside, Slot.look, ground_ofOption]
      dsimp only [Component.slot, Slot.child?]
      rw [← ground_ofOption, ofOption_getElem?_padded, ground_ofOption]
      cases modify value rest (ground rest (itemsOf node)[position]?) <;> rfl

/-- No position of the path lies beyond the limit for writes. -/
def WithinLimit (path : Path) : Prop :=
  ∀ position, Component.index position ∈ path → position ≤ indexLimit

theorem withinLimit_nil : WithinLimit [] := by
  intro position member
  exact absurd member List.not_mem_nil

theorem withinLimit_cons_iff
    (component : Component)
    (rest : Path) :
    WithinLimit (component :: rest) ↔
      (∀ position, component = .index position → position ≤ indexLimit) ∧ WithinLimit rest := by
  simp only [WithinLimit, List.mem_cons, or_imp, forall_and, eq_comm]

/-- A write within the limit comes to filling slots. -/
theorem modify_eq_put
    (value : Node)
    {path : Path}
    (within : WithinLimit path)
    (node : Node) :
    modify value path node = .ok (put value path node) := by
  induction path generalizing node with
  | nil => rfl
  | cons component rest inductionHypothesis =>
      obtain ⟨allowed, below⟩ := (withinLimit_cons_iff component rest).mp within
      rw [modify_cons value allowed, inductionHypothesis below]
      rfl

/-- What a write below leaves is ground for any other. -/
theorem ground_put
    (value : Node)
    {path : Path}
    (below : path ≠ [])
    (other : Path)
    (node : Node) :
    ground other (some (put value path node)) = put value path node := by
  cases path with
  | nil => exact absurd rfl below
  | cons component rest => exact ground_fill other component.slot node _

end Path
end Storyboard
