import Mathlib.Data.List.DropRight
import Storyboard.Json.Record
import Storyboard.Proofs.Json.Values
import Storyboard.Proofs.Table

/-!
# What is read of records

A property of the slots of a record that every field keeps holds of the slots of every record
that is read, whichever order its fields have in the text and whether they stand in a table or
in a list.
-/

namespace Storyboard
namespace Json

variable {α β σ : Type}

/-- Whatever a reader returns has a property. -/
def Yields (read : Reader α) (holds : α → Prop) : Prop :=
  ∀ text value rest, read text = .ok (value, rest) → holds value

theorem skipSpaces_skipSpaces (text : List Char) : skipSpaces (skipSpaces text) = skipSpaces text :=
  List.dropWhile_idempotent isSpace text

theorem Yields.mapValue
    {read : Reader α}
    {f : α → β}
    {holds : β → Prop}
    (yields : Yields read fun value => holds (f value)) :
    Yields (fun text => Json.mapValue f (read text)) holds := by
  intro text value rest mapped
  obtain ⟨first, read, rfl⟩ := exists_of_mapValue_eq_ok mapped
  exact yields text first rest read

theorem Yields.afterColon
    {read : Reader α}
    {holds : α → Prop}
    (yields : Yields read holds) :
    Yields (Json.afterColon read) holds := by
  intro text value rest taken
  unfold Json.afterColon at taken
  split at taken
  · exact yields _ value rest taken
  · cases taken

/-- What is read where `null` may stand is `null`, or a value whose text does not start like it. -/
theorem Yields.optional
    {read : Reader α}
    {holds : α → Prop}
    (yields : ∀ text value rest, text.head? ≠ some 'n' → skipSpaces text = text →
      read text = .ok (value, rest) → holds value) :
    Yields (Json.optional read) fun given => ∀ value, given = some value → holds value := by
  intro text given rest taken
  unfold Json.optional at taken
  split at taken
  · cases taken
  · obtain ⟨_, -, rfl⟩ := exists_of_mapValue_eq_ok taken
    exact nofun
  · next other =>
      obtain ⟨value, read, rfl⟩ := exists_of_mapValue_eq_ok taken
      rintro _ ⟨⟩
      refine yields _ value rest (fun starts => ?_) (skipSpaces_skipSpaces text) read
      obtain ⟨more, same⟩ := List.head?_eq_some_iff.mp starts
      exact other more same

/-- The items of a list that is read, one level below it. -/
theorem Yields.listOf
    {read : Nat → Reader α}
    {holds : Nat → α → Prop}
    (yields : ∀ depth, Yields (read depth) (holds depth))
    (limit : Nat) :
    Yields (Json.listOf read limit) fun values =>
      ∃ depth, limit = depth + 1 ∧ ∀ value ∈ values, holds depth value := by
  intro text values rest taken
  unfold Json.listOf at taken
  split at taken
  · cases limit with
    | zero => cases taken
    | succ depth => exact ⟨depth, rfl, forall_of_items_eq_ok (yields depth) taken⟩
  · cases taken

/-- The values of a table that is read, one level below it, under distinct keys. -/
theorem Yields.tableOf
    {read : Nat → Reader α}
    {holds : Nat → α → Prop}
    (yields : ∀ depth, Yields (read depth) (holds depth))
    (limit : Nat) :
    Yields (Json.tableOf read limit) fun entries =>
      Table.Distinct entries ∧
        ∃ depth, limit = depth + 1 ∧ ∀ entry ∈ entries, holds depth entry.2 := by
  intro text entries rest taken
  unfold Json.tableOf at taken
  split at taken
  · cases limit with
    | zero => cases taken
    | succ depth =>
        obtain ⟨listed, read, rfl⟩ := exists_of_mapValue_eq_ok taken
        have each := forall_of_entries_eq_ok (yields depth) read
        exact ⟨Table.distinct_ofEntries listed, depth, rfl,
          fun entry member => each entry (Table.mem_of_mem_ofEntries member)⟩
  · cases taken

/-! ## Records -/

/-- A property of the slots of a record, at each limit on nesting, that no field breaks. -/
structure Shape.Keeps (shape : Shape σ) (holds : Nat → σ → Prop) : Prop where
  /-- A field that is read into its slot. -/
  fill : ∀ field ∈ shape.fields, ∀ depth slots, holds depth slots →
    Yields (field.fill depth slots) (holds depth)
  /-- A field of another name. -/
  other : ∀ name, (∀ field ∈ shape.fields, field.name ≠ name) → ∀ depth slots,
    holds depth slots → Yields (shape.other name depth slots) (holds depth)

namespace Shape.Keeps

variable {shape : Shape σ} {holds : Nat → σ → Prop} {depth : Nat}

theorem entry
    (keeps : shape.Keeps holds)
    {slots : σ}
    (known : holds depth slots) :
    Yields (shape.entry depth slots) (holds depth) := by
  intro text next rest taken
  obtain ⟨⟨name, middle⟩, -, taken⟩ := bind_eq_ok_iff.mp taken
  dsimp only at taken
  split at taken
  · next field found =>
      split at taken
      · cases taken
      · exact Yields.afterColon (keeps.fill field (List.mem_of_find?_eq_some found) depth slots known)
          _ next rest taken
  · next absent =>
      refine Yields.afterColon (keeps.other name (fun field member same => ?_) depth slots known)
        _ next rest taken
      have apart := List.find?_eq_none.mp absent field member
      exact apart (beq_iff_eq.mpr same)

/-- The entries after the first one, by induction on the characters that are left. -/
theorem more
    (keeps : shape.Keeps holds)
    (fuel : Nat)
    {slots : σ}
    (known : holds depth slots) :
    Yields (shape.more depth fuel slots) (holds depth) := by
  induction fuel generalizing slots with
  | zero => exact nofun
  | succ fuel inductionHypothesis =>
      intro text next rest taken
      rw [Shape.more] at taken
      split at taken
      · cases taken
      · cases taken
        exact known
      · split at taken
        · cases taken
        · obtain ⟨⟨filled, middle⟩, first, taken⟩ := bind_eq_ok_iff.mp taken
          exact inductionHypothesis (keeps.entry known _ _ _ first) _ next rest taken
        · cases taken
      · cases taken

theorem table
    (keeps : shape.Keeps holds)
    {slots : σ}
    (known : holds depth slots) :
    Yields (shape.table depth slots) (holds depth) := by
  intro text next rest taken
  unfold Shape.table at taken
  split at taken
  · cases taken
  · cases taken
    exact known
  · obtain ⟨⟨filled, middle⟩, first, taken⟩ := bind_eq_ok_iff.mp taken
    exact keeps.more _ (keeps.entry known _ _ _ first) _ next rest taken
  · cases taken

/-- The fields of a list after the first one, by induction on those that are left. -/
theorem moreInOrder
    (keeps : shape.Keeps holds)
    {fields : List (Field σ)}
    (known : ∀ field ∈ fields, field ∈ shape.fields)
    {slots : σ}
    (filled : holds depth slots) :
    Yields (Json.moreInOrder depth fields slots) (holds depth) := by
  induction fields generalizing slots with
  | nil =>
      intro text next rest taken
      obtain ⟨_, -, rfl⟩ := exists_of_mapValue_eq_ok taken
      exact filled
  | cons field others inductionHypothesis =>
      obtain ⟨isField, areFields⟩ := List.forall_mem_cons.mp known
      intro text next rest taken
      rw [Json.moreInOrder.eq_def] at taken
      dsimp only at taken
      split at taken
      · cases taken
      · cases taken
        exact filled
      · split at taken
        · cases taken
        · cases taken
        · obtain ⟨⟨middleSlots, middle⟩, first, taken⟩ := bind_eq_ok_iff.mp taken
          have filledMiddle := keeps.fill field isField depth slots filled _ _ _ first
          exact inductionHypothesis areFields filledMiddle _ next rest taken
      · cases taken

theorem inOrder
    (keeps : shape.Keeps holds)
    {slots : σ}
    (filled : holds depth slots) :
    Yields (Json.inOrder depth shape.fields slots) (holds depth) := by
  intro text next rest taken
  cases fields : shape.fields with
  | nil =>
      rw [fields] at taken
      obtain ⟨_, -, rfl⟩ := exists_of_mapValue_eq_ok taken
      exact filled
  | cons field others =>
      obtain ⟨isField, areFields⟩ :=
        List.forall_mem_cons.mp (show ∀ other ∈ field :: others, other ∈ shape.fields by simp [fields])
      rw [fields, Json.inOrder] at taken
      split at taken
      · cases taken
      · cases taken
        exact filled
      · obtain ⟨⟨middleSlots, middle⟩, first, taken⟩ := bind_eq_ok_iff.mp taken
        have filledMiddle := keeps.fill field isField depth slots filled _ _ _ first
        exact keeps.moreInOrder areFields filledMiddle _ next rest taken

/-- The slots of a record, one level below it. -/
theorem slots
    (keeps : shape.Keeps holds)
    {start : σ}
    (started : ∀ depth, holds depth start)
    (limit : Nat) :
    Yields (shape.slots start limit) fun slots =>
      ∃ depth, limit = depth + 1 ∧ holds depth slots := by
  intro text slots rest taken
  unfold Shape.slots at taken
  split at taken
  · cases limit with
    | zero => cases taken
    | succ depth => exact ⟨depth, rfl, keeps.table (started depth) _ _ _ taken⟩
  · split at taken
    · cases limit with
      | zero => cases taken
      | succ depth => exact ⟨depth, rfl, keeps.inOrder (started depth) _ _ _ taken⟩
    · cases taken
  · cases taken

/-- A record is made of slots that have what no field breaks, one level below the record. -/
theorem read
    (keeps : shape.Keeps holds)
    {start : σ}
    (started : ∀ depth, holds depth start)
    (finish : σ → Option α)
    (limit : Nat) :
    Yields (shape.read start finish limit) fun record =>
      ∃ depth slots, limit = depth + 1 ∧ holds depth slots ∧ finish slots = some record := by
  intro text record rest taken
  obtain ⟨⟨slots, middle⟩, filled, finished⟩ := bind_eq_ok_iff.mp taken
  obtain ⟨depth, isLimit, known⟩ := keeps.slots started limit _ _ _ filled
  refine ⟨depth, slots, isLimit, known, ?_⟩
  dsimp only at finished
  split at finished
  · next made isMade =>
      obtain rfl : made = record := congrArg Prod.fst (Except.ok.inj finished)
      exact isMade
  · cases finished

end Shape.Keeps

/-- What a slot may hold is kept by the field that is read into it. -/
theorem Yields.slot
    {name : String}
    {get : σ → Option α}
    {put : σ → α → σ}
    {read : Nat → Reader α}
    {depth : Nat}
    {slots : σ}
    {holds : σ → Prop}
    (yields : Yields (read depth) fun value => holds (put slots value)) :
    Yields ((Field.slot name get put read).fill depth slots) holds :=
  yields.mapValue

end Json
end Storyboard
