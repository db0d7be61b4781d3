import Storyboard.Node.Writer
import Storyboard.Proofs.Json.Quotation
import Storyboard.Proofs.Json.Values
import Storyboard.Proofs.Node.Parts

/-!
# Nodes written in a layout and read

A layout says which blanks stand between the parts of a JSON text; the compact text and
the indented one are two layouts.  A node of whole numbers that is written in any layout
is read as the same node, whatever is built of it, if its containers nest no deeper than
the reader allows; otherwise the text is malformed.
-/

namespace Storyboard
namespace Json

/-- The blanks between the parts of a JSON text. -/
structure Layout where
  /-- What stands before an item and before a closing bracket, by the level of indentation. -/
  gap : Nat → List Char
  /-- What stands between a colon and a value. -/
  colonGap : List Char
  /-- Only blanks stand before an item. -/
  blank_gap : ∀ level, ∀ c ∈ gap level, isSpace c = true
  /-- Only blanks stand after a colon. -/
  blank_colonGap : ∀ c ∈ colonGap, isSpace c = true

/-- No blanks at all. -/
def Layout.compact : Layout where
  gap _ := []
  colonGap := []
  blank_gap _ _ member := by cases member
  blank_colonGap _ member := by cases member

/-- Each item on a line. -/
def Layout.indented : Layout where
  gap := newLine
  colonGap := [' ']
  blank_gap level c member := by
    rcases List.mem_cons.mp member with rfl | later
    · rfl
    · obtain rfl := List.eq_of_mem_replicate later
      rfl
  blank_colonGap c member := by
    obtain rfl := List.mem_singleton.mp member
    rfl

end Json

namespace Node

open Json

mutual

/-- The JSON text of a node at a level of indentation. -/
def laid (layout : Layout) (level : Nat) : Node → List Char
  | .null => writtenNull
  | .bool value => writtenBool value
  | .number value => Decimal.interchangeChars value
  | .string value => writtenText value
  | .sequence [] => ['[', ']']
  | .sequence (first :: rest) =>
      '[' :: (layout.gap (level + 1) ++ (laid layout (level + 1) first ++
        laidItems layout level rest))
  | .mapping [] => ['{', '}']
  | .mapping ((key, first) :: rest) =>
      '{' :: (layout.gap (level + 1) ++ (writtenText key ++ ':' :: (layout.colonGap ++
        (laid layout (level + 1) first ++ laidEntries layout level rest))))

/-- The items after the first one and the closing bracket. -/
def laidItems (layout : Layout) (level : Nat) : List Node → List Char
  | [] => layout.gap level ++ [']']
  | item :: rest =>
      ',' :: (layout.gap (level + 1) ++ (laid layout (level + 1) item ++
        laidItems layout level rest))

/-- The entries after the first one and the closing brace. -/
def laidEntries (layout : Layout) (level : Nat) : List (String × Node) → List Char
  | [] => layout.gap level ++ ['}']
  | (key, item) :: rest =>
      ',' :: (layout.gap (level + 1) ++ (writtenText key ++ ':' :: (layout.colonGap ++
        (laid layout (level + 1) item ++ laidEntries layout level rest))))

end

mutual

/-- The indented text is laid out on lines. -/
theorem indented_eq_laid (level : Nat) : ∀ node : Node, node.indented level = node.laid .indented level
  | .null | .bool _ | .number _ | .string _ | .sequence [] | .mapping [] => rfl
  | .sequence (first :: rest) => by
      rw [indented, laid, indented_eq_laid (level + 1) first, indentedItems_eq_laid level rest]
      rfl
  | .mapping ((key, first) :: rest) => by
      rw [indented, laid, indented_eq_laid (level + 1) first, indentedEntries_eq_laid level rest]
      rfl

theorem indentedItems_eq_laid (level : Nat) :
    ∀ items : List Node, indentedItems level items = laidItems .indented level items
  | [] => rfl
  | item :: rest => by
      rw [indentedItems, laidItems, indented_eq_laid (level + 1) item,
        indentedItems_eq_laid level rest]
      rfl

theorem indentedEntries_eq_laid (level : Nat) :
    ∀ entries : List (String × Node),
      indentedEntries level entries = laidEntries .indented level entries
  | [] => rfl
  | (key, item) :: rest => by
      rw [indentedEntries, laidEntries, indented_eq_laid (level + 1) item,
        indentedEntries_eq_laid level rest]
      rfl

end

mutual

/-- The compact text is laid out without blanks. -/
theorem compact_eq_laid (level : Nat) : ∀ node : Node, node.compact = node.laid .compact level
  | .null | .bool _ | .number _ | .string _ | .sequence [] | .mapping [] => rfl
  | .sequence (first :: rest) => by
      rw [compact, laid, compact_eq_laid (level + 1) first, compactItems_eq_laid level rest]
      rfl
  | .mapping ((key, first) :: rest) => by
      rw [compact, laid, compact_eq_laid (level + 1) first, compactEntries_eq_laid level rest]
      rfl

theorem compactItems_eq_laid (level : Nat) :
    ∀ items : List Node, compactItems items = laidItems .compact level items
  | [] => rfl
  | item :: rest => by
      rw [compactItems, laidItems, compact_eq_laid (level + 1) item,
        compactItems_eq_laid level rest]
      rfl

theorem compactEntries_eq_laid (level : Nat) :
    ∀ entries : List (String × Node), compactEntries entries = laidEntries .compact level entries
  | [] => rfl
  | (key, item) :: rest => by
      rw [compactEntries, laidEntries, compact_eq_laid (level + 1) item,
        compactEntries_eq_laid level rest]
      rfl

end

/-- Whether the node, if it is a number, is a whole number within the exact range. -/
def isWhole : Node → Bool
  | .number value => (Decimal.exactInteger? value).isSome
  | _ => true

/-- Every number in the node is a whole number within the exact range. -/
def WholeNumbers (node : Node) : Prop :=
  node.All fun part => part.isWhole = true

instance : DecidablePred WholeNumbers :=
  fun node => inferInstanceAs (Decidable (node.All fun part => part.isWhole = true))

theorem exists_laid_number
    {value : Float}
    (whole : (Node.number value).WholeNumbers)
    (layout : Layout)
    (level : Nat) :
    ∃ number, Decimal.exactInteger? value = some number ∧
      (Node.number value).laid layout level = Decimal.intChars number := by
  obtain ⟨number, exact⟩ := Option.isSome_iff_exists.mp whole.self
  exact ⟨number, exact, by rw [laid, Decimal.interchangeChars, exact]⟩

/-- The first character of a written node is no blank and closes no list. -/
theorem exists_laid_eq_cons
    {node : Node}
    (whole : node.WholeNumbers)
    (layout : Layout)
    (level : Nat) :
    ∃ c text, node.laid layout level = c :: text ∧ isSpace c = false ∧ c ≠ ']' := by
  cases node with
  | null => exact ⟨'n', ['u', 'l', 'l'], rfl, by decide⟩
  | bool value =>
      cases value with
      | true => exact ⟨'t', ['r', 'u', 'e'], rfl, by decide⟩
      | false => exact ⟨'f', ['a', 'l', 's', 'e'], rfl, by decide⟩
  | number value =>
      obtain ⟨number, -, laidOut⟩ := exists_laid_number whole layout level
      obtain ⟨c, text, written, starts⟩ := exists_intChars_eq_cons number
      refine ⟨c, text, laidOut.trans written, isSpace_of_startsNumber starts, ?_⟩
      rintro rfl
      exact absurd starts (by decide)
  | string value => exact ⟨'"', _, rfl, by decide⟩
  | sequence items =>
      cases items with
      | nil => exact ⟨'[', _, rfl, by decide⟩
      | cons first rest => exact ⟨'[', _, rfl, by decide⟩
  | mapping entries =>
      cases entries with
      | nil => exact ⟨'{', _, rfl, by decide⟩
      | cons first rest => exact ⟨'{', _, rfl, by decide⟩

theorem endsNumber_laidItems
    (layout : Layout)
    (level : Nat)
    (items : List Node)
    (rest : List Char) :
    EndsNumber (laidItems layout level items ++ rest) := by
  cases items with
  | nil =>
      rw [laidItems, List.append_assoc]
      exact .append (layout.blank_gap level) (endsNumber_cons (by decide) rest)
  | cons item others => exact endsNumber_cons (by decide) _

theorem endsNumber_laidEntries
    (layout : Layout)
    (level : Nat)
    (entries : List (String × Node))
    (rest : List Char) :
    EndsNumber (laidEntries layout level entries ++ rest) := by
  cases entries with
  | nil =>
      rw [laidEntries, List.append_assoc]
      exact .append (layout.blank_gap level) (endsNumber_cons (by decide) rest)
  | cons entry others => exact endsNumber_cons (by decide) _

/-- Each item takes a character at least. -/
theorem length_lt_length_laidItems
    (layout : Layout)
    (level : Nat)
    (items : List Node) :
    items.length < (laidItems layout level items).length := by
  induction items with
  | nil => simp [laidItems]
  | cons item rest inductionHypothesis =>
      simp only [laidItems, List.length_cons, List.length_append]
      omega

theorem length_lt_length_laidEntries
    (layout : Layout)
    (level : Nat)
    (entries : List (String × Node)) :
    entries.length < (laidEntries layout level entries).length := by
  induction entries with
  | nil => simp [laidEntries]
  | cons entry rest inductionHypothesis =>
      simp only [laidEntries, List.length_cons, List.length_append]
      omega

end Node

namespace Json

/-- A builder that makes of the text of a node what a function makes of the node. -/
structure Builder.Makes {α : Type} (builder : Builder α) (make : Node → α) : Prop where
  /-- The word `null`. -/
  null : builder.null = make .null
  /-- A truth value. -/
  bool : ∀ value, builder.bool value = make (.bool value)
  /-- A whole number. -/
  number : ∀ (value : Float) (whole : Int) (rest : List Char),
    Decimal.exactInteger? value = some whole → EndsNumber rest →
      builder.number (Decimal.intChars whole ++ rest) = .ok (make (.number value), rest)
  /-- A text, from after its opening quote on. -/
  text : ∀ (value : String) (rest : List Char),
    builder.text (value.toList.flatMap writtenChar ++ '"' :: rest) =
      .ok (make (.string value), rest)
  /-- A key, from after its opening quote on. -/
  key : ∀ (name : String) (rest : List Char),
    builder.key (name.toList.flatMap writtenChar ++ '"' :: rest) = .ok (name, rest)
  /-- A list. -/
  list : ∀ items : List Node, builder.list (items.map make) = make (.sequence items)
  /-- Entries under distinct keys. -/
  table : ∀ entries : List (String × Node), Table.Distinct entries →
    builder.table (entries.map fun entry => (entry.1, make entry.2)) = make (.mapping entries)

end Json

namespace Node

open Json

variable {α : Type} {builder : Builder α} {make : Node → α}

/-- The node's text in a layout is read as what is made of the node, as far as the limit
allows. -/
def ReadBack
    (builder : Builder α)
    (make : Node → α)
    (layout : Layout)
    (node : Node) : Prop :=
  ∀ (level limit : Nat) (rest : List Char), EndsNumber rest →
    value builder limit (node.laid layout level ++ rest) =
      withinLimit node.depth limit (make node) rest

section Containers

variable {layout : Layout}

/-- The items after the first one are read back, by induction on them. -/
theorem moreItems_laidItems
    {items : List Node}
    (whole : ∀ item ∈ items, item.WholeNumbers)
    (each : ∀ item ∈ items, item.ReadBack builder make layout)
    (level limit : Nat)
    {fuel : Nat}
    (enough : items.length < fuel)
    (rest : List Char) :
    moreItems (value builder limit) fuel (laidItems layout level items ++ rest) =
      withinLimit (depthItems items) limit (items.map make) rest := by
  induction items generalizing fuel with
  | nil =>
      cases fuel with
      | zero => cases enough
      | succ fuel =>
          rw [laidItems, List.append_assoc]
          exact moreItems_close _ (layout.blank_gap level) fuel rest
  | cons item others inductionHypothesis =>
      cases fuel with
      | zero => cases enough
      | succ fuel =>
          have laterItems := inductionHypothesis
            (fun other member => whole other (List.mem_cons_of_mem item member))
            (fun other member => each other (List.mem_cons_of_mem item member))
            (Nat.lt_of_succ_lt_succ enough)
          have first := each item List.mem_cons_self (level + 1) limit
            (laidItems layout level others ++ rest) (endsNumber_laidItems layout level others rest)
          obtain ⟨c, text, written, solid, opens⟩ :=
            exists_laid_eq_cons (whole item List.mem_cons_self) layout (level + 1)
          rw [written] at first
          simp only [laidItems, written, List.cons_append, List.append_assoc] at first ⊢
          rw [moreItems_comma _ (layout.blank_gap (level + 1)) solid opens, first]
          exact withinLimit_bind laterItems

theorem items_laid
    {first : Node}
    {others : List Node}
    (whole : ∀ item ∈ first :: others, item.WholeNumbers)
    (each : ∀ item ∈ first :: others, item.ReadBack builder make layout)
    (level limit : Nat)
    (rest : List Char) :
    items (value builder limit)
        (layout.gap (level + 1) ++ (first.laid layout (level + 1) ++
          (laidItems layout level others ++ rest))) =
      withinLimit (depthItems (first :: others)) limit ((first :: others).map make) rest := by
  have started := each first List.mem_cons_self (level + 1) limit
    (laidItems layout level others ++ rest) (endsNumber_laidItems layout level others rest)
  obtain ⟨c, text, written, solid, opens⟩ :=
    exists_laid_eq_cons (whole first List.mem_cons_self) layout (level + 1)
  have length := length_lt_length_laidItems layout level others
  rw [written] at started ⊢
  simp only [List.cons_append] at started ⊢
  rw [items_blanks _ (layout.blank_gap (level + 1)) solid opens, started]
  refine withinLimit_bind (moreItems_laidItems
    (fun other member => whole other (List.mem_cons_of_mem first member))
    (fun other member => each other (List.mem_cons_of_mem first member)) level limit ?_ rest)
  simp only [List.length_append, List.length_cons]
  omega

/-- The first entry is read back, from after the opening quote of its key on. -/
theorem entry_laid
    (makes : builder.Makes make)
    {node : Node}
    (whole : node.WholeNumbers)
    (back : node.ReadBack builder make layout)
    (key : String)
    (level limit : Nat)
    {rest : List Char}
    (ends : EndsNumber rest) :
    entry builder.key (value builder limit)
        (key.toList.flatMap writtenChar ++ '"' :: ':' :: (layout.colonGap ++
          (node.laid layout level ++ rest))) =
      withinLimit node.depth limit (key, make node) rest := by
  have started := back level limit rest ends
  obtain ⟨c, text, written, solid, -⟩ := exists_laid_eq_cons whole layout level
  rw [written, List.cons_append] at started
  have named : colon (':' :: (layout.colonGap ++ (c :: (text ++ rest)))) =
      .ok ((), layout.colonGap ++ (c :: (text ++ rest))) := by
    rw [colon, skipSpaces_cons (by decide)]
    rfl
  rw [entry, makes.key, written, List.cons_append]
  simp only [bind, Except.bind, afterColon, named]
  rw [value_skipSpaces limit layout.blank_colonGap solid, started, mapValue_withinLimit]

/-- The entries after the first one are read back, by induction on them. -/
theorem moreEntries_laidEntries
    (makes : builder.Makes make)
    {entries : List (String × Node)}
    (whole : ∀ entry ∈ entries, entry.2.WholeNumbers)
    (each : ∀ entry ∈ entries, entry.2.ReadBack builder make layout)
    (level limit : Nat)
    {fuel : Nat}
    (enough : entries.length < fuel)
    (rest : List Char) :
    moreEntries builder.key (value builder limit) fuel
        (laidEntries layout level entries ++ rest) =
      withinLimit (depthEntries entries) limit
        (entries.map fun entry => (entry.1, make entry.2)) rest := by
  induction entries generalizing fuel with
  | nil =>
      cases fuel with
      | zero => cases enough
      | succ fuel =>
          rw [laidEntries, List.append_assoc]
          exact moreEntries_close _ _ (layout.blank_gap level) fuel rest
  | cons first others inductionHypothesis =>
      cases fuel with
      | zero => cases enough
      | succ fuel =>
          obtain ⟨key, node⟩ := first
          have laterEntries := inductionHypothesis
            (fun other member => whole other (List.mem_cons_of_mem _ member))
            (fun other member => each other (List.mem_cons_of_mem _ member))
            (Nat.lt_of_succ_lt_succ enough)
          have started := entry_laid makes (whole _ List.mem_cons_self) (each _ List.mem_cons_self)
            key (level + 1) limit (endsNumber_laidEntries layout level others rest)
          simp only [laidEntries, writtenText, List.cons_append, List.append_assoc,
            List.nil_append] at started ⊢
          rw [moreEntries_comma _ _ (layout.blank_gap (level + 1)), started]
          exact withinLimit_bind laterEntries

theorem entries_laid
    (makes : builder.Makes make)
    {key : String}
    {first : Node}
    {others : List (String × Node)}
    (whole : ∀ entry ∈ (key, first) :: others, entry.2.WholeNumbers)
    (each : ∀ entry ∈ (key, first) :: others, entry.2.ReadBack builder make layout)
    (level limit : Nat)
    (rest : List Char) :
    entries builder.key (value builder limit)
        (layout.gap (level + 1) ++ (writtenText key ++ ':' :: (layout.colonGap ++
          (first.laid layout (level + 1) ++ (laidEntries layout level others ++ rest))))) =
      withinLimit (depthEntries ((key, first) :: others)) limit
        (((key, first) :: others).map fun entry => (entry.1, make entry.2)) rest := by
  have started := entry_laid makes (whole _ List.mem_cons_self) (each _ List.mem_cons_self)
    key (level + 1) limit (endsNumber_laidEntries layout level others rest)
  have length := length_lt_length_laidEntries layout level others
  simp only [writtenText, List.cons_append, List.append_assoc, List.nil_append]
  rw [entries_blanks _ _ (layout.blank_gap (level + 1)), started]
  refine withinLimit_bind (moreEntries_laidEntries makes
    (fun other member => whole other (List.mem_cons_of_mem _ member))
    (fun other member => each other (List.mem_cons_of_mem _ member)) level limit ?_ rest)
  simp only [List.length_append, List.length_cons]
  omega

end Containers

/-- A node of whole numbers is read as it was written, in any layout, if its containers nest no
deeper than the limit allows, by induction on the node. -/
theorem readBack
    (makes : builder.Makes make)
    (layout : Layout)
    {node : Node}
    (whole : node.WholeNumbers)
    (distinct : node.DistinctKeys) :
    node.ReadBack builder make layout := by
  induction node using structural with
  | null =>
      intro level limit rest ends
      rw [laid, value_null, makes.null]
      rfl
  | bool value =>
      intro level limit rest ends
      rw [laid, value_bool, makes.bool]
      rfl
  | number value =>
      intro level limit rest ends
      obtain ⟨number, exact, laidOut⟩ := exists_laid_number whole layout level
      obtain ⟨c, text, written, starts⟩ := exists_intChars_eq_cons number
      have read := makes.number value number rest exact ends
      rw [written, List.cons_append] at read
      rw [laidOut, written, List.cons_append, value_of_startsNumber starts, read]
      rfl
  | string value =>
      intro level limit rest ends
      have read := makes.text value rest
      rw [laid, writtenText, List.cons_append, List.append_assoc, value_text]
      exact read
  | sequence items inductionHypothesis =>
      intro level limit rest ends
      obtain ⟨-, wholeItems⟩ := all_sequence_iff.mp whole
      obtain ⟨-, distinctItems⟩ := all_sequence_iff.mp distinct
      rw [depth, ← makes.list items]
      cases items with
      | nil => exact value_list (fun limit => rfl) limit
      | cons first others =>
          rw [laid, List.cons_append, List.append_assoc, List.append_assoc]
          exact value_list (fun limit => items_laid wholeItems
            (fun item member => inductionHypothesis item member (wholeItems item member)
              (distinctItems item member)) level limit rest) limit
  | mapping entries inductionHypothesis =>
      intro level limit rest ends
      obtain ⟨-, wholeEntries⟩ := all_mapping_iff.mp whole
      obtain ⟨distinctHere, distinctEntries⟩ := all_mapping_iff.mp distinct
      rw [depth, ← makes.table entries distinctHere]
      cases entries with
      | nil => exact value_table (fun limit => rfl) limit
      | cons first others =>
          obtain ⟨key, node⟩ := first
          rw [laid]
          simp only [List.cons_append, List.append_assoc]
          exact value_table (fun limit => entries_laid makes wholeEntries
            (fun entry member => inductionHypothesis entry member (wholeEntries entry member)
              (distinctEntries entry member)) level limit rest) limit

end Node
end Storyboard
