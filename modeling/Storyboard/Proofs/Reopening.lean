import Mathlib.Data.List.Forall2
import Mathlib.Data.List.Nodup
import Storyboard.Proofs.Lasting
import Storyboard.Proofs.Node.Records

/-!
# Stores that are opened again

A shelf on a file writes all its entries at every change.  What was written is read again,
with every key in its place and equal values, exactly if no value holds more than 126
containers inside one another: the file is one container more, and the reader allows 127.
-/

namespace Storyboard

namespace Shelf

open Json

theorem exists_render_eq_cons (entries : List (String × Node)) :
    ∃ text, (render entries).toList = '{' :: text := by
  rw [render, Node.renderPretty, String.toList_ofList]
  cases entries with
  | nil => exact ⟨['}'], rfl⟩
  | cons entry rest => exact ⟨_, rfl⟩

theorem isBlankText_render (entries : List (String × Node)) :
    Text.isBlankText (render entries) = false := by
  obtain ⟨text, starts⟩ := exists_render_eq_cons entries
  rw [Text.isBlankText, starts]
  rfl

/-- What was written is read again, with whole numbers plain, as far as values may nest. -/
theorem parse_render
    {entries : List (String × Node)}
    (whole : (Node.mapping entries).WholeNumbers)
    (distinct : (Node.mapping entries).DistinctKeys) :
    parse (render entries) =
      if (Node.mapping entries).depth ≤ depthLimit then
        .ok (entries.map fun entry => (entry.1, entry.2.mapNumbers Node.plainNumber))
      else .error .malformed := by
  obtain ⟨text, starts⟩ := exists_render_eq_cons entries
  have written : (Node.mapping entries).laid .indented 0 ++ [] = '{' :: text := by
    rw [List.append_nil, ← Node.indented_eq_laid, ← starts, render, Node.renderPretty,
      String.toList_ofList]
  have back := Node.readBack Node.makes_plainNumber .indented whole distinct 0 depthLimit []
    endsNumber_nil
  rw [written, Node.value_eq_mapValue_tableOf, Node.mapNumbers, Node.mapNumbersEntries_eq_map,
    ← mapValue_withinLimit Node.mapping] at back
  have read := mapValue_injective (fun _ _ => Node.mapping.inj) back
  rw [parse, isBlankText_render, starts, if_neg Bool.false_ne_true, Json.whole, read, withinLimit]
  by_cases shallow : (Node.mapping entries).depth ≤ depthLimit
  · rw [if_pos shallow, if_pos shallow]
    rfl
  · rw [if_neg shallow, if_neg shallow]

/-- A file is one container more than the values in it. -/
theorem depth_mapping_le_iff
    {entries : List (String × Node)} :
    (Node.mapping entries).depth ≤ depthLimit ↔ ∀ entry ∈ entries, entry.2.depth < depthLimit := by
  rw [Node.depth, Nat.succ_le_iff, Node.depthEntries_lt_iff (by decide)]

/-- No value that is read from a file nests to the limit. -/
theorem depth_lt_of_parse_eq_ok
    {text : String}
    {entries : List (String × Node)}
    (read : parse text = .ok entries) :
    ∀ entry ∈ entries, entry.2.depth < depthLimit := by
  unfold parse at read
  split at read
  · cases read
    simp
  unfold Json.whole tableOf at read
  split at read
  · next taken =>
    split at taken
    · obtain ⟨values, listed, rfl⟩ := exists_of_mapValue_eq_ok taken
      have each := forall_of_entries_eq_ok (fun _ _ _ => Node.keeps_depth.value _) listed
      split at read
      · cases read
        exact fun entry member =>
          Nat.lt_succ_of_le (each entry (Table.mem_of_mem_ofEntries member))
      · cases read
    · cases taken
  · cases read

/-! ## Files -/

/-- The entries that a file holds; where there is no file, there are none. -/
def readFile : Option String → Except Failure (List (String × Node))
  | none => .ok []
  | some text => parse text

theorem fromFile_eq_map
    (content : Option String)
    (permits : Nat → Bool) :
    fromFile content permits = (readFile content).map fun entries =>
      { entries := entries, backing := some { content := content, permits := permits } } := by
  cases content with
  | none => rfl
  | some text =>
      simp only [fromFile, readFile]
      cases parse text <;> rfl

theorem readFile_of_fromFile_eq_ok
    {content : Option String}
    {permits : Nat → Bool}
    {shelf : Shelf}
    (opened : fromFile content permits = .ok shelf) :
    readFile content = .ok shelf.entries ∧
      shelf.backing = some { content := content, permits := permits } := by
  rw [fromFile_eq_map] at opened
  cases read : readFile content with
  | error failure =>
      rw [read] at opened
      cases opened
  | ok entries =>
      rw [read] at opened
      cases opened
      exact ⟨rfl, rfl⟩

/-- No value that is read from a file nests to the limit. -/
theorem depth_lt_of_readFile_eq_ok
    {content : Option String}
    {entries : List (String × Node)}
    (read : readFile content = .ok entries) :
    ∀ entry ∈ entries, entry.2.depth < depthLimit := by
  cases content with
  | none =>
      cases read
      simp
  | some text => exact depth_lt_of_parse_eq_ok read

/-- The file of a shelf holds its entries: it is read as them, or they were written to it. -/
def Saved (permits : Nat → Bool) (shelf : Shelf) : Prop :=
  ∃ backing, shelf.backing = some backing ∧ backing.permits = permits ∧
    (readFile backing.content = .ok shelf.entries ∨
      backing.content = some (render shelf.entries))

theorem Saved.set
    {permits : Nat → Bool}
    (allowed : ∀ tries, permits tries = true)
    {shelf : Shelf}
    (saved : shelf.Saved permits)
    (key : String)
    (value : Node) :
    (shelf.set key value).Saved permits := by
  obtain ⟨backing, isBacking, isPermits, -⟩ := saved
  refine ⟨backing.save (render (shelf.set key value).entries), ?_, isPermits, .inr ?_⟩
  · simp only [Shelf.set, isBacking, Option.map_some]
  · simp only [Backing.save, isPermits, allowed, if_true]

end Shelf

/-- Where every write succeeds, the file of a shelf holds its entries through any run. -/
theorem Session.lasting_saved
    {permits : Nat → Bool}
    (allowed : ∀ tries, permits tries = true) :
    Session.Lasting fun session result =>
      session.shelf.Saved permits → result.shelf.Saved permits where
  refl _ saved := saved
  trans first second saved := second (first saved)
  context _ _ _ saved := saved
  exchange _ _ saved := saved
  note _ _ saved := saved
  push _ _ _ saved := saved
  pop _ saved := saved
  popToRoot _ saved := saved
  store _ key value saved := saved.set allowed key value
  log _ _ saved := saved

namespace Shelf

open Json

/-- Entries that are read again: the same keys in the same order, with equal values. -/
def Agree (kept found : List (String × Node)) : Prop :=
  List.Forall₂ (fun kept found => found.1 = kept.1 ∧ Node.same kept.2 found.2 = true) kept found

theorem agree_mapNumbers
    {entries : List (String × Node)}
    (whole : (Node.mapping entries).WholeNumbers)
    (distinct : (Node.mapping entries).DistinctKeys) :
    Agree entries (entries.map fun entry => (entry.1, entry.2.mapNumbers Node.plainNumber)) := by
  obtain ⟨-, wholeEntries⟩ := Node.all_mapping_iff.mp whole
  obtain ⟨-, distinctEntries⟩ := Node.all_mapping_iff.mp distinct
  rw [Agree, List.forall₂_map_right_iff, List.forall₂_same]
  exact fun entry member => ⟨rfl, Node.same_mapNumbers_plainNumber (wholeEntries entry member)
    (distinctEntries entry member)⟩

theorem agree_self
    {entries : List (String × Node)}
    (whole : (Node.mapping entries).WholeNumbers)
    (distinct : (Node.mapping entries).DistinctKeys) :
    Agree entries entries := by
  obtain ⟨-, wholeEntries⟩ := Node.all_mapping_iff.mp whole
  obtain ⟨-, distinctEntries⟩ := Node.all_mapping_iff.mp distinct
  rw [Agree, List.forall₂_same]
  exact fun entry member => ⟨rfl, Node.same_self (wholeEntries entry member)
    (distinctEntries entry member)⟩

/-- The file of a shelf is read exactly if no value nests to the limit, and then as the entries of
the shelf. -/
theorem Saved.readFile_iff
    {permits : Nat → Bool}
    {shelf : Shelf}
    (saved : shelf.Saved permits)
    (whole : (Node.mapping shelf.entries).WholeNumbers)
    (distinct : (Node.mapping shelf.entries).DistinctKeys) :
    ∃ backing, shelf.backing = some backing ∧
      ((∃ found, readFile backing.content = .ok found) ↔
        ∀ entry ∈ shelf.entries, entry.2.depth < depthLimit) ∧
      ∀ found, readFile backing.content = .ok found → Agree shelf.entries found := by
  obtain ⟨backing, isBacking, -, read | written⟩ := saved
  · refine ⟨backing, isBacking, ?_, ?_⟩
    · exact iff_of_true ⟨shelf.entries, read⟩ (depth_lt_of_readFile_eq_ok read)
    · intro found again
      obtain rfl := Except.ok.inj (read.symm.trans again)
      exact agree_self whole distinct
  · have parsed := parse_render whole distinct
    refine ⟨backing, isBacking, ?_, ?_⟩
    · rw [written, ← depth_mapping_le_iff]
      simp only [readFile, parsed]
      split
      · next shallow => exact iff_of_true ⟨_, rfl⟩ shallow
      · next deep => exact iff_of_false (fun ⟨_, impossible⟩ => by cases impossible) deep
    · intro found again
      simp only [written, readFile, parsed] at again
      split at again
      · cases again
        exact agree_mapNumbers whole distinct
      · cases again

end Shelf

namespace Interpreter

/-- A store on a file, after any run in which every write succeeds: opening its file again succeeds
exactly if no value in it nests as deeply as the reader's limit, and then gives the entries that
the running store holds. -/
theorem reopens_iff
    (interpreter : Interpreter)
    (bound : Nat)
    (steps : List Step)
    (start : Session)
    (commands : ∀ entry ∈ interpreter.commands, entry ∈ Command.builtin)
    (content : Option String)
    (permits : Nat → Bool)
    (allowed : ∀ tries, permits tries = true)
    (opened : Shelf.fromFile content permits = .ok start.shelf)
    (total : Nat)
    (final : Session)
    (ran : interpreter.run bound steps start = some (total, final))
    (whole : (Node.mapping final.shelf.entries).WholeNumbers)
    (distinct : (Node.mapping final.shelf.entries).DistinctKeys) :
    ∃ backing, final.shelf.backing = some backing ∧
      ((∃ reopened, Shelf.fromFile backing.content permits = .ok reopened) ↔
        ∀ entry ∈ final.shelf.entries, entry.2.depth < Json.depthLimit) ∧
      ∀ reopened, Shelf.fromFile backing.content permits = .ok reopened →
        Shelf.Agree final.shelf.entries reopened.entries := by
  have lasting := Session.lasting_saved allowed
  have respects := lasting.closed.registered fun entry member => .inl (commands entry member)
  obtain ⟨read, isBacking⟩ := Shelf.readFile_of_fromFile_eq_ok opened
  have saved : final.shelf.Saved permits :=
    lasting.run respects ran ⟨_, isBacking, rfl, .inl read⟩
  obtain ⟨backing, isFinal, readable, agrees⟩ := saved.readFile_iff whole distinct
  refine ⟨backing, isFinal, ?_, ?_⟩
  · rw [← readable]
    constructor
    · rintro ⟨reopened, again⟩
      exact ⟨reopened.entries, (Shelf.readFile_of_fromFile_eq_ok again).1⟩
    · rintro ⟨found, again⟩
      exact ⟨_, by rw [Shelf.fromFile_eq_map, again]; rfl⟩
  · exact fun reopened again => agrees _ (Shelf.readFile_of_fromFile_eq_ok again).1

/-- A store on a new file in which a list of a number and a text was stored is opened again. -/
theorem reopens_after_one_store :
    let start : Session :=
      { shelf := { entries := [], backing := some { content := none, permits := fun _ => true } } }
    let list : Node := .sequence [.number (Decimal.ofInteger 3), .string "kept"]
    let event : Node :=
      .mapping [("Storage.set", .mapping [("key", .string "list"), ("value", list)])]
    ∃ final backing reopened,
      Interpreter.run {} 8 [.event none event] start = some (0, final) ∧
        final.shelf.entries = [("list", list)] ∧ final.shelf.backing = some backing ∧
        Shelf.fromFile backing.content (fun _ => true) = .ok reopened ∧
        Shelf.Agree final.shelf.entries reopened.entries := by
  intro start list event
  have stored : (Interpreter.run {} 8 [.event none event] start).map
      (fun result => (result.1, result.2.shelf.entries)) = some (0, [("list", list)]) := rfl
  obtain ⟨⟨total, final⟩, ran, same⟩ := Option.map_eq_some_iff.mp stored
  obtain ⟨rfl, entries⟩ := Prod.mk.inj same
  have whole : (Node.mapping [("list", list)]).WholeNumbers := by decide
  have distinct : (Node.mapping [("list", list)]).DistinctKeys := by decide
  rw [← entries] at whole distinct
  obtain ⟨backing, isBacking, readable, agrees⟩ := reopens_iff {} 8 [.event none event] start
    (fun _ member => member) none (fun _ => true) (fun _ => rfl) rfl 0 final ran whole distinct
  obtain ⟨reopened, again⟩ := readable.mpr (by rw [entries]; decide)
  exact ⟨final, backing, reopened, ran, entries, isBacking, again, agrees reopened again⟩

end Interpreter

namespace Node

/-- Lists inside one another. -/
def nested : Nat → Node
  | 0 => .null
  | levels + 1 => .sequence [nested levels]

theorem depth_nested (levels : Nat) : (nested levels).depth = levels := by
  induction levels with
  | zero => rfl
  | succ levels inductionHypothesis =>
      simp [nested, depth, depthItems, inductionHypothesis]

theorem wholeNumbers_nested (levels : Nat) : (nested levels).WholeNumbers := by
  induction levels with
  | zero => exact all_of_isScalar rfl rfl
  | succ levels inductionHypothesis =>
      refine all_sequence_iff.mpr ⟨rfl, fun item member => ?_⟩
      obtain rfl := List.mem_singleton.mp member
      exact inductionHypothesis

theorem distinctKeys_nested (levels : Nat) : (nested levels).DistinctKeys := by
  induction levels with
  | zero => exact all_of_isScalar rfl List.nodup_nil
  | succ levels inductionHypothesis =>
      refine all_sequence_iff.mpr ⟨List.nodup_nil, fun item member => ?_⟩
      obtain rfl := List.mem_singleton.mp member
      exact inductionHypothesis

end Node

namespace Interpreter

set_option maxRecDepth 4000 in
/-- A store on a new file in which a value of 127 lists inside one another was stored cannot be
opened again, though every write succeeds. -/
theorem not_reopens_of_nested :
    let start : Session :=
      { shelf := { entries := [], backing := some { content := none, permits := fun _ => true } } }
    let event : Node :=
      .mapping
        [("Storage.set", .mapping [("key", .string "deep"), ("value", Node.nested 127)])]
    ∃ final backing,
      Interpreter.run {} 8 [.event none event] start = some (0, final) ∧
        final.shelf.entries = [("deep", Node.nested 127)] ∧ final.shelf.backing = some backing ∧
        ∀ reopened, Shelf.fromFile backing.content (fun _ => true) ≠ .ok reopened := by
  intro start event
  have stored : (Interpreter.run {} 8 [.event none event] start).map
      (fun result => (result.1, result.2.shelf.entries)) =
        some (0, [("deep", Node.nested 127)]) := rfl
  obtain ⟨⟨total, final⟩, ran, same⟩ := Option.map_eq_some_iff.mp stored
  obtain ⟨rfl, entries⟩ := Prod.mk.inj same
  have whole : (Node.mapping [("deep", Node.nested 127)]).WholeNumbers := by
    refine Node.all_mapping_iff.mpr ⟨rfl, fun entry member => ?_⟩
    obtain rfl := List.mem_singleton.mp member
    exact Node.wholeNumbers_nested 127
  have distinct : (Node.mapping [("deep", Node.nested 127)]).DistinctKeys := by
    refine Node.all_mapping_iff.mpr ⟨List.nodup_singleton "deep", fun entry member => ?_⟩
    obtain rfl := List.mem_singleton.mp member
    exact Node.distinctKeys_nested 127
  rw [← entries] at whole distinct
  have lasting := @Session.lasting_saved (fun _ => true) fun _ => rfl
  have saved : final.shelf.Saved fun _ => true :=
    lasting.run lasting.closed.builtin ran ⟨_, rfl, rfl, .inl rfl⟩
  obtain ⟨backing, isBacking, readable, -⟩ := saved.readFile_iff whole distinct
  refine ⟨final, backing, ran, entries, isBacking, fun reopened again => ?_⟩
  have shallow := readable.mp ⟨_, (Shelf.readFile_of_fromFile_eq_ok again).1⟩
    ("deep", Node.nested 127) (by rw [entries]; exact List.mem_singleton_self _)
  rw [Node.depth_nested] at shallow
  exact absurd shallow (by decide)

end Interpreter
end Storyboard
