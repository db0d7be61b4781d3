import Storyboard.Proofs.Json.Records
import Storyboard.Proofs.Node.Reading

/-!
# Records written as nodes and read

A reader takes a value off the text of a node, in whatever layout the node is written.  Texts,
nodes, lists and tables are taken off as they were written, and a record is if each of its entries
is, one after another.
-/

namespace Storyboard

namespace Node

open Json

/-- A table is read as a node is, if its text starts with a brace. -/
theorem value_eq_mapValue_tableOf
    (limit : Nat)
    (text : List Char) :
    value builder limit ('{' :: text) =
      mapValue mapping (tableOf reader limit ('{' :: text)) := by
  rw [value.eq_def, tableOf]
  simp only [skipSpaces_cons (c := '{') (by decide)]
  cases limit with
  | zero => rfl
  | succ limit =>
      have read : entries builder.key (value builder limit) text =
          entries quoted (reader limit) text := rfl
      simp only [read]
      cases entries quoted (reader limit) text <;> rfl

/-- Only `null` is written with the first character of `null`. -/
theorem head?_laid_ne
    {node : Node}
    (whole : node.WholeNumbers)
    (present : node ≠ .null)
    (layout : Layout)
    (level : Nat) :
    (node.laid layout level).head? ≠ some 'n' := by
  cases node with
  | null => exact absurd rfl present
  | bool value => cases value <;> exact nofun
  | number value =>
      obtain ⟨number, -, laidOut⟩ := exists_laid_number whole layout level
      obtain ⟨c, text, written, starts⟩ := exists_intChars_eq_cons number
      rw [laidOut, written]
      rintro ⟨⟩
      exact absurd starts (by decide)
  | string value => exact nofun
  | sequence items => cases items <;> exact nofun
  | mapping entries => cases entries <;> exact nofun

/-- No mapping that is read has a key twice. -/
theorem keeps_distinctKeys : builder.Keeps fun _ node => node.DistinctKeys where
  null _ := all_of_isScalar rfl List.nodup_nil
  bool _ _ := all_of_isScalar rfl List.nodup_nil
  number _ _ _ _ read := by
    obtain ⟨_, -, rfl⟩ := exists_of_mapValue_eq_ok read
    exact all_of_isScalar rfl List.nodup_nil
  text _ _ _ _ read := by
    obtain ⟨_, -, rfl⟩ := exists_of_mapValue_eq_ok read
    exact all_of_isScalar rfl List.nodup_nil
  list _ _ each := all_sequence_iff.mpr ⟨List.nodup_nil, each⟩
  table _ entries each := all_mapping_iff.mpr
    ⟨Table.distinct_ofEntries entries, fun entry member =>
      each entry (Table.mem_of_mem_ofEntries member)⟩

/-- A text that does not start like `null` is not read as `null`. -/
theorem ne_null_of_reader
    {limit : Nat}
    {text rest : List Char}
    {node : Node}
    (starts : text.head? ≠ some 'n')
    (solid : skipSpaces text = text)
    (read : reader limit text = .ok (node, rest)) :
    node ≠ .null := by
  rw [reader, value.eq_def] at read
  dsimp only at read
  rw [solid] at read
  split at read
  · cases read
  · exact absurd rfl starts
  · obtain ⟨_, -, rfl⟩ := exists_of_mapValue_eq_ok read
    exact nofun
  · obtain ⟨_, -, rfl⟩ := exists_of_mapValue_eq_ok read
    exact nofun
  · obtain ⟨_, -, rfl⟩ := exists_of_mapValue_eq_ok read
    exact nofun
  · cases limit with
    | zero => cases read
    | succ limit =>
        obtain ⟨_, -, rfl⟩ := exists_of_mapValue_eq_ok read
        exact nofun
  · cases limit with
    | zero => cases read
    | succ limit =>
        obtain ⟨_, -, rfl⟩ := exists_of_mapValue_eq_ok read
        exact nofun
  · split at read
    · obtain ⟨_, -, rfl⟩ := exists_of_mapValue_eq_ok read
      exact nofun
    · cases read

/-- A node that is read has no key twice and nests no deeper than it may. -/
theorem yields_reader (limit : Nat) :
    Yields (Node.reader limit) fun node => node.DistinctKeys ∧ node.depth ≤ limit :=
  fun _ _ _ read => ⟨keeps_distinctKeys.value limit read, keeps_depth.value limit read⟩

/-- An event that is read where `null` may stand is not `null`. -/
theorem yields_optional (limit : Nat) :
    Yields (Json.optional (Node.reader limit)) fun given => ∀ node, given = some node →
      node ≠ .null ∧ node.DistinctKeys ∧ node.depth ≤ limit :=
  Yields.optional fun text node rest starts solid read =>
    ⟨ne_null_of_reader starts solid read, yields_reader limit text node rest read⟩

end Node

namespace Json

open Node

variable {α β σ : Type} {layout : Layout}

/-- A reader takes the text of a node off as a value, behind blanks and in front of anything that
does not go on with a number. -/
def Takes (layout : Layout) (read : Reader α) (node : Node) (value : α) : Prop :=
  ∀ blanks : List Char, (∀ c ∈ blanks, isSpace c = true) → ∀ level rest, EndsNumber rest →
    read (blanks ++ (node.laid layout level ++ rest)) = .ok (value, rest)

theorem takes_text (text : String) : Takes layout Json.text (.string text) text := by
  intro blanks blank level rest ends
  rw [Node.laid, writtenText, List.cons_append, List.append_assoc, Json.text,
    skipSpaces_append blank (by decide)]
  exact quoted_written text rest

/-- A node of whole numbers is taken off with these plain, if it does not nest too deeply. -/
theorem takes_node
    {node : Node}
    (whole : node.WholeNumbers)
    (distinct : node.DistinctKeys)
    {limit : Nat}
    (shallow : node.depth ≤ limit) :
    Takes layout (Node.reader limit) node (node.mapNumbers plainNumber) := by
  intro blanks blank level rest ends
  have back := readBack makes_plainNumber layout whole distinct level limit rest ends
  obtain ⟨c, text, written, solid, -⟩ := exists_laid_eq_cons whole layout level
  rw [withinLimit, if_pos shallow] at back
  rw [written, List.cons_append] at back ⊢
  rw [Node.reader, value_skipSpaces limit blank solid, back]

theorem Takes.mapValue
    {read : Reader α}
    {node : Node}
    {value : α}
    (takes : Takes layout read node value)
    (f : α → β) :
    Takes layout (fun chars => Json.mapValue f (read chars)) node (f value) := by
  intro blanks blank level rest ends
  dsimp only
  rw [takes blanks blank level rest ends]
  rfl

/-- Where `null` may stand, any other node is taken off as it would be otherwise. -/
theorem Takes.optional
    {read : Reader α}
    {node : Node}
    {value : α}
    (takes : Takes layout read node value)
    (whole : node.WholeNumbers)
    (present : node ≠ .null) :
    Takes layout (Json.optional read) node (some value) := by
  intro blanks blank level rest ends
  have taken := takes [] nofun level rest ends
  have starts := head?_laid_ne whole present layout level
  obtain ⟨c, text, written, solid, -⟩ := exists_laid_eq_cons whole layout level
  rw [written] at taken starts ⊢
  rw [List.nil_append, List.cons_append] at taken
  rw [List.cons_append, Json.optional, skipSpaces_append blank solid]
  split
  case h_1 same => cases same
  case h_2 same =>
    obtain ⟨rfl, -⟩ := List.cons.inj same
    exact absurd rfl starts
  case h_3 => rw [taken]; rfl

/-- A table of nodes is taken off entry by entry. -/
theorem takes_tableOf
    {entries : List (String × Node)}
    (whole : (Node.mapping entries).WholeNumbers)
    (distinct : (Node.mapping entries).DistinctKeys)
    {limit : Nat}
    (shallow : (Node.mapping entries).depth ≤ limit) :
    Takes layout (Json.tableOf Node.reader limit) (.mapping entries)
      (entries.map fun entry => (entry.1, entry.2.mapNumbers plainNumber)) := by
  intro blanks blank level rest ends
  obtain ⟨text, written⟩ : ∃ text, (Node.mapping entries).laid layout level = '{' :: text := by
    cases entries <;> exact ⟨_, rfl⟩
  have taken : Node.reader limit ((Node.mapping entries).laid layout level ++ rest) = _ :=
    takes_node whole distinct shallow [] nofun level rest ends
  have unblanked : Json.tableOf Node.reader limit (blanks ++ '{' :: (text ++ rest)) =
      Json.tableOf Node.reader limit ('{' :: (text ++ rest)) := by
    rw [Json.tableOf, Json.tableOf, skipSpaces_append blank (by decide),
      skipSpaces_cons (by decide)]
    rfl
  rw [written, List.cons_append] at taken ⊢
  rw [Node.reader, value_eq_mapValue_tableOf, Node.mapNumbers, mapNumbersEntries_eq_map] at taken
  rw [unblanked]
  exact mapValue_injective (fun _ _ => Node.mapping.inj) taken

/-! ## Lists -/

/-- The items after the first one are taken off, by induction on them. -/
theorem moreItems_taken
    {item : Reader α}
    {nodes : List Node}
    {values : List α}
    (whole : ∀ node ∈ nodes, node.WholeNumbers)
    (takes : List.Forall₂ (Takes layout item) nodes values)
    (level : Nat)
    {fuel : Nat}
    (enough : nodes.length < fuel)
    (rest : List Char) :
    moreItems item fuel (laidItems layout level nodes ++ rest) = .ok (values, rest) := by
  induction takes generalizing fuel with
  | nil =>
      cases fuel with
      | zero => cases enough
      | succ fuel =>
          rw [laidItems, List.append_assoc]
          exact moreItems_close _ (layout.blank_gap level) fuel rest
  | @cons node value others later first _ inductionHypothesis =>
      cases fuel with
      | zero => cases enough
      | succ fuel =>
          obtain ⟨wholeNode, wholeOthers⟩ := List.forall_mem_cons.mp whole
          have taken := first [] nofun (level + 1) (laidItems layout level others ++ rest)
            (endsNumber_laidItems layout level others rest)
          obtain ⟨c, text, written, solid, opens⟩ :=
            exists_laid_eq_cons wholeNode layout (level + 1)
          rw [written, List.nil_append] at taken
          simp only [laidItems, written, List.cons_append, List.append_assoc] at taken ⊢
          rw [moreItems_comma _ (layout.blank_gap (level + 1)) solid opens, taken]
          exact congrArg (Json.mapValue (value :: ·))
            (inductionHypothesis wholeOthers (Nat.lt_of_succ_lt_succ enough))

/-- A list is taken off item by item. -/
theorem takes_listOf
    {read : Nat → Reader α}
    {depth : Nat}
    {nodes : List Node}
    {values : List α}
    (whole : ∀ node ∈ nodes, node.WholeNumbers)
    (takes : List.Forall₂ (Takes layout (read depth)) nodes values) :
    Takes layout (Json.listOf read (depth + 1)) (.sequence nodes) values := by
  intro blanks blank level rest ends
  cases takes with
  | nil =>
      rw [Node.laid, List.cons_append, Json.listOf, skipSpaces_append blank (by decide)]
      rfl
  | @cons node value others later first takesOthers =>
      obtain ⟨wholeNode, wholeOthers⟩ := List.forall_mem_cons.mp whole
      have taken := first [] nofun (level + 1) (laidItems layout level others ++ rest)
        (endsNumber_laidItems layout level others rest)
      have length := length_lt_length_laidItems layout level others
      obtain ⟨c, text, written, solid, opens⟩ := exists_laid_eq_cons wholeNode layout (level + 1)
      rw [written, List.nil_append] at taken
      rw [Node.laid, List.cons_append, Json.listOf, skipSpaces_append blank (by decide)]
      simp only [written, List.cons_append, List.append_assoc] at taken ⊢
      rw [items_blanks _ (layout.blank_gap (level + 1)) solid opens, taken]
      refine congrArg (Json.mapValue (value :: ·))
        (moreItems_taken wholeOthers takesOthers level ?_ rest)
      simp only [List.length_append, List.length_cons]
      omega

/-! ## Records -/

variable {shape : Shape σ}

/-- An entry of a record is read off its text, and some slots become others. -/
def Shape.Accepts (shape : Shape σ) (layout : Layout) (depth : Nat) (slots : σ)
    (entry : String × Node) (next : σ) : Prop :=
  ∀ level rest, EndsNumber rest →
    shape.entry depth slots (entry.1.toList.flatMap writtenChar ++ '"' :: ':' ::
      (layout.colonGap ++ (entry.2.laid layout level ++ rest))) = .ok (next, rest)

/-- The entries of a record are read one after another, and some slots become others. -/
inductive Shape.Fills (shape : Shape σ) (layout : Layout) (depth : Nat) :
    σ → List (String × Node) → σ → Prop
  /-- No entry is left. -/
  | nil (slots : σ) : Fills shape layout depth slots [] slots
  /-- An entry, and others after it. -/
  | cons {slots middle last : σ} {entry : String × Node} {others : List (String × Node)}
      (first : shape.Accepts layout depth slots entry middle)
      (later : Fills shape layout depth middle others last) :
      Fills shape layout depth slots (entry :: others) last

theorem afterColon_taken
    {read : Reader α}
    {node : Node}
    {value : α}
    (takes : Takes layout read node value)
    (level : Nat)
    {rest : List Char}
    (ends : EndsNumber rest) :
    afterColon read (':' :: (layout.colonGap ++ (node.laid layout level ++ rest))) =
      .ok (value, rest) := by
  rw [afterColon, colon, skipSpaces_cons (by decide)]
  exact takes layout.colonGap layout.blank_colonGap level rest ends

/-- A field that is not filled yet is accepted. -/
theorem Shape.accepts_slot
    {name : String}
    {get : σ → Option α}
    {put : σ → α → σ}
    {read : Nat → Reader α}
    {depth : Nat}
    {slots : σ}
    {node : Node}
    {value : α}
    (found : (shape.fields.find? fun field => field.name == name) =
      some (.slot name get put read))
    (free : get slots = none)
    (takes : Takes layout (read depth) node value) :
    shape.Accepts layout depth slots (name, node) (put slots value) := by
  intro level rest ends
  have unfilled : (Field.slot name get put read).filled slots = false := by
    simp [Field.slot, free]
  rw [Shape.entry, quoted_written]
  simp only [bind, Except.bind, found, unfilled]
  exact afterColon_taken (takes.mapValue (put slots)) level ends

/-- An entry under a name that no field has is accepted as the shape says. -/
theorem Shape.accepts_other
    {name : String}
    {depth : Nat}
    {slots next : σ}
    {node : Node}
    (absent : (shape.fields.find? fun field => field.name == name) = none)
    (takes : Takes layout (shape.other name depth slots) node next) :
    shape.Accepts layout depth slots (name, node) next := by
  intro level rest ends
  rw [Shape.entry, quoted_written]
  simp only [bind, Except.bind, absent]
  exact afterColon_taken takes level ends

/-- The entries after the first one are read, by induction on them. -/
theorem Shape.more_laidEntries
    {depth : Nat}
    {slots last : σ}
    {entries : List (String × Node)}
    (fills : shape.Fills layout depth slots entries last)
    (level : Nat)
    {fuel : Nat}
    (enough : entries.length < fuel)
    (rest : List Char) :
    shape.more depth fuel slots (laidEntries layout level entries ++ rest) = .ok (last, rest) := by
  induction fills generalizing fuel with
  | nil slots =>
      cases fuel with
      | zero => cases enough
      | succ fuel =>
          rw [laidEntries, List.append_assoc, List.singleton_append, Shape.more,
            skipSpaces_append (layout.blank_gap level) (by decide)]
          rfl
  | @cons slots middle last entry others first _ inductionHypothesis =>
      cases fuel with
      | zero => cases enough
      | succ fuel =>
          obtain ⟨name, node⟩ := entry
          have accepted := first (level + 1) (laidEntries layout level others ++ rest)
            (endsNumber_laidEntries layout level others rest)
          simp only [laidEntries, writtenText, List.cons_append, List.append_assoc,
            List.nil_append] at accepted ⊢
          rw [Shape.more, skipSpaces_cons (by decide)]
          simp only [skipSpaces_append (layout.blank_gap (level + 1)) (c := '"') (by decide)]
          rw [accepted]
          exact inductionHypothesis (Nat.lt_of_succ_lt_succ enough)

/-- A record is taken off entry by entry, if its slots suffice in the end. -/
theorem Shape.takes_read
    {depth : Nat}
    {start last : σ}
    {entries : List (String × Node)}
    (fills : shape.Fills layout depth start entries last)
    {finish : σ → Option α}
    {record : α}
    (finished : finish last = some record) :
    Takes layout (shape.read start finish (depth + 1)) (.mapping entries) record := by
  intro blanks blank level rest ends
  have filled : shape.slots start (depth + 1)
      (blanks ++ ((Node.mapping entries).laid layout level ++ rest)) = .ok (last, rest) := by
    cases fills with
    | nil =>
        rw [Node.laid, List.cons_append, Shape.slots, skipSpaces_append blank (by decide)]
        rfl
    | @cons _ middle _ entry others first later =>
        obtain ⟨name, node⟩ := entry
        have accepted := first (level + 1) (laidEntries layout level others ++ rest)
          (endsNumber_laidEntries layout level others rest)
        have length := length_lt_length_laidEntries layout level others
        rw [Node.laid, List.cons_append, Shape.slots, skipSpaces_append blank (by decide)]
        simp only [writtenText, List.cons_append, List.append_assoc, List.nil_append]
          at accepted ⊢
        rw [Shape.table, skipSpaces_append (layout.blank_gap (level + 1)) (by decide)]
        simp only [accepted]
        refine Shape.more_laidEntries later level ?_ rest
        simp only [List.length_append, List.length_cons]
        omega
  rw [Shape.read, filled]
  simp only [bind, Except.bind, finished]

end Json
end Storyboard
