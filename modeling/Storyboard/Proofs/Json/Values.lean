import Storyboard.Proofs.Json.Numbers

/-!
# The parts of values in JSON text

Blanks before a part are passed over, an item is read after its comma, and a list or a
table ends with its bracket.  Where containers nest more deeply than a limit allows, the
text is malformed.
-/

namespace Storyboard
namespace Json

theorem isSpace_cases
    {c : Char}
    (space : isSpace c = true) :
    c = ' ' ∨ c = '\n' ∨ c = '\t' ∨ c = '\r' := by
  simpa [isSpace, or_assoc] using space

/-- Blanks are passed over, up to the first character that is none. -/
theorem skipSpaces_append
    {blanks : List Char}
    (blank : ∀ c ∈ blanks, isSpace c = true)
    {c : Char}
    (solid : isSpace c = false)
    (rest : List Char) :
    skipSpaces (blanks ++ c :: rest) = c :: rest := by
  rw [skipSpaces, List.dropWhile_append_of_pos blank]
  exact List.dropWhile_cons_of_neg (by simp [solid])

theorem skipSpaces_cons
    {c : Char}
    (solid : isSpace c = false)
    (rest : List Char) :
    skipSpaces (c :: rest) = c :: rest :=
  List.dropWhile_cons_of_neg (by simp [solid])

theorem isSpace_of_startsNumber
    {c : Char}
    (starts : c = '-' ∨ isDigit c = true) :
    isSpace c = false := by
  cases space : isSpace c with
  | false => rfl
  | true =>
      rcases isSpace_cases space with rfl | rfl | rfl | rfl <;> exact absurd starts (by decide)

/-- Blanks end a number. -/
theorem EndsNumber.append
    {blanks rest : List Char}
    (blank : ∀ c ∈ blanks, isSpace c = true)
    (ends : EndsNumber rest) :
    EndsNumber (blanks ++ rest) := by
  cases blanks with
  | nil => exact ends
  | cons c others =>
      apply endsNumber_cons
      rcases isSpace_cases (blank c List.mem_cons_self) with rfl | rfl | rfl | rfl <;> decide

section Limit

variable {α β : Type}

/-- What is read of a text whose containers nest to a depth, where they may nest to a limit. -/
def withinLimit (depth limit : Nat) (value : α) (rest : List Char) :
    Except Failure (α × List Char) :=
  if depth ≤ limit then .ok (value, rest) else .error .malformed

theorem mapValue_withinLimit
    (f : α → β)
    (depth limit : Nat)
    (value : α)
    (rest : List Char) :
    mapValue f (withinLimit depth limit value rest) = withinLimit depth limit (f value) rest := by
  unfold withinLimit
  split <;> rfl

/-- A container nests one level more than what it holds, and so may the limit. -/
theorem withinLimit_succ
    (depth limit : Nat)
    (value : α)
    (rest : List Char) :
    withinLimit (depth + 1) (limit + 1) value rest = withinLimit depth limit value rest := by
  simp [withinLimit]

theorem withinLimit_zero
    (depth : Nat)
    (value : α)
    (rest : List Char) :
    withinLimit (depth + 1) 0 value rest = .error .malformed :=
  if_neg (Nat.not_succ_le_zero depth)

/-- A part is read and then the others: the limit must suffice for all. -/
theorem withinLimit_bind
    {depth others limit : Nat}
    {first : α}
    {middle rest : List Char}
    {more : List α}
    {next : List Char → Except Failure (List α × List Char)}
    (later : next middle = withinLimit others limit more rest) :
    (withinLimit depth limit first middle >>= fun taken =>
      mapValue (taken.1 :: ·) (next taken.2)) =
        withinLimit (max depth others) limit (first :: more) rest := by
  unfold withinLimit at *
  by_cases fits : depth ≤ limit
  · simp only [fits, if_true, Nat.max_le, true_and, bind, Except.bind, later]
    split <;> rfl
  · simp only [fits, if_false, Nat.max_le, false_and]
    rfl

end Limit

section Values

variable {α : Type} {builder : Builder α} {c : Char}

/-- What starts as a number is read as one. -/
theorem value_of_startsNumber
    (starts : c = '-' ∨ isDigit c = true)
    (limit : Nat)
    (text : List Char) :
    value builder limit (c :: text) = builder.number (c :: text) := by
  rw [value.eq_def]
  simp only [skipSpaces_cons (isSpace_of_startsNumber starts)]
  split
  case h_1 same => cases same
  case h_8 _ first rest _ _ _ _ _ _ same =>
    obtain ⟨rfl, rfl⟩ := List.cons.inj same
    exact if_pos starts
  all_goals
    next same =>
      rw [(List.cons.inj same).1] at starts
      exact absurd starts (by decide)

theorem value_null
    (limit : Nat)
    (rest : List Char) :
    value builder limit (writtenNull ++ rest) = .ok (builder.null, rest) := by
  rw [value.eq_def]
  rfl

theorem value_bool
    (limit : Nat)
    (truth : Bool)
    (rest : List Char) :
    value builder limit (writtenBool truth ++ rest) = .ok (builder.bool truth, rest) := by
  rw [value.eq_def]
  cases truth <;> rfl

theorem value_text
    (limit : Nat)
    (rest : List Char) :
    value builder limit ('"' :: rest) = builder.text rest := by
  rw [value.eq_def]
  rfl

/-- The blanks before an item are passed over. -/
theorem items_blanks
    (item : Reader α)
    {blanks : List Char}
    (blank : ∀ c ∈ blanks, isSpace c = true)
    (solid : isSpace c = false)
    (opens : c ≠ ']')
    (text : List Char) :
    items item (blanks ++ c :: text) =
      (item (c :: text) >>= fun taken =>
        mapValue (taken.1 :: ·) (moreItems item (blanks ++ c :: text).length taken.2)) := by
  unfold items
  rw [skipSpaces_append blank solid]
  split
  case h_1 same => cases same
  case h_2 same => exact absurd (List.cons.inj same).1 opens
  case h_3 => rfl

/-- The comma before an item and the blanks around it are passed over. -/
theorem moreItems_comma
    (item : Reader α)
    {blanks : List Char}
    (blank : ∀ c ∈ blanks, isSpace c = true)
    (solid : isSpace c = false)
    (opens : c ≠ ']')
    (fuel : Nat)
    (text : List Char) :
    moreItems item (fuel + 1) (',' :: (blanks ++ c :: text)) =
      (item (c :: text) >>= fun taken =>
        mapValue (taken.1 :: ·) (moreItems item fuel taken.2)) := by
  rw [moreItems, skipSpaces_cons (by decide)]
  simp only [skipSpaces_append blank solid]
  split
  case h_1 same => cases same
  case h_2 same => exact absurd (List.cons.inj same).1 opens
  case h_3 => rfl

theorem moreItems_close
    (item : Reader α)
    {blanks : List Char}
    (blank : ∀ c ∈ blanks, isSpace c = true)
    (fuel : Nat)
    (rest : List Char) :
    moreItems item (fuel + 1) (blanks ++ ']' :: rest) = .ok ([], rest) := by
  rw [moreItems, skipSpaces_append blank (by decide)]
  rfl

/-- The comma before an entry and the blanks around it are passed over. -/
theorem moreEntries_comma
    (key : Reader String)
    (item : Reader α)
    {blanks : List Char}
    (blank : ∀ c ∈ blanks, isSpace c = true)
    (fuel : Nat)
    (text : List Char) :
    moreEntries key item (fuel + 1) (',' :: (blanks ++ '"' :: text)) =
      (entry key item text >>= fun taken =>
        mapValue (taken.1 :: ·) (moreEntries key item fuel taken.2)) := by
  rw [moreEntries, skipSpaces_cons (by decide)]
  simp only [skipSpaces_append blank (c := '"') (by decide)]

theorem moreEntries_close
    (key : Reader String)
    (item : Reader α)
    {blanks : List Char}
    (blank : ∀ c ∈ blanks, isSpace c = true)
    (fuel : Nat)
    (rest : List Char) :
    moreEntries key item (fuel + 1) (blanks ++ '}' :: rest) = .ok ([], rest) := by
  rw [moreEntries, skipSpaces_append blank (by decide)]
  rfl

theorem entries_blanks
    (key : Reader String)
    (item : Reader α)
    {blanks : List Char}
    (blank : ∀ c ∈ blanks, isSpace c = true)
    (text : List Char) :
    entries key item (blanks ++ '"' :: text) =
      (entry key item text >>= fun taken =>
        mapValue (taken.1 :: ·)
          (moreEntries key item (blanks ++ '"' :: text).length taken.2)) := by
  rw [entries, skipSpaces_append blank (by decide)]
  rfl

/-- A value is read from its first character on. -/
theorem value_skipSpaces
    (limit : Nat)
    {blanks : List Char}
    (blank : ∀ c ∈ blanks, isSpace c = true)
    (solid : isSpace c = false)
    (text : List Char) :
    value builder limit (blanks ++ c :: text) = value builder limit (c :: text) := by
  rw [value.eq_def, value.eq_def]
  simp only [skipSpaces_append blank solid, skipSpaces_cons solid]

/-- A list is read where its items nest to a depth, if one level more is allowed. -/
theorem value_list
    {depth : Nat}
    {text rest : List Char}
    {values : List α}
    (read : ∀ limit, items (value builder limit) text = withinLimit depth limit values rest)
    (limit : Nat) :
    value builder limit ('[' :: text) =
      withinLimit (depth + 1) limit (builder.list values) rest := by
  rw [value.eq_def]
  simp only [skipSpaces_cons (c := '[') (by decide)]
  cases limit with
  | zero => exact (withinLimit_zero depth (builder.list values) rest).symm
  | succ limit => simp only [read limit, mapValue_withinLimit, withinLimit_succ]

/-- A table is read where its values nest to a depth, if one level more is allowed. -/
theorem value_table
    {depth : Nat}
    {text rest : List Char}
    {values : List (String × α)}
    (read : ∀ limit,
      entries builder.key (value builder limit) text = withinLimit depth limit values rest)
    (limit : Nat) :
    value builder limit ('{' :: text) =
      withinLimit (depth + 1) limit (builder.table values) rest := by
  rw [value.eq_def]
  simp only [skipSpaces_cons (c := '{') (by decide)]
  cases limit with
  | zero => exact (withinLimit_zero depth (builder.table values) rest).symm
  | succ limit => simp only [read limit, mapValue_withinLimit, withinLimit_succ]

end Values

/-! ## What is read -/

section Read

variable {α β : Type}

theorem bind_eq_ok_iff
    {ε : Type}
    {first : Except ε α}
    {next : α → Except ε β}
    {result : β} :
    first >>= next = .ok result ↔ ∃ value, first = .ok value ∧ next value = .ok result := by
  cases first with
  | error error => simp [bind, Except.bind]
  | ok value => simp [bind, Except.bind]

theorem exists_of_mapValue_eq_ok
    {f : α → β}
    {result : Except Failure (α × List Char)}
    {value : β}
    {rest : List Char}
    (mapped : mapValue f result = .ok (value, rest)) :
    ∃ read, result = .ok (read, rest) ∧ value = f read := by
  cases result with
  | error failure => cases mapped
  | ok taken =>
      cases mapped
      exact ⟨taken.1, rfl, rfl⟩

theorem mapValue_injective
    {f : α → β}
    (injective : ∀ first second, f first = f second → first = second)
    {result other : Except Failure (α × List Char)}
    (same : mapValue f result = mapValue f other) :
    result = other := by
  cases result with
  | error failure =>
      cases other with
      | error otherFailure => rw [Except.error.inj same]
      | ok taken => cases same
  | ok taken =>
      cases other with
      | error failure => cases same
      | ok otherTaken =>
          obtain ⟨values, rests⟩ := Prod.mk.inj (Except.ok.inj same)
          exact congrArg Except.ok (Prod.ext (injective _ _ values) rests)

/-- A list of what was read comes from a first part and the others. -/
theorem exists_of_bind_eq_ok
    {first : Except Failure (α × List Char)}
    {next : List Char → Except Failure (List α × List Char)}
    {values : List α}
    {rest : List Char}
    (read : (first >>= fun taken => mapValue (taken.1 :: ·) (next taken.2)) =
      .ok (values, rest)) :
    ∃ value middle others, first = .ok (value, middle) ∧ next middle = .ok (others, rest) ∧
      values = value :: others := by
  cases first with
  | error failure => cases read
  | ok taken =>
      obtain ⟨others, later, rfl⟩ := exists_of_mapValue_eq_ok read
      exact ⟨taken.1, taken.2, others, rfl, later, rfl⟩

variable {item : Reader α} {holds : α → Prop}

/-- What holds of every item that is read holds of all items of a list, by induction on the
characters that are left. -/
theorem forall_of_moreItems_eq_ok
    (each : ∀ text value rest, item text = .ok (value, rest) → holds value)
    {fuel : Nat}
    {text rest : List Char}
    {values : List α}
    (read : moreItems item fuel text = .ok (values, rest)) :
    ∀ value ∈ values, holds value := by
  induction fuel generalizing text values with
  | zero => cases read
  | succ fuel inductionHypothesis =>
      rw [moreItems] at read
      split at read
      · cases read
      · cases read
        simp
      · split at read
        · cases read
        · cases read
        · obtain ⟨value, middle, others, first, later, rfl⟩ := exists_of_bind_eq_ok read
          exact List.forall_mem_cons.mpr ⟨each _ _ _ first, inductionHypothesis later⟩
      · cases read

theorem forall_of_items_eq_ok
    (each : ∀ text value rest, item text = .ok (value, rest) → holds value)
    {text rest : List Char}
    {values : List α}
    (read : items item text = .ok (values, rest)) :
    ∀ value ∈ values, holds value := by
  unfold items at read
  split at read
  · cases read
  · cases read
    simp
  · obtain ⟨value, middle, others, first, later, rfl⟩ := exists_of_bind_eq_ok read
    exact List.forall_mem_cons.mpr ⟨each _ _ _ first, forall_of_moreItems_eq_ok each later⟩

variable {key : Reader String}

theorem holds_of_entry_eq_ok
    (each : ∀ text value rest, item text = .ok (value, rest) → holds value)
    {text rest : List Char}
    {named : String × α}
    (read : entry key item text = .ok (named, rest)) :
    holds named.2 := by
  unfold entry at read
  cases named : key text with
  | error failure => simp [named, bind, Except.bind] at read
  | ok taken =>
      simp only [named, bind, Except.bind] at read
      obtain ⟨value, after, rfl⟩ := exists_of_mapValue_eq_ok read
      unfold afterColon at after
      split at after
      · exact each _ _ _ after
      · cases after

theorem forall_of_moreEntries_eq_ok
    (each : ∀ text value rest, item text = .ok (value, rest) → holds value)
    {fuel : Nat}
    {text rest : List Char}
    {values : List (String × α)}
    (read : moreEntries key item fuel text = .ok (values, rest)) :
    ∀ value ∈ values, holds value.2 := by
  induction fuel generalizing text values with
  | zero => cases read
  | succ fuel inductionHypothesis =>
      rw [moreEntries] at read
      split at read
      · cases read
      · cases read
        simp
      · split at read
        · cases read
        · obtain ⟨value, middle, others, first, later, rfl⟩ := exists_of_bind_eq_ok read
          exact List.forall_mem_cons.mpr
            ⟨holds_of_entry_eq_ok each first, inductionHypothesis later⟩
        · cases read
      · cases read

theorem forall_of_entries_eq_ok
    (each : ∀ text value rest, item text = .ok (value, rest) → holds value)
    {text rest : List Char}
    {values : List (String × α)}
    (read : entries key item text = .ok (values, rest)) :
    ∀ value ∈ values, holds value.2 := by
  unfold entries at read
  split at read
  · cases read
  · cases read
    simp
  · obtain ⟨value, middle, others, first, later, rfl⟩ := exists_of_bind_eq_ok read
    exact List.forall_mem_cons.mpr
      ⟨holds_of_entry_eq_ok each first, forall_of_moreEntries_eq_ok each later⟩
  · cases read

end Read

/-- What a builder makes has a property at each limit if it makes it so of parts that have it. -/
structure Builder.Keeps {α : Type} (builder : Builder α) (holds : Nat → α → Prop) : Prop where
  /-- The word `null`. -/
  null : ∀ limit, holds limit builder.null
  /-- A truth value. -/
  bool : ∀ limit value, holds limit (builder.bool value)
  /-- A number. -/
  number : ∀ limit text value rest, builder.number text = .ok (value, rest) → holds limit value
  /-- A text. -/
  text : ∀ limit text value rest, builder.text text = .ok (value, rest) → holds limit value
  /-- A list, one level above its items. -/
  list : ∀ limit items, (∀ item ∈ items, holds limit item) →
    holds (limit + 1) (builder.list items)
  /-- A table, one level above its values. -/
  table : ∀ limit entries, (∀ entry ∈ entries, holds limit entry.2) →
    holds (limit + 1) (builder.table entries)

/-- Whatever is read has what a builder keeps, by recursion on the limit. -/
theorem Builder.Keeps.value
    {α : Type}
    {builder : Builder α}
    {holds : Nat → α → Prop}
    (keeps : builder.Keeps holds)
    (limit : Nat)
    {text rest : List Char}
    {made : α}
    (read : Json.value builder limit text = .ok (made, rest)) :
    holds limit made := by
  rw [value.eq_def] at read
  dsimp only at read
  split at read
  · cases read
  · obtain ⟨_, -, rfl⟩ := exists_of_mapValue_eq_ok read
    exact keeps.null limit
  · obtain ⟨_, -, rfl⟩ := exists_of_mapValue_eq_ok read
    exact keeps.bool limit true
  · obtain ⟨_, -, rfl⟩ := exists_of_mapValue_eq_ok read
    exact keeps.bool limit false
  · exact keeps.text limit _ _ _ read
  · cases limit with
    | zero => cases read
    | succ limit =>
        obtain ⟨values, listed, rfl⟩ := exists_of_mapValue_eq_ok read
        have each := forall_of_items_eq_ok (fun _ _ _ => keeps.value limit) listed
        exact keeps.list limit values each
  · cases limit with
    | zero => cases read
    | succ limit =>
        obtain ⟨values, listed, rfl⟩ := exists_of_mapValue_eq_ok read
        have each := forall_of_entries_eq_ok (fun _ _ _ => keeps.value limit) listed
        exact keeps.table limit values each
  · split at read
    · exact keeps.number limit _ _ _ read
    · cases read

end Json
end Storyboard
