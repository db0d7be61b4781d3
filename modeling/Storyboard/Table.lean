/-!
# Insertion-ordered tables

A table is a list of entries in the order in which their keys first arrived.
Writing to a key that is present replaces its value in place; writing to a new
key appends an entry.  Removing an entry keeps the order of the others.

The operations keep keys distinct (`Table.Distinct`), and each of them is
described through `Table.get?` and `Table.keys`.
-/

namespace Storyboard

/-- Entries under text keys, in the order in which the keys first arrived. -/
abbrev Table (α : Type) := List (String × α)

namespace Table

/-- The value under a key. -/
def get? {α : Type} : List (String × α) → String → Option α
  | [], _ => none
  | (name, value) :: rest, key => if name = key then some value else get? rest key

/-- Whether a key is present. -/
def contains {α : Type} (entries : List (String × α)) (key : String) : Bool :=
  (get? entries key).isSome

/-- Write a value: in place when the key is present, else at the end. -/
def insert {α : Type} : List (String × α) → String → α → List (String × α)
  | [], key, value => [(key, value)]
  | (name, old) :: rest, key, value =>
      if name = key then (name, value) :: rest else (name, old) :: insert rest key value

/-- Remove a key and keep the order of the other entries. -/
def erase {α : Type} : List (String × α) → String → List (String × α)
  | [], _ => []
  | (name, value) :: rest, key => if name = key then rest else (name, value) :: erase rest key

/-- The keys in order. -/
def keys {α : Type} (entries : List (String × α)) : List String :=
  entries.map Prod.fst

/-- The keys in alphabetical order. -/
def sortedKeys {α : Type} (entries : List (String × α)) : List String :=
  (keys entries).mergeSort fun a b => decide (a ≤ b)

/-- Write entries one after another: a repeated key keeps its first place and its last value. -/
def ofEntries {α : Type} (entries : List (String × α)) : List (String × α) :=
  entries.foldl (fun table entry => insert table entry.1 entry.2) []

/-- No key occurs twice. -/
def Distinct {α : Type} (entries : List (String × α)) : Prop :=
  (keys entries).Nodup

variable {α : Type}

@[simp] theorem get?_nil (key : String) : get? ([] : List (String × α)) key = none := rfl

theorem get?_cons (name : String) (value : α) (rest : List (String × α)) (key : String) :
    get? ((name, value) :: rest) key = if name = key then some value else get? rest key := rfl

/-- Reading after a write sees the written value and nothing else changed. -/
theorem get?_insert (entries : List (String × α)) (key : String) (value : α) (other : String) :
    get? (insert entries key value) other =
      if key = other then some value else get? entries other := by
  induction entries with
  | nil => rfl
  | cons entry rest ih =>
      obtain ⟨name, old⟩ := entry
      by_cases same : name = key
      · subst same
        by_cases equal : name = other <;> simp [insert, get?, equal]
      · by_cases equal : name = other
        · subst equal
          have apart : ¬ key = name := fun reversed => same reversed.symm
          simp [insert, get?, same, apart]
        · simp [insert, get?, same, equal, ih]

/-- A write keeps the order of the keys; a new key comes last. -/
theorem keys_insert (entries : List (String × α)) (key : String) (value : α) :
    keys (insert entries key value) =
      if contains entries key then keys entries else keys entries ++ [key] := by
  induction entries with
  | nil => rfl
  | cons entry rest ih =>
      obtain ⟨name, old⟩ := entry
      by_cases same : name = key
      · simp [insert, keys, contains, get?, same]
      · simp only [keys, contains] at ih
        by_cases found : (get? rest key).isSome = true <;>
          simp [insert, keys, contains, get?, same, ih, found]

/-- Removing a key keeps the order of the others. -/
theorem keys_erase (entries : List (String × α)) (key : String) :
    keys (erase entries key) = (keys entries).erase key := by
  induction entries with
  | nil => rfl
  | cons entry rest ih =>
      obtain ⟨name, value⟩ := entry
      by_cases same : name = key
      · simp [erase, keys, same]
      · have apart : (name == key) = false := by simpa using same
        simp only [keys] at ih
        simp [erase, keys, same, ih, apart]

/-- Removing a key leaves the value under every other key. -/
theorem get?_erase_of_ne (entries : List (String × α)) {key other : String} (apart : key ≠ other) :
    get? (erase entries key) other = get? entries other := by
  induction entries with
  | nil => rfl
  | cons entry rest ih =>
      obtain ⟨name, value⟩ := entry
      by_cases same : name = key
      · have differs : ¬ name = other := fun equal => apart (same.symm.trans equal)
        subst same
        simp [erase, get?, differs]
      · simp [erase, get?, same, ih]

/-- A key is present exactly when it is among the keys. -/
theorem contains_iff (entries : List (String × α)) (key : String) :
    contains entries key = true ↔ key ∈ keys entries := by
  induction entries with
  | nil => simp [contains, keys]
  | cons entry rest ih =>
      obtain ⟨name, value⟩ := entry
      simp only [contains, keys] at ih
      by_cases same : name = key
      · simp [contains, keys, get?, same]
      · have apart : ¬ key = name := fun reversed => same reversed.symm
        simp [contains, keys, get?, same, apart, ih]

/-- A key that is not present has no value. -/
theorem get?_eq_none_iff (entries : List (String × α)) (key : String) :
    get? entries key = none ↔ key ∉ keys entries := by
  rw [← contains_iff]
  simp [contains]

/-- Writing keeps keys distinct. -/
theorem Distinct.insert {entries : List (String × α)} (distinct : Distinct entries)
    (key : String) (value : α) : Distinct (insert entries key value) := by
  unfold Distinct
  rw [keys_insert]
  by_cases present : contains entries key
  · rw [if_pos present]
    exact distinct
  · have absent : key ∉ keys entries := fun member => present ((contains_iff entries key).2 member)
    rw [if_neg present]
    exact List.nodup_append.2 ⟨distinct, by simp, by
      intro name member other isKey
      have equal : other = key := by simpa using isKey
      exact fun same => absent (equal ▸ same ▸ member)⟩

/-- Removing keeps keys distinct. -/
theorem Distinct.erase {entries : List (String × α)} (distinct : Distinct entries)
    (key : String) : Distinct (erase entries key) := by
  unfold Distinct
  rw [keys_erase]
  exact List.Nodup.erase key distinct

/-- After a key is removed, it has no value. -/
theorem get?_erase_self {entries : List (String × α)} (distinct : Distinct entries)
    (key : String) : get? (Table.erase entries key) key = none := by
  rw [get?_eq_none_iff, keys_erase]
  exact List.Nodup.not_mem_erase distinct

/-- Entries that are written one after another have distinct keys. -/
theorem distinct_ofEntries (entries : List (String × α)) : Distinct (ofEntries entries) := by
  suffices general : ∀ table : List (String × α), Distinct table →
      Distinct (entries.foldl (fun table entry => Table.insert table entry.1 entry.2) table) from
    general [] List.nodup_nil
  induction entries with
  | nil => exact fun table distinct => distinct
  | cons entry rest ih =>
      exact fun table distinct => ih _ (distinct.insert entry.1 entry.2)

end Table
end Storyboard
