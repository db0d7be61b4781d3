import Storyboard.Table

/-!
# Entries and look-ups

A look-up finds an entry, and where no key comes twice it finds every entry.  Such a
table is known by its look-ups, in whatever order its entries stand.
-/

namespace Storyboard
namespace Table

variable {α : Type} {entries : List (String × α)} {key : String} {value : α}

instance : Decidable (Distinct entries) := inferInstanceAs (Decidable (keys entries).Nodup)

/-- A value that is found under a key is an entry. -/
theorem mem_of_get?_eq_some
    (found : get? entries key = some value) :
    (key, value) ∈ entries := by
  induction entries with
  | nil => cases found
  | cons entry rest inductionHypothesis =>
      obtain ⟨name, other⟩ := entry
      rw [get?_cons] at found
      split at found
      · next same =>
          cases found
          exact same ▸ List.mem_cons_self
      · exact List.mem_cons_of_mem _ (inductionHypothesis found)

/-- Where no key comes twice, every entry is found. -/
theorem get?_eq_some_of_mem
    (distinct : Distinct entries)
    (member : (key, value) ∈ entries) :
    get? entries key = some value := by
  induction entries with
  | nil => cases member
  | cons entry rest inductionHypothesis =>
      obtain ⟨name, other⟩ := entry
      obtain ⟨fresh, distinctRest⟩ := List.nodup_cons.mp distinct
      rw [get?_cons]
      rcases List.mem_cons.mp member with same | later
      · cases same
        exact if_pos rfl
      · have apart : name ≠ key := by
          rintro rfl
          exact fresh (List.mem_map.mpr ⟨_, later, rfl⟩)
        rw [if_neg apart]
        exact inductionHypothesis distinctRest later

theorem mem_keys_of_get?_eq_some
    (found : get? entries key = some value) :
    key ∈ keys entries :=
  List.mem_map.mpr ⟨(key, value), mem_of_get?_eq_some found, rfl⟩

theorem exists_get?_of_mem_keys
    (member : key ∈ keys entries) :
    ∃ value, get? entries key = some value :=
  Option.isSome_iff_exists.mp ((contains_iff entries key).mpr member)

/-- The order of the entries is no matter to look-ups. -/
theorem get?_perm
    {other : List (String × α)}
    (distinct : Distinct entries)
    (perm : entries.Perm other) :
    get? other = get? entries := by
  have distinctOther : Distinct other := (perm.map Prod.fst).nodup distinct
  funext name
  cases found : get? entries name with
  | some value =>
      exact get?_eq_some_of_mem distinctOther (perm.subset (mem_of_get?_eq_some found))
  | none =>
      rw [get?_eq_none_iff] at found ⊢
      exact fun member => found ((perm.map Prod.fst).symm.subset member)

/-- Where values are replaced, a look-up finds what replaces the value. -/
theorem get?_map
    {β : Type}
    (entries : List (String × α))
    (f : α → β)
    (key : String) :
    get? (entries.map fun entry => (entry.1, f entry.2)) key = (get? entries key).map f := by
  induction entries with
  | nil => rfl
  | cons entry rest inductionHypothesis =>
      obtain ⟨name, value⟩ := entry
      rw [List.map_cons, get?_cons, get?_cons, inductionHypothesis]
      split <;> rfl

/-- Keys stay distinct where values are replaced. -/
theorem Distinct.map
    {β : Type}
    (distinct : Distinct entries)
    (f : α → β) :
    Distinct (entries.map fun entry => (entry.1, f entry.2)) := by
  unfold Distinct keys at *
  rwa [List.map_map]

/-- Every entry of a table after a write was one before or is the one that was written. -/
theorem mem_of_mem_insert
    {other : String × α}
    (member : other ∈ insert entries key value) :
    other ∈ entries ∨ other = (key, value) := by
  induction entries with
  | nil => exact .inr (List.mem_singleton.mp member)
  | cons entry rest inductionHypothesis =>
      obtain ⟨name, old⟩ := entry
      rw [insert] at member
      split at member
      · next same =>
          rcases List.mem_cons.mp member with rfl | later
          · exact .inr (by rw [same])
          · exact .inl (List.mem_cons_of_mem _ later)
      · rcases List.mem_cons.mp member with rfl | later
        · exact .inl List.mem_cons_self
        · exact (inductionHypothesis later).imp_left (List.mem_cons_of_mem _)

/-- Every entry of a table that is made of entries is one of them. -/
theorem mem_of_mem_ofEntries
    {other : String × α}
    (member : other ∈ ofEntries entries) :
    other ∈ entries := by
  suffices general : ∀ (rest table : List (String × α)),
      other ∈ rest.foldl (fun table entry => insert table entry.1 entry.2) table →
        other ∈ table ∨ other ∈ rest from
    (general entries [] member).resolve_left List.not_mem_nil
  intro rest
  induction rest with
  | nil => exact fun table member => .inl member
  | cons entry rest inductionHypothesis =>
      intro table member
      rcases inductionHypothesis _ member with inTable | later
      · rcases mem_of_mem_insert inTable with old | rfl
        · exact .inl old
        · exact .inr List.mem_cons_self
      · exact .inr (List.mem_cons_of_mem _ later)

/-- A write leaves the entries under other keys as they are and in their order. -/
theorem filter_insert
    (entries : List (String × α))
    (key : String)
    (value : α) :
    (insert entries key value).filter (fun entry => entry.1 != key) =
      entries.filter fun entry => entry.1 != key := by
  induction entries with
  | nil => simp [insert]
  | cons entry rest inductionHypothesis =>
      obtain ⟨name, old⟩ := entry
      by_cases same : name = key
      · subst same
        simp [insert]
      · simp only [insert, if_neg same, List.filter_cons, inductionHypothesis]

/-- The second of two writes under a key is the one that counts. -/
theorem insert_insert
    (entries : List (String × α))
    (key : String)
    (before value : α) :
    insert (insert entries key before) key value = insert entries key value := by
  induction entries with
  | nil => simp [insert]
  | cons entry rest inductionHypothesis =>
      obtain ⟨name, old⟩ := entry
      by_cases same : name = key
      · simp [insert, same]
      · simp only [insert, if_neg same, inductionHypothesis]

/-- Writing a value where it stands changes nothing. -/
theorem insert_of_get?_eq_some
    (found : get? entries key = some value) :
    insert entries key value = entries := by
  induction entries with
  | nil => cases found
  | cons entry rest inductionHypothesis =>
      obtain ⟨name, old⟩ := entry
      by_cases same : name = key
      · rw [get?_cons, if_pos same] at found
        obtain rfl := Option.some.inj found
        rw [insert, if_pos same]
      · rw [get?_cons, if_neg same] at found
        rw [insert, if_neg same, inductionHypothesis found]

/-- A new key comes last. -/
theorem insert_of_not_mem
    (absent : key ∉ keys entries)
    (value : α) :
    insert entries key value = entries ++ [(key, value)] := by
  induction entries with
  | nil => rfl
  | cons entry rest inductionHypothesis =>
      obtain ⟨name, old⟩ := entry
      have apart : name ≠ key := fun same => absent (same ▸ List.mem_cons_self)
      have absentRest : key ∉ keys rest := fun member => absent (List.mem_cons_of_mem _ member)
      rw [insert, if_neg apart, inductionHypothesis absentRest]
      rfl

/-- Entries under distinct keys make up a table as they stand. -/
theorem ofEntries_of_distinct
    (distinct : Distinct entries) :
    ofEntries entries = entries := by
  suffices general : ∀ (rest table : List (String × α)), Distinct (table ++ rest) →
      rest.foldl (fun table entry => insert table entry.1 entry.2) table = table ++ rest from
    general entries [] distinct
  intro rest
  induction rest with
  | nil => simp
  | cons entry rest inductionHypothesis =>
      intro table distinct
      have fresh : entry.1 ∉ keys table := by
        intro member
        have apart := List.nodup_append.mp (by simpa [Distinct, keys] using distinct)
        exact apart.2.2 entry.1 member entry.1 List.mem_cons_self rfl
      have moved : Distinct (table ++ [entry] ++ rest) := by
        rwa [List.append_assoc, List.singleton_append]
      rw [List.foldl_cons, insert_of_not_mem fresh, inductionHypothesis _ moved, List.append_assoc,
        List.singleton_append]

end Table
end Storyboard
