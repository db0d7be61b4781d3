import Storyboard.Proofs.Context.Drift

/-!
# Where a variable stands

Writes put new variables behind the ones there are, and a removal closes the gap.  So a
variable that is not itself removed keeps its place: whatever stood behind it stays
behind it.
-/

namespace Storyboard
namespace Table

variable {α : Type}

/-- The keys in front of a key. -/
def front (entries : List (String × α)) (key : String) : List String :=
  (keys entries).takeWhile fun name => name != key

theorem takeWhile_append_of_mem
    {key : String}
    {names : List String}
    (member : key ∈ names)
    (others : List String) :
    (names ++ others).takeWhile (fun name => name != key) =
      names.takeWhile fun name => name != key := by
  induction names with
  | nil => cases member
  | cons name rest inductionHypothesis =>
      by_cases same : name = key
      · simp [same]
      · have later : key ∈ rest := (List.mem_cons.mp member).resolve_left (Ne.symm same)
        simp [same, inductionHypothesis later]

theorem takeWhile_erase
    {key other : String}
    (apart : other ≠ key)
    (names : List String) :
    (names.erase other).takeWhile (fun name => name != key) =
      (names.takeWhile fun name => name != key).erase other := by
  induction names with
  | nil => rfl
  | cons name rest inductionHypothesis =>
      by_cases same : name = other
      · subst same
        simp [apart]
      · have differs : (name == other) = false := by simpa using same
        by_cases found : name = key
        · subst found
          simp [differs]
        · simp [differs, found, inductionHypothesis]

/-- A write moves nothing in front of a key that is present. -/
theorem front_insert
    {entries : List (String × α)}
    {key : String}
    (member : key ∈ keys entries)
    (other : String)
    (value : α) :
    front (insert entries other value) key = front entries key := by
  unfold front
  rw [keys_insert]
  split
  · rfl
  · exact takeWhile_append_of_mem member [other]

theorem front_erase
    {key other : String}
    (apart : other ≠ key)
    (entries : List (String × α)) :
    front (erase entries other) key = (front entries key).erase other := by
  unfold front
  rw [keys_erase]
  exact takeWhile_erase apart (keys entries)

theorem mem_keys_of_mem_front
    {entries : List (String × α)}
    {key other : String}
    (member : other ∈ front entries key) :
    other ∈ keys entries :=
  (List.takeWhile_sublist _).subset member

theorem mem_keys_insert
    {entries : List (String × α)}
    {key : String}
    (member : key ∈ keys entries)
    (other : String)
    (value : α) :
    key ∈ keys (insert entries other value) := by
  rw [keys_insert]
  split
  · exact member
  · exact List.mem_append_left _ member

theorem count_keys_insert
    {entries : List (String × α)}
    {key : String}
    (once : (keys entries).count key ≤ 1)
    (other : String)
    (value : α) :
    (keys (insert entries other value)).count key ≤ 1 := by
  rw [keys_insert]
  split
  · exact once
  · next absent =>
    rw [contains_iff] at absent
    rw [List.count_append]
    by_cases same : other = key
    · subst same
      rw [List.count_eq_zero_of_not_mem absent]
      simp
    · simpa [List.count_singleton, same] using once

theorem count_keys_erase
    {entries : List (String × α)}
    {key : String}
    (once : (keys entries).count key ≤ 1)
    (other : String) :
    (keys (erase entries other)).count key ≤ 1 := by
  rw [keys_erase]
  exact Nat.le_trans (List.erase_sublist.count_le key) once

/-- Where a key occurs once, it is gone when it is removed. -/
theorem get?_erase_of_count
    {entries : List (String × α)}
    {key : String}
    (once : (keys entries).count key ≤ 1) :
    get? (erase entries key) key = none := by
  rw [get?_eq_none_iff, keys_erase, ← List.count_eq_zero, List.count_erase_self]
  omega

end Table

/-- Only writes of other variables are allowed. -/
def Sparing (allowed : Update → Prop) (name : String) : Prop :=
  ∀ update, allowed update → update.name ≠ name

/-- No removal is allowed. -/
def Keeping (allowed : Update → Prop) : Prop :=
  ∀ update, allowed update → update.value.isSome = true

namespace Variables

/-- A variable that is present stays present, and in its place: nothing comes in front of it, and
where no removal is allowed nothing goes away there either. -/
structure Stands
    (allowed : Update → Prop)
    (name : String)
    (before after : Variables) : Prop where
  /-- The variable does not come twice. -/
  once : (Table.keys before).count name ≤ 1 → (Table.keys after).count name ≤ 1
  /-- The variable stays. -/
  present : name ∈ Table.keys before → name ∈ Table.keys after
  /-- Nothing comes in front of it. -/
  behind : name ∈ Table.keys before →
    (Table.front after name).Sublist (Table.front before name)
  /-- Without removals, nothing in front of it goes. -/
  place : Keeping allowed → name ∈ Table.keys before →
    Table.front after name = Table.front before name

namespace Stands

variable {allowed : Update → Prop} {name : String}

theorem refl (bindings : Variables) : Stands allowed name bindings bindings :=
  ⟨id, id, fun _ => .refl _, fun _ _ => rfl⟩

theorem trans
    {first second third : Variables}
    (earlier : Stands allowed name first second)
    (later : Stands allowed name second third) :
    Stands allowed name first third where
  once count := later.once (earlier.once count)
  present member := later.present (earlier.present member)
  behind member := (later.behind (earlier.present member)).trans (earlier.behind member)
  place keeping member :=
    (later.place keeping (earlier.present member)).trans (earlier.place keeping member)

/-- A variable stands where it stood when a value is written, be it its own. -/
theorem insert
    (bindings : Variables)
    (other : String)
    (value : Node) :
    Stands allowed name bindings (bindings.put ⟨other, some value⟩) where
  once count := Table.count_keys_insert count other value
  present member := Table.mem_keys_insert member other value
  behind member := by
    have same : Table.front (bindings.put ⟨other, some value⟩) name =
        Table.front bindings name := Table.front_insert member other value
    exact same ▸ List.Sublist.refl _
  place _ member := Table.front_insert member other value

/-- A variable stands where it stood when one is removed that was not there before. -/
theorem erase
    {before after : Variables}
    (stands : Stands allowed name before after)
    {other : String}
    (absent : other ∉ Table.keys before) :
    Stands allowed name before (after.put ⟨other, none⟩) where
  once count := Table.count_keys_erase (stands.once count) other
  present member := by
    have apart : name ≠ other := fun same => absent (same ▸ member)
    rw [put, Table.keys_erase, List.mem_erase_of_ne apart]
    exact stands.present member
  behind member := by
    have apart : other ≠ name := fun same => absent (same ▸ member)
    rw [put, Table.front_erase apart]
    exact List.erase_sublist.trans (stands.behind member)
  place keeping member := by
    have apart : other ≠ name := fun same => absent (same ▸ member)
    have elsewhere : other ∉ Table.front before name :=
      fun front => absent (Table.mem_keys_of_mem_front front)
    rw [put, Table.front_erase apart, stands.place keeping member, List.erase_of_not_mem elsewhere]

/-- A variable that is spared stands where it stood after an allowed write. -/
theorem put
    (sparing : Sparing allowed name)
    (bindings : Variables)
    {update : Update}
    (isAllowed : allowed update) :
    Stands allowed name bindings (bindings.put update) := by
  obtain ⟨other, value⟩ := update
  cases value with
  | some value => exact .insert bindings other value
  | none =>
      have apart : other ≠ name := sparing ⟨other, none⟩ isAllowed
      constructor
      · exact fun count => Table.count_keys_erase count other
      · intro member
        rw [Variables.put, Table.keys_erase, List.mem_erase_of_ne apart.symm]
        exact member
      · intro _
        rw [Variables.put, Table.front_erase apart]
        exact List.erase_sublist
      · intro keeping
        cases keeping ⟨other, none⟩ isAllowed

/-- A variable that is spared stands where it stood after all that observers do. -/
theorem drift
    (sparing : Sparing allowed name)
    {context after : Context}
    (drifts : context.Drifts allowed after) :
    Stands allowed name context.bindings after.bindings :=
  drifts.keeps (Stands allowed name context.bindings)
    (fun bindings _ isAllowed stands => stands.trans (put sparing bindings isAllowed))
    (.refl context.bindings)

end Stands

/-- A variable that is spared has the value that it had after all that observers do. -/
theorem get?_of_drifts
    {allowed : Update → Prop}
    {name : String}
    (sparing : Sparing allowed name)
    {context after : Context}
    (drifts : context.Drifts allowed after) :
    after.get? name = context.get? name := by
  refine drifts.keeps (fun bindings => Table.get? bindings name = context.get? name) ?_ rfl
  intro bindings update isAllowed same
  exact (bindings.get?_put (sparing update isAllowed)).trans same

end Variables
end Storyboard
