import Storyboard.Operator.Builtin
import Storyboard.Proofs.Node.Parts

/-!
# Operators that make no containers

A built-in operator looks at its input and at the store, never at the variables.  Where
its result is a container, it was a value of the mapping that it was applied to, or it
was stored.
-/

namespace Storyboard
namespace Operator

/-- The result of an operator is a scalar, a value of the mapping that it is applied to, or a
stored value, and the variables have no say in it. -/
structure Tame (operator : Operator) : Prop where
  /-- The variables are not looked at. -/
  blind : ∀ bindings others index stored input,
    operator ⟨bindings, index, stored⟩ input = operator ⟨others, index, stored⟩ input
  /-- Containers are handed on, not made. -/
  drawn : ∀ scope input,
    (operator scope input).isScalar = true ∨
    (∃ entries key, input = .mapping entries ∧
      Table.get? entries key = some (operator scope input)) ∨
    ∃ key, Table.get? scope.stored key = some (operator scope input)

/-- An operator that makes scalars of its input is tame. -/
theorem tame_pure
    {f : Node → Node}
    (scalar : ∀ input, (f input).isScalar = true) :
    (pure f).Tame where
  blind _ _ _ _ _ := rfl
  drawn _ input := .inl (scalar input)

theorem isScalar_combine
    (step : Float → Float → Option Float)
    (input : Node) :
    (Arithmetic.combine step input).isScalar = true := by
  unfold Arithmetic.combine
  split
  · rfl
  · split <;> rfl

theorem isScalar_ofBool? (value : Option Bool) : (Logic.ofBool? value).isScalar = true := by
  cases value <;> rfl

theorem isScalar_compare
    (holds : Float → Float → Bool)
    (input : Node) :
    (Logic.compare holds input).isScalar = true := by
  unfold Logic.compare
  split <;> rfl

theorem isScalar_onText
    {f : String → Node}
    (scalar : ∀ text, (f text).isScalar = true)
    (input : Node) :
    (Words.onText f input).isScalar = true := by
  unfold Words.onText
  split
  · exact scalar _
  · rfl

theorem isScalar_wordsIndexOf (input : Node) : (Words.indexOf input).isScalar = true := by
  unfold Words.indexOf
  split
  · split <;> rfl
  · rfl

theorem isScalar_substring (input : Node) : (Words.substring input).isScalar = true := by
  unfold Words.substring
  repeat' split
  all_goals rfl

theorem isScalar_listsIndexOf (input : Node) : (Lists.indexOf input).isScalar = true := by
  unfold Lists.indexOf
  split <;> rfl

theorem isScalar_contains (input : Node) : (Lists.contains input).isScalar = true := by
  unfold Lists.contains
  split <;> rfl

theorem isScalar_count (input : Node) : (Lists.count input).isScalar = true := by
  cases input <;> rfl

/-- The choice between two branches returns one of them, or `null`. -/
theorem tame_choose : (pure Logic.choose).Tame where
  blind _ _ _ _ _ := rfl
  drawn scope input := by
    cases input with
    | mapping entries =>
        simp only [pure, Logic.choose]
        generalize (if ((Table.get? entries "condition").map Node.isTrue).getD false = true then
          "then" else "else") = key
        cases found : Table.get? entries key with
        | none => exact .inl rfl
        | some branch => exact .inr (.inl ⟨entries, key, rfl, found⟩)
    | _ => exact .inl rfl

/-- A read of the store returns a stored value, or `null`. -/
theorem tame_stored : stored.Tame where
  blind _ _ _ _ _ := rfl
  drawn scope input := by
    unfold stored
    cases storedKey? input with
    | none => exact .inl rfl
    | some key =>
        cases found : Table.get? scope.stored key with
        | none => exact .inl (by simp [found, Node.ofOption, Node.isScalar])
        | some value => exact .inr (.inr ⟨key, by simp [found, Node.ofOption]⟩)

theorem tame_of_mem_arithmetic : ∀ entry ∈ Arithmetic.table, entry.2.Tame := by
  have each : ∀ step, (pure (Arithmetic.combine step)).Tame :=
    fun step => tame_pure (isScalar_combine step)
  simp only [Arithmetic.table, List.forall_mem_cons]
  exact ⟨each _, each _, each _, each _, each _, each _, each _, nofun⟩

theorem tame_of_mem_logic : ∀ entry ∈ Logic.table, entry.2.Tame := by
  have compare : ∀ holds, (pure (Logic.compare holds)).Tame :=
    fun holds => tame_pure (isScalar_compare holds)
  simp only [Logic.table, List.forall_mem_cons]
  exact ⟨tame_pure fun _ => isScalar_ofBool? _, tame_pure fun _ => isScalar_ofBool? _,
    tame_pure fun _ => rfl, tame_pure fun _ => rfl, tame_pure fun _ => rfl,
    compare _, compare _, compare _, compare _, tame_choose, nofun⟩

theorem tame_of_mem_words : ∀ entry ∈ Words.table, entry.2.Tame := by
  have onText : ∀ {f : String → Node}, (∀ text, (f text).isScalar = true) →
      (pure (Words.onText f)).Tame :=
    fun scalar => tame_pure (isScalar_onText scalar)
  simp only [Words.table, List.forall_mem_cons]
  exact ⟨onText fun _ => rfl, onText fun _ => rfl, onText fun _ => rfl, onText fun _ => rfl,
    tame_pure fun _ => rfl, tame_pure isScalar_wordsIndexOf, tame_pure isScalar_substring, nofun⟩

theorem tame_of_mem_lists : ∀ entry ∈ Lists.table, entry.2.Tame := by
  simp only [Lists.table, List.forall_mem_cons]
  exact ⟨tame_pure isScalar_listsIndexOf, tame_pure isScalar_contains, tame_pure isScalar_count,
    nofun⟩

/-- Every built-in operator is tame. -/
theorem tame_of_mem_builtin : ∀ entry ∈ builtin, entry.2.Tame := by
  simp only [builtin, List.forall_mem_append]
  refine ⟨⟨⟨⟨tame_of_mem_arithmetic, tame_of_mem_logic⟩, tame_of_mem_words⟩, tame_of_mem_lists⟩, ?_⟩
  intro entry member
  obtain rfl := List.mem_singleton.mp member
  exact tame_stored

/-- The operator sees its input and the store alone: neither the variables nor the loop row have a
say in what it returns. -/
def Detached (operator : Operator) : Prop :=
  ∀ (scope other : Scope) (input : Node), scope.stored = other.stored →
    operator scope input = operator other input

theorem detached_pure (f : Node → Node) : (pure f).Detached :=
  fun _ _ _ _ => rfl

theorem detached_stored : stored.Detached := by
  intro scope other input sameStore
  rw [stored, stored, sameStore]

/-- No built-in operator sees the variables or the loop row. -/
theorem detached_of_mem_builtin : ∀ entry ∈ builtin, entry.2.Detached := by
  simp only [builtin, Arithmetic.table, Logic.table, Words.table, Lists.table,
    List.forall_mem_append, List.forall_mem_cons, detached_pure, detached_stored,
    List.not_mem_nil, false_implies, implies_true, and_self]

end Operator
end Storyboard
