import Storyboard.Proofs.Expression.Meaning
import Storyboard.Proofs.Operator.Tame

/-!
# What an expression refers to

A node mentions the variables that the reads among its parts start from.  Its meaning
depends on the values of these variables alone, and what the meaning is made of comes
from them, from the store, and from the literals of the node.
-/

namespace Storyboard

namespace Evaluator

/-- The variable that a path given as text starts from. -/
def base? (evaluator : Evaluator) (index : Option Nat) (path : String) : Option String :=
  match Path.parse (evaluator.substitute index path) with
  | .ok (base :: _) => base.name?
  | _ => none

/-- The variable that a node reads, where it has the form of a read. -/
def readName? (evaluator : Evaluator) (index : Option Nat) : Node → Option String
  | .mapping entries => (readPath? entries).bind (evaluator.base? index)
  | _ => none

/-- The variables that the reads among the parts of a node start from. -/
def mentions (evaluator : Evaluator) (index : Option Nat) (node : Node) : List String :=
  node.parts.filterMap (evaluator.readName? index)

/-- Whether the path of a read would have to be computed: under the only key `var` stands an
expression. -/
def computesPath (evaluator : Evaluator) : Node → Bool
  | .mapping [(name, path)] => name == variableKey && evaluator.isExpression path
  | _ => false

/-- No part of the node has a key twice or computes a path. -/
def Proper (evaluator : Evaluator) (node : Node) : Prop :=
  node.All fun part =>
    Table.Distinct (Path.entriesOf part) ∧ evaluator.computesPath part = false

/-- No part of the node is an expression. -/
def Plain (evaluator : Evaluator) (node : Node) : Prop :=
  node.All fun part =>
    (Table.Distinct (Path.entriesOf part) ∧ evaluator.computesPath part = false) ∧
      evaluator.isExpression part = false

instance (evaluator : Evaluator) : DecidablePred evaluator.Proper :=
  fun node => inferInstanceAs (Decidable (node.All fun _ => _ ∧ _))

instance (evaluator : Evaluator) : DecidablePred evaluator.Plain :=
  fun node => inferInstanceAs (Decidable (node.All fun _ => (_ ∧ _) ∧ _))

theorem mem_mentions_iff
    {evaluator : Evaluator}
    {index : Option Nat}
    {node : Node}
    {name : String} :
    name ∈ evaluator.mentions index node ↔
      ∃ part ∈ node.parts, evaluator.readName? index part = some name :=
  List.mem_filterMap

/-- What a part mentions, the whole mentions. -/
theorem mem_mentions_of_mem_parts
    {evaluator : Evaluator}
    {index : Option Nat}
    {node part : Node}
    (isPart : part ∈ node.parts)
    {name : String}
    (member : name ∈ evaluator.mentions index part) :
    name ∈ evaluator.mentions index node := by
  obtain ⟨inner, isInner, reads⟩ := mem_mentions_iff.mp member
  exact mem_mentions_iff.mpr ⟨inner, Node.mem_parts_trans isPart isInner, reads⟩

theorem mem_mentions_of_read
    {evaluator : Evaluator}
    {index : Option Nat}
    {entries : List (String × Node)}
    {path name : String}
    (reads : readPath? entries = some path)
    (base : evaluator.base? index path = some name) :
    name ∈ evaluator.mentions index (.mapping entries) := by
  refine mem_mentions_iff.mpr ⟨_, Node.mem_parts_self _, ?_⟩
  rw [readName?, reads]
  exact base

/-- Nodes that are structurally equal mention the same variables. -/
theorem mem_mentions_of_same
    {evaluator : Evaluator}
    {index : Option Nat}
    {node other : Node}
    (equal : Node.same node other = true)
    (proper : evaluator.Proper node)
    (properOther : evaluator.Proper other)
    {name : String}
    (member : name ∈ evaluator.mentions index other) :
    name ∈ evaluator.mentions index node := by
  obtain ⟨part, isPart, reads⟩ := mem_mentions_iff.mp member
  refine mem_mentions_iff.mpr ⟨part, ?_, reads⟩
  cases part with
  | mapping entries =>
      obtain ⟨path, isRead, -⟩ := Option.bind_eq_some_iff.mp reads
      obtain rfl := (readPath?_eq_some_iff entries path).mp isRead
      exact Node.single_mem_parts_of_same equal (proper.mono fun _ both => both.1)
        (properOther.mono fun _ both => both.1) isPart
  | _ => cases reads

theorem Plain.proper
    {evaluator : Evaluator}
    {node : Node}
    (plain : evaluator.Plain node) :
    evaluator.Proper node :=
  plain.mono fun _ both => both.1

/-! ## The meaning depends on what is mentioned -/

/-- A mapping is an expression when it is a read or its first key is the name of an operator. -/
theorem isExpression_mapping
    (evaluator : Evaluator)
    (entries : List (String × Node)) :
    evaluator.isExpression (.mapping entries) =
      ((readPath? entries).isSome ||
        match entries with
        | [] => false
        | (name, _) :: _ => Table.contains evaluator.operators name) := by
  rw [isExpression, classify_mapping]
  cases readPath? entries with
  | some path => rfl
  | none =>
      cases entries with
      | nil => rfl
      | cons entry rest =>
          cases known : Table.contains evaluator.operators entry.1 <;>
            simp [classifyEntries, known, Expression.isEvaluable]

/-- A read finds the same where the variable that it starts from has the same value. -/
theorem look_congr
    (evaluator : Evaluator)
    {bindings others : Variables}
    (index : Option Nat)
    (stored : List (String × Node))
    {path : String}
    (agree : ∀ name, evaluator.base? index path = some name →
      Table.get? bindings name = Table.get? others name) :
    evaluator.look ⟨bindings, index, stored⟩ path =
      evaluator.look ⟨others, index, stored⟩ path := by
  unfold base? at agree
  unfold look
  revert agree
  match Path.parse (evaluator.substitute index path) with
  | .error _ => exact fun _ => rfl
  | .ok [] => exact fun _ => rfl
  | .ok (base :: rest) =>
      intro agree
      simp only [Variables.read, Variables.walk?]
      cases named : base.name? with
      | none => rfl
      | some name => simp only [agree name named]

section Mentions

variable {evaluator : Evaluator}
  (tame : ∀ name operator, Table.get? evaluator.operators name = some operator → operator.Tame)

include tame in
/-- The meaning of a node depends on nothing but the values of the variables that it mentions. -/
theorem meaningTo_congr
    {bindings others : Variables}
    (index : Option Nat)
    (stored : List (String × Node))
    (levels : Nat)
    {node : Node}
    (agree : ∀ name ∈ evaluator.mentions index node,
      Table.get? bindings name = Table.get? others name) :
    evaluator.meaningTo ⟨bindings, index, stored⟩ levels node =
      evaluator.meaningTo ⟨others, index, stored⟩ levels node := by
  induction levels generalizing node with
  | zero => rfl
  | succ levels inductionHypothesis =>
      have part : ∀ inner ∈ node.parts,
          evaluator.meaningTo ⟨bindings, index, stored⟩ levels inner =
            evaluator.meaningTo ⟨others, index, stored⟩ levels inner :=
        fun inner isPart => inductionHypothesis fun name member =>
          agree name (mem_mentions_of_mem_parts isPart member)
      cases node with
      | sequence items =>
          rw [meaningTo_sequence, meaningTo_sequence]
          refine congrArg Node.sequence (List.map_congr_left fun item member => ?_)
          exact part item (Node.mem_parts_of_mem_sequence member)
      | mapping entries =>
          cases reads : readPath? entries with
          | some path =>
              rw [meaningTo_of_read _ _ reads, meaningTo_of_read _ _ reads]
              exact look_congr evaluator index stored fun name base =>
                agree name (mem_mentions_of_read reads base)
          | none =>
              cases entries with
              | nil => rfl
              | cons entry rest =>
                  obtain ⟨name, input⟩ := entry
                  cases known : Table.get? evaluator.operators name with
                  | some operator =>
                      rw [meaningTo_of_operator _ _ reads known,
                        meaningTo_of_operator _ _ reads known,
                        part input (Node.mem_parts_of_mem_mapping List.mem_cons_self)]
                      exact (tame name operator known).blind bindings others index stored _
                  | none =>
                      rw [meaningTo_of_object _ _ reads known, meaningTo_of_object _ _ reads known]
                      refine congrArg Node.mapping (List.map_congr_left fun entry member => ?_)
                      rw [part entry.2 (Node.mem_parts_of_mem_mapping member)]
      | _ => rfl

end Mentions

/-! ## What a meaning is made of -/

/-- A node that is no expression has a text as its meaning only when it is that text. -/
theorem eq_string_of_meaningTo
    {evaluator : Evaluator}
    {scope : Scope}
    {levels : Nat}
    {node : Node}
    (literal : evaluator.isExpression node = false)
    {text : String}
    (isText : evaluator.meaningTo scope levels node = .string text) :
    node = .string text := by
  cases levels with
  | zero => cases isText
  | succ levels =>
      cases node with
      | sequence items =>
          rw [meaningTo_sequence] at isText
          cases isText
      | mapping entries =>
          cases entries with
          | nil => cases isText
          | cons entry rest =>
              obtain ⟨name, input⟩ := entry
              simp only [isExpression_mapping, Bool.or_eq_false_iff, Option.isSome_eq_false_iff,
                Option.isNone_iff_eq_none, Table.contains] at literal
              rw [meaningTo_of_object scope levels literal.1 literal.2] at isText
              cases isText
      | _ => exact isText

/-- The meaning of a node that is no expression is none either. -/
theorem isExpression_meaningTo
    {evaluator : Evaluator}
    (scope : Scope)
    (levels : Nat)
    {node : Node}
    (computed : evaluator.computesPath node = false)
    (literal : evaluator.isExpression node = false) :
    evaluator.isExpression (evaluator.meaningTo scope levels node) = false := by
  cases levels with
  | zero => rfl
  | succ levels =>
      cases node with
      | sequence items =>
          rw [meaningTo_sequence]
          rfl
      | mapping entries =>
          cases entries with
          | nil => exact literal
          | cons entry rest =>
              obtain ⟨name, input⟩ := entry
              simp only [isExpression_mapping, Bool.or_eq_false_iff, Option.isSome_eq_false_iff,
                Option.isNone_iff_eq_none, Table.contains] at literal
              obtain ⟨noRead, unknown⟩ := literal
              rw [meaningTo_of_object scope levels noRead unknown, isExpression_mapping,
                Bool.or_eq_false_iff]
              refine ⟨?_, by simp [mapValues, Table.contains, unknown]⟩
              cases reads : readPath?
                  (mapValues (evaluator.meaningTo scope levels) ((name, input) :: rest)) with
              | none => rfl
              | some path =>
                  have form := (readPath?_eq_some_iff _ path).mp reads
                  simp only [mapValues, List.map_cons, List.cons.injEq, Prod.mk.injEq,
                    List.map_eq_nil_iff] at form
                  obtain ⟨⟨rfl, isText⟩, rfl⟩ := form
                  have fixed : evaluator.isExpression input = false := by
                    simpa [computesPath] using computed
                  obtain rfl := eq_string_of_meaningTo fixed isText
                  simp [readPath?] at noRead
      | _ => exact literal

/-- Evaluation makes no path that would have to be computed. -/
theorem computesPath_mapValues
    {evaluator : Evaluator}
    (scope : Scope)
    (levels : Nat)
    {entries : List (String × Node)}
    (proper : evaluator.Proper (.mapping entries)) :
    evaluator.computesPath (.mapping (mapValues (evaluator.meaningTo scope levels) entries)) =
      false := by
  obtain ⟨⟨-, computed⟩, values⟩ := Node.all_mapping_iff.mp proper
  match entries, computed, values with
  | [], _, _ => rfl
  | [(name, path)], computed, values =>
      by_cases isVariable : name = variableKey
      · have literal : evaluator.isExpression path = false := by
          simpa [computesPath, isVariable] using computed
        have still := isExpression_meaningTo scope levels
          (values (name, path) List.mem_cons_self).self.2 literal
        simp [mapValues, computesPath, still]
      · simp [mapValues, computesPath, isVariable]
  | _ :: _ :: _, _, _ => rfl

/-- A property that evaluation hands on: all nodes have it but those that must come from somewhere
else, the expressions. -/
structure Inherited (evaluator : Evaluator) (property : Node → Prop) : Prop where
  /-- Scalars have the property. -/
  scalar : ∀ node, node.isScalar = true → property node
  /-- Sequences have the property. -/
  sequence : ∀ items, property (.sequence items)
  /-- Mappings that are no expressions have the property. -/
  mapping : ∀ entries, Table.Distinct entries → evaluator.computesPath (.mapping entries) = false →
    evaluator.isExpression (.mapping entries) = false → property (.mapping entries)

/-- A read finds nothing, or a part of the variable that it starts from. -/
theorem look_cases
    (evaluator : Evaluator)
    (scope : Scope)
    (path : String) :
    evaluator.look scope path = .null ∨
    ∃ name value, evaluator.base? scope.index path = some name ∧
      Table.get? scope.bindings name = some value ∧
      evaluator.look scope path ∈ value.parts := by
  unfold base? look
  match Path.parse (evaluator.substitute scope.index path) with
  | .error _ => exact .inl rfl
  | .ok [] => exact .inl rfl
  | .ok (base :: rest) =>
      simp only [Variables.read, Variables.walk?]
      cases base.name? with
      | none => exact .inl rfl
      | some name =>
          cases found : Table.get? scope.bindings name with
          | none => exact .inl (by simp [found, Node.ofOption])
          | some value =>
              cases inner : Path.walk? rest value with
              | none => exact .inl (by simp [found, inner, Node.ofOption])
              | some node =>
                  refine .inr ⟨name, value, rfl, found, ?_⟩
                  simpa [found, inner, Node.ofOption] using Node.mem_parts_of_walk? inner

section Inherited

variable {evaluator : Evaluator} {property : Node → Prop}
  (inherited : evaluator.Inherited property)

include inherited

theorem Inherited.all_of_isScalar
    {node : Node}
    (scalar : node.isScalar = true) :
    node.All property :=
  Node.all_of_isScalar scalar (inherited.scalar node scalar)

/-- What a read finds has the property in all parts when the variable has it that the path starts
from. -/
theorem Inherited.all_look
    (scope : Scope)
    {path : String}
    (read : ∀ name, evaluator.base? scope.index path = some name → ∀ value,
      Table.get? scope.bindings name = some value → value.All property) :
    (evaluator.look scope path).All property := by
  rcases evaluator.look_cases scope path with missing | ⟨name, value, base, found, isPart⟩
  · rw [missing]
    exact inherited.all_of_isScalar rfl
  · exact (read name base value found).part isPart

/-- What a tame operator returns has the property in all parts when its input has it and all that is
stored. -/
theorem Inherited.all_operator
    {operator : Operator}
    (tame : operator.Tame)
    (scope : Scope)
    (store : ∀ key value, Table.get? scope.stored key = some value → value.All property)
    {input : Node}
    (all : input.All property) :
    (operator scope input).All property := by
  rcases tame.drawn scope input with scalar | ⟨entries, key, isMapping, found⟩ | ⟨key, found⟩
  · exact inherited.all_of_isScalar scalar
  · rw [isMapping, Node.all_mapping_iff] at all
    exact all.2 _ (Table.mem_of_get?_eq_some found)
  · exact store key _ found

/-- A mapping that is no expression still has the property once its values have been evaluated. -/
theorem Inherited.object
    (scope : Scope)
    (levels : Nat)
    {name : String}
    {input : Node}
    {rest : List (String × Node)}
    (proper : evaluator.Proper (.mapping ((name, input) :: rest)))
    (noRead : readPath? ((name, input) :: rest) = none)
    (unknown : Table.get? evaluator.operators name = none) :
    property (.mapping (mapValues (evaluator.meaningTo scope levels) ((name, input) :: rest))) := by
  obtain ⟨distinct, computed⟩ := proper.self
  have literal : evaluator.isExpression (.mapping ((name, input) :: rest)) = false := by
    rw [isExpression_mapping, noRead]
    simp [Table.contains, unknown]
  have still := isExpression_meaningTo scope (levels + 1) computed literal
  rw [meaningTo_of_object _ _ noRead unknown] at still
  refine inherited.mapping _ ?_ (computesPath_mapValues scope levels proper) still
  rw [Table.Distinct, keys_mapValues]
  exact distinct

/-- A property that evaluation hands on holds of all parts of a meaning when it holds of all parts of
the stored values and of the variables that the node mentions. -/
theorem Inherited.all_meaningTo
    (tame : ∀ name operator, Table.get? evaluator.operators name = some operator → operator.Tame)
    (scope : Scope)
    (store : ∀ key value, Table.get? scope.stored key = some value → value.All property)
    (levels : Nat)
    {node : Node}
    (proper : evaluator.Proper node)
    (read : ∀ name ∈ evaluator.mentions scope.index node, ∀ value,
      Table.get? scope.bindings name = some value → value.All property) :
    (evaluator.meaningTo scope levels node).All property := by
  induction levels generalizing node with
  | zero => exact inherited.all_of_isScalar rfl
  | succ levels inductionHypothesis =>
      have part : ∀ inner ∈ node.parts, (evaluator.meaningTo scope levels inner).All property :=
        fun inner isPart => inductionHypothesis (proper.part isPart) fun name member =>
          read name (mem_mentions_of_mem_parts isPart member)
      cases node with
      | sequence items =>
          rw [meaningTo_sequence, Node.all_sequence_iff]
          refine ⟨inherited.sequence _, fun value member => ?_⟩
          obtain ⟨item, isItem, rfl⟩ := List.mem_map.mp member
          exact part item (Node.mem_parts_of_mem_sequence isItem)
      | mapping entries =>
          cases reads : readPath? entries with
          | some path =>
              rw [meaningTo_of_read _ _ reads]
              exact inherited.all_look scope fun name base =>
                read name (mem_mentions_of_read reads base)
          | none =>
              cases entries with
              | nil =>
                  exact Node.all_mapping_iff.mpr
                    ⟨inherited.mapping [] List.nodup_nil rfl rfl, nofun⟩
              | cons entry rest =>
                  obtain ⟨name, input⟩ := entry
                  cases known : Table.get? evaluator.operators name with
                  | some operator =>
                      rw [meaningTo_of_operator _ _ reads known]
                      exact inherited.all_operator (tame name operator known) scope store
                        (part input (Node.mem_parts_of_mem_mapping List.mem_cons_self))
                  | none =>
                      rw [meaningTo_of_object _ _ reads known, Node.all_mapping_iff]
                      refine ⟨inherited.object scope levels proper reads known,
                        fun entry member => ?_⟩
                      obtain ⟨entry, isEntry, rfl⟩ := List.mem_map.mp member
                      exact part entry.2 (Node.mem_parts_of_mem_mapping isEntry)
      | _ => exact inherited.all_of_isScalar rfl

end Inherited

/-! ## Meanings of expressions that refer to others -/

theorem distinct_entriesOf_of_isScalar
    {node : Node}
    (scalar : node.isScalar = true) :
    Table.Distinct (Path.entriesOf node) := by
  cases node <;> first | exact List.nodup_nil | cases scalar

theorem computesPath_of_isScalar
    (evaluator : Evaluator)
    {node : Node}
    (scalar : node.isScalar = true) :
    evaluator.computesPath node = false := by
  cases node <;> first | rfl | cases scalar

theorem isExpression_of_isScalar
    (evaluator : Evaluator)
    {node : Node}
    (scalar : node.isScalar = true) :
    evaluator.isExpression node = false := by
  cases node <;> first | rfl | cases scalar

/-- A read is an expression. -/
theorem isExpression_of_readName?
    {evaluator : Evaluator}
    {index : Option Nat}
    {node : Node}
    {name : String}
    (reads : evaluator.readName? index node = some name) :
    evaluator.isExpression node = true := by
  cases node with
  | mapping entries =>
      obtain ⟨path, isRead, -⟩ := Option.bind_eq_some_iff.mp reads
      rw [isExpression_mapping, isRead]
      rfl
  | _ => cases reads

/-- A plain node mentions nothing. -/
theorem Plain.not_mem_mentions
    {evaluator : Evaluator}
    {node : Node}
    (plain : evaluator.Plain node)
    (index : Option Nat)
    (name : String) :
    name ∉ evaluator.mentions index node := by
  intro member
  obtain ⟨part, isPart, reads⟩ := mem_mentions_iff.mp member
  have literal := (plain part isPart).2
  rw [isExpression_of_readName? reads] at literal
  cases literal

section Store

variable {evaluator : Evaluator}
  (tame : ∀ name operator, Table.get? evaluator.operators name = some operator → operator.Tame)
  (scope : Scope)
  (store : ∀ entry ∈ scope.stored, evaluator.Plain entry.2)

include tame store in
/-- Where the store is plain, the meaning of a node is plain when all variables are plain that the
node mentions. -/
theorem plain_meaningTo
    (levels : Nat)
    {node : Node}
    (proper : evaluator.Proper node)
    (read : ∀ name ∈ evaluator.mentions scope.index node, ∀ value,
      Table.get? scope.bindings name = some value → evaluator.Plain value) :
    evaluator.Plain (evaluator.meaningTo scope levels node) := by
  have inherited : evaluator.Inherited fun part =>
      (Table.Distinct (Path.entriesOf part) ∧ evaluator.computesPath part = false) ∧
        evaluator.isExpression part = false :=
    { scalar := fun node scalar =>
        ⟨⟨distinct_entriesOf_of_isScalar scalar, evaluator.computesPath_of_isScalar scalar⟩,
          evaluator.isExpression_of_isScalar scalar⟩
      sequence := fun _ => ⟨⟨List.nodup_nil, rfl⟩, rfl⟩
      mapping := fun _ distinct computed literal => ⟨⟨distinct, computed⟩, literal⟩ }
  exact inherited.all_meaningTo tame scope
    (fun _ _ found => store _ (Table.mem_of_get?_eq_some found)) levels proper read

include tame store in
/-- Where the store is plain, the meaning of a node mentions only what is mentioned by the variables
that the node mentions. -/
theorem mentions_meaningTo
    {allowed : String → Prop}
    (levels : Nat)
    {node : Node}
    (proper : evaluator.Proper node)
    (read : ∀ name ∈ evaluator.mentions scope.index node, ∀ value,
      Table.get? scope.bindings name = some value →
      evaluator.Proper value ∧ ∀ other ∈ evaluator.mentions scope.index value, allowed other) :
    evaluator.Proper (evaluator.meaningTo scope levels node) ∧
      ∀ other ∈ evaluator.mentions scope.index (evaluator.meaningTo scope levels node),
        allowed other := by
  have inherited : evaluator.Inherited fun part =>
      (Table.Distinct (Path.entriesOf part) ∧ evaluator.computesPath part = false) ∧
        ∀ other, evaluator.readName? scope.index part = some other → allowed other :=
    { scalar := fun node scalar =>
        ⟨⟨distinct_entriesOf_of_isScalar scalar, evaluator.computesPath_of_isScalar scalar⟩,
          fun _ reads => by
            have expression := isExpression_of_readName? reads
            rw [evaluator.isExpression_of_isScalar scalar] at expression
            cases expression⟩
      sequence := fun _ => ⟨⟨List.nodup_nil, rfl⟩, nofun⟩
      mapping := fun _ distinct computed literal => ⟨⟨distinct, computed⟩, fun _ reads => by
        rw [isExpression_of_readName? reads] at literal
        cases literal⟩ }
  have all := inherited.all_meaningTo tame scope
    (fun key value found => by
      have plain := store _ (Table.mem_of_get?_eq_some found)
      exact fun part isPart => ⟨plain.proper part isPart, fun other reads =>
        absurd (mem_mentions_iff.mpr ⟨part, isPart, reads⟩)
          (plain.not_mem_mentions scope.index other)⟩)
    levels proper
    (fun name member value found => by
      obtain ⟨properValue, within⟩ := read name member value found
      exact fun part isPart => ⟨properValue part isPart, fun other reads =>
        within other (mem_mentions_iff.mpr ⟨part, isPart, reads⟩)⟩)
  refine ⟨all.mono fun _ both => both.1, fun other member => ?_⟩
  obtain ⟨part, isPart, reads⟩ := mem_mentions_iff.mp member
  exact (all part isPart).2 other reads

end Store

end Evaluator
end Storyboard
