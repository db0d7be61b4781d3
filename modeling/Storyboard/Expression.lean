import Storyboard.Context.Place
import Storyboard.Path.Cache
import Storyboard.Text.Search

/-!
# Expressions

A node is evaluated against the variables.  A mapping with the single key `var`
and a text under it reads a path; a mapping whose first key is a registered
operator applies that operator to its evaluated input; every other container is
evaluated item by item.  Evaluation has no effect but on the cache of paths, and
whatever goes wrong in it yields `null`.
-/

namespace Storyboard

/-- What an evaluation can see. -/
structure Scope where
  /-- The variables. -/
  bindings : Variables
  /-- The position of the loop row, inside a loop. -/
  index : Option Nat
  /-- The entries of the key-value store. -/
  stored : List (String × Node)

/-- A function from evaluated input to a result. -/
abbrev Operator := Scope → Node → Node

/-- How a node is evaluated. -/
inductive Expression where
  /-- The absent value. -/
  | null
  /-- The value at a path. -/
  | variable (path : String)
  /-- An operator and its input. -/
  | operator (name : String) (input : Node)
  /-- A mapping whose values are evaluated. -/
  | object (entries : List (String × Node))
  /-- A sequence whose items are evaluated. -/
  | array (items : List Node)
  /-- A scalar that stands for itself. -/
  | literal (node : Node)

/-- Whether evaluation does more than copy. -/
def Expression.isEvaluable : Expression → Bool
  | .variable _ => true
  | .operator _ _ => true
  | _ => false

/-- The parts of a session that evaluation depends on. -/
structure Evaluator where
  /-- The registered operators by name. -/
  operators : List (String × Operator)
  /-- The text that stands for the loop position inside paths. -/
  placeholder : String

/-- The key of a read. -/
def variableKey : String := "var"

/-- How many levels of nesting are evaluated. -/
def levelLimit : Nat := 257

namespace Evaluator

/-- How a mapping is evaluated whose form is not that of a read. -/
def classifyEntries (evaluator : Evaluator) : List (String × Node) → Expression
  | [] => .object []
  | (name, input) :: rest =>
      if Table.contains evaluator.operators name then .operator name input
      else .object ((name, input) :: rest)

/-- How a node is evaluated. -/
def classify (evaluator : Evaluator) : Node → Expression
  | .null => .null
  | .mapping [(name, .string path)] =>
      if name = variableKey then .variable path
      else evaluator.classifyEntries [(name, .string path)]
  | .mapping entries => evaluator.classifyEntries entries
  | .sequence items => .array items
  | node => .literal node

/-- Whether a node is a read or the application of an operator. -/
def isExpression (evaluator : Evaluator) (node : Node) : Bool :=
  (evaluator.classify node).isEvaluable

/-- A path with the loop position in the place of the placeholder. -/
def substitute (evaluator : Evaluator) (index : Option Nat) (path : String) : String :=
  match index with
  | some position =>
      Text.replaceAll evaluator.placeholder (String.ofList (Decimal.natChars position)) path
  | none => path

/-- The value at a path; a path that cannot be parsed has none. -/
def read (evaluator : Evaluator) (scope : Scope) (path : String) (cache : Path.Cache) :
    Node × Path.Cache :=
  match cache.parse (evaluator.substitute scope.index path) with
  | (.ok components, cache) => (Variables.read scope.bindings components, cache)
  | (.error _, cache) => (.null, cache)

/-- Evaluate items one after another. -/
def eachItem (evaluate : Node → Path.Cache → Node × Path.Cache) :
    List Node → Path.Cache → List Node × Path.Cache
  | [], cache => ([], cache)
  | item :: rest, cache =>
      let (item, cache) := evaluate item cache
      let (rest, cache) := eachItem evaluate rest cache
      (item :: rest, cache)

/-- Evaluate the values of entries one after another. -/
def eachEntry (evaluate : Node → Path.Cache → Node × Path.Cache) :
    List (String × Node) → Path.Cache → List (String × Node) × Path.Cache
  | [], cache => ([], cache)
  | (key, value) :: rest, cache =>
      let (value, cache) := evaluate value cache
      let (rest, cache) := eachEntry evaluate rest cache
      ((key, value) :: rest, cache)

/-- Evaluate a node down to a number of levels; what lies deeper is `null`. -/
def evaluateTo (evaluator : Evaluator) (scope : Scope) :
    Nat → Node → Path.Cache → Node × Path.Cache
  | 0, _, cache => (.null, cache)
  | levels + 1, node, cache =>
      match evaluator.classify node with
      | .null => (.null, cache)
      | .variable path => evaluator.read scope path cache
      | .operator name input =>
          let (input, cache) := evaluateTo evaluator scope levels input cache
          match Table.get? evaluator.operators name with
          | some operator => (operator scope input, cache)
          | none => (.null, cache)
      | .object entries =>
          let (entries, cache) := eachEntry (evaluateTo evaluator scope levels) entries cache
          (.mapping entries, cache)
      | .array items =>
          let (items, cache) := eachItem (evaluateTo evaluator scope levels) items cache
          (.sequence items, cache)
      | .literal node => (node, cache)

/-- Evaluate a node. -/
def evaluate (evaluator : Evaluator) (scope : Scope) (node : Node) (cache : Path.Cache) :
    Node × Path.Cache :=
  evaluator.evaluateTo scope levelLimit node cache

/-- Evaluate the modifiers among some nodes: the mappings with a single key, as names and values. -/
def modifiers (evaluator : Evaluator) (scope : Scope) :
    List Node → Path.Cache → List (String × Node) × Path.Cache
  | [], cache => ([], cache)
  | .mapping [(name, value)] :: rest, cache =>
      let (value, cache) := evaluator.evaluate scope value cache
      let (rest, cache) := modifiers evaluator scope rest cache
      ((name, value) :: rest, cache)
  | _ :: rest, cache => modifiers evaluator scope rest cache

end Evaluator
end Storyboard
