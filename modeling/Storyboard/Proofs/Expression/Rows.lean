import Storyboard.Proofs.Expression.Reads
import Storyboard.Proofs.Text.Replacement

/-!
# Evaluating in a loop row

A loop row differs from the context around it in the loop position alone, and the position is
seen by the paths of reads alone.  So a node has in a row the value that the node with the
position written into these paths has outside of it.
-/

namespace Storyboard
namespace Evaluator

/-- In a loop row the position is written into a path from left to right where the placeholder
stands. -/
theorem replaced_substitute
    (evaluator : Evaluator)
    (position : Nat)
    (path : String) :
    Text.Replaced evaluator.placeholder.toList (Decimal.natChars position) path.toList
      (evaluator.substitute (some position) path).toList := by
  have replaced := Text.replaced_iff.mpr
    (Eq.refl (evaluator.substitute (some position) path))
  rwa [String.toList_ofList] at replaced

/-- A path in which the placeholder does not stand is the same in every row. -/
theorem substitute_of_not_occurs
    {evaluator : Evaluator}
    {path : String}
    (absent : ¬ Text.Occurs evaluator.placeholder.toList path.toList)
    (index : Option Nat) :
    evaluator.substitute index path = path := by
  cases index with
  | none => rfl
  | some position => exact Text.replaceAll_of_not_occurs absent _

/-- What a read finds in a scope is what it finds outside of every loop at the path in which the
position was written. -/
theorem look_substitute
    (evaluator : Evaluator)
    (bindings : Variables)
    (index : Option Nat)
    (stored : List (String × Node))
    (path : String) :
    evaluator.look ⟨bindings, index, stored⟩ path =
      evaluator.look ⟨bindings, none, stored⟩ (evaluator.substitute index path) :=
  rfl

/--
A node is evaluated in a loop row as the node is outside of every loop in which the paths were
replaced of the reads that the evaluation performs.  They become the paths in which the position
stands in the place of the placeholder, from left to right, and nothing else changes.  Where the
placeholder stands in none of these paths the node stays as it is, and it has the same value in
all rows and outside of them.
-/
theorem evaluate_in_row
    (evaluator : Evaluator)
    (builtIn : evaluator.operators ⊆ Operator.builtin)
    (context : Context)
    (stored : List (String × Node))
    (position : Nat)
    (node : Node)
    {cache otherCache : Path.Cache}
    (faithful : cache.Faithful)
    (faithfulOther : otherCache.Faithful) :
    let rewritten := evaluator.withPaths (evaluator.substitute (some position)) node
    (∀ path, Text.Replaced evaluator.placeholder.toList (Decimal.natChars position) path.toList
        (evaluator.substitute (some position) path).toList) ∧
      evaluator.reads rewritten =
        (evaluator.reads node).map (evaluator.substitute (some position)) ∧
      (evaluator.evaluate ⟨context.bindings, some position, stored⟩ node cache).1 =
        (evaluator.evaluate ⟨context.bindings, none, stored⟩ rewritten otherCache).1 ∧
      ((∀ path ∈ evaluator.reads node,
          ¬ Text.Occurs evaluator.placeholder.toList path.toList) →
        rewritten = node ∧ ∀ index other,
          (evaluator.evaluate ⟨context.bindings, index, stored⟩ node cache).1 =
            (evaluator.evaluate ⟨context.bindings, other, stored⟩ node otherCache).1) := by
  intro rewritten
  refine ⟨evaluator.replaced_substitute position, readsTo_withPathsTo levelLimit node, ?_, ?_⟩
  · exact fst_evaluate_withPaths builtIn
      (fun path _ => evaluator.look_substitute context.bindings (some position) stored path)
      rfl faithful faithfulOther
  · intro absent
    have fixed : ∀ index, ∀ path ∈ evaluator.reads node, evaluator.substitute index path = path :=
      fun index path isRead => substitute_of_not_occurs (absent path isRead) index
    refine ⟨withPaths_of_fixed (fixed (some position)), fun index other => ?_⟩
    have finds : ∀ path ∈ evaluator.reads node,
        evaluator.look ⟨context.bindings, index, stored⟩ path =
          evaluator.look ⟨context.bindings, other, stored⟩ path := by
      intro path isRead
      rw [look_substitute, fixed index path isRead,
        evaluator.look_substitute context.bindings other, fixed other path isRead]
    exact fst_evaluate_congr builtIn finds rfl faithful faithfulOther

/-- The placeholder overlaps itself in the path of a read.  The position is written into this path,
but neither into a text that is no path nor into a read behind the operator. -/
theorem evaluate_in_row_of_overlap :
    let evaluator : Evaluator := ⟨Operator.builtin, "ii"⟩
    let read (path : String) : Node := .mapping [("var", .string path)]
    let node (path : String) : Node :=
      .mapping [("Array.contains", .sequence [read path, .string "ii"]), ("else", read "ii")]
    let row : Node := .mapping [("1i", .sequence [.string "ii"])]
    let context : Context := { bindings := [("rows", .sequence [.null, row])] }
    evaluator.operators ⊆ Operator.builtin ∧ evaluator.reads (node "rows[ii].iii") =
        ["rows[ii].iii"] ∧
      evaluator.withPaths (evaluator.substitute (some 1)) (node "rows[ii].iii") =
        node "rows[1].1i" ∧
      (evaluator.evaluate ⟨context.bindings, some 1, []⟩ (node "rows[ii].iii") []).1 =
        (evaluator.evaluate ⟨context.bindings, none, []⟩ (node "rows[1].1i") []).1 ∧
      Node.same (evaluator.evaluate ⟨context.bindings, some 1, []⟩ (node "rows[ii].iii") []).1
        (.bool true) = true ∧
      (∀ path ∈ evaluator.reads (node "rows[1].1i"),
        ¬ Text.Occurs evaluator.placeholder.toList path.toList) ∧
      (evaluator.evaluate ⟨context.bindings, some 0, []⟩ (node "rows[1].1i") []).1 =
        (evaluator.evaluate ⟨context.bindings, none, []⟩ (node "rows[1].1i") []).1 := by
  intro evaluator read node row context
  have builtIn : evaluator.operators ⊆ Operator.builtin := fun _ member => member
  have rewritten : evaluator.withPaths (evaluator.substitute (some 1)) (node "rows[ii].iii") =
      node "rows[1].1i" := by cbv
  have absent : ∀ path ∈ evaluator.reads (node "rows[1].1i"),
      ¬ Text.Occurs evaluator.placeholder.toList path.toList := by decide +kernel
  have inRow := fun node => evaluate_in_row evaluator builtIn context [] 1 node
    Path.Cache.faithful_nil Path.Cache.faithful_nil
  have same := (inRow (node "rows[ii].iii")).2.2.1
  rw [rewritten] at same
  exact ⟨builtIn, by decide +kernel, rewritten, same, by decide +kernel, absent,
    ((inRow (node "rows[1].1i")).2.2.2 absent).2 (some 0) none⟩

end Evaluator
end Storyboard
