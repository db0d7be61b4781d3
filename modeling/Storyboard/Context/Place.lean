import Storyboard.Context
import Storyboard.Path.Access

/-!
# Places in the variables

A path from a variable on is read and written.  A write below a variable rebuilds
its value and stores it at once, so that it is one change of one variable or none.
-/

namespace Storyboard
namespace Variables

/-- The value at a path, if there is one. -/
def walk? (bindings : Variables) : Path → Option Node
  | [] => none
  | base :: rest =>
      match base.name? with
      | none => none
      | some name => (Table.get? bindings name).bind (Path.walk? rest)

/-- The value at a path; where there is none, `null`. -/
def read (bindings : Variables) (path : Path) : Node :=
  Node.ofOption (bindings.walk? path)

/-- The one update that writes a value at a path. -/
def place (bindings : Variables) (value : Node) : Path → Except PathError Update
  | [] => .error .empty
  | base :: rest =>
      match base.name? with
      | none => .error .empty
      | some name =>
          match rest with
          | [] => .ok ⟨name, some value⟩
          | rest =>
              match Path.modify value rest (Path.ground rest (Table.get? bindings name)) with
              | .ok node => .ok ⟨name, some node⟩
              | .error error => .error error

end Variables

namespace Context

/-- Write a value at a path.  A write that fails leaves the context as it is. -/
def write (bound : Nat) (path : Path) (value : Node) (context : Context) :
    Option (Except PathError Unit × Context) :=
  match context.bindings.place value path with
  | .ok update => (context.update bound update).map fun context => (.ok (), context)
  | .error error => some (.error error, context)

end Context
end Storyboard
