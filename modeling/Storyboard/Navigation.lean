/-!
# Navigation

The root screen and the screens that were opened above it.
-/

namespace Storyboard

/-- The root screen and the stack of screens above it. -/
structure Navigation where
  /-- The root screen, once there is one. -/
  root : Option String := none
  /-- The screens above the root, the top one last. -/
  stack : List String := []
  deriving DecidableEq, Inhabited

namespace Navigation

/-- Make a screen the root, with nothing above it. -/
def setRoot (_ : Navigation) (screen : String) : Navigation := ⟨some screen, []⟩

/-- Open a screen. -/
def push (navigation : Navigation) (screen : String) : Navigation :=
  { navigation with stack := navigation.stack ++ [screen] }

/-- Close the top screen; the root stays. -/
def pop (navigation : Navigation) : Navigation :=
  { navigation with stack := navigation.stack.dropLast }

/-- Close every screen above the root. -/
def popToRoot (navigation : Navigation) : Navigation :=
  { navigation with stack := [] }

/-- The screen in front: the last one opened, or the root. -/
def top? (navigation : Navigation) : Option String :=
  navigation.stack.getLast?.or navigation.root

@[simp] theorem stack_push (navigation : Navigation) (screen : String) :
    (navigation.push screen).stack = navigation.stack ++ [screen] := rfl

@[simp] theorem root_push (navigation : Navigation) (screen : String) :
    (navigation.push screen).root = navigation.root := rfl

@[simp] theorem root_pop (navigation : Navigation) :
    navigation.pop.root = navigation.root := rfl

@[simp] theorem root_popToRoot (navigation : Navigation) :
    navigation.popToRoot.root = navigation.root := rfl

/-- Closing a screen that was just opened leaves everything as it was. -/
@[simp] theorem pop_push (navigation : Navigation) (screen : String) :
    (navigation.push screen).pop = navigation := by
  cases navigation
  simp [push, pop]

end Navigation
end Storyboard
