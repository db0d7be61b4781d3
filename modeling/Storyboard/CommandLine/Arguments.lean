/-!
# Arguments

The command line has three commands: `run`, `eval` and `check`.  Options may stand
anywhere after the command; after `--` every argument is an operand.
-/

namespace Storyboard
namespace CommandLine

/-- What the program is asked to do. -/
inductive Invocation where
  /-- Start an app, perhaps handle an event, and show the state. -/
  | run (app : String) (event : Option String) (noWait : Bool)
  /-- Start an app and evaluate an expression. -/
  | eval (app : String) (expression : String) (compact : Bool)
  /-- Check an app. -/
  | check (app : String)
  /-- Show the version. -/
  | version
  /-- Show how the program is used. -/
  | help
  deriving DecidableEq

/-- The arguments of a command, sorted. -/
structure Sorted where
  /-- The operands in order. -/
  operands : List String := []
  /-- The value of the option with a value. -/
  value : Option String := none
  /-- Whether the flag is given. -/
  flag : Bool := false
  /-- Whether help is asked for. -/
  help : Bool := false

/-- The options of a command: at most one with a value, and one flag. -/
structure Options where
  /-- The short and the long name of the option with a value. -/
  valued : Option (Char × String)
  /-- The name of the flag. -/
  flag : Option String

/-- What an argument is, between options and operands. -/
inductive Kind where
  /-- The end of the options. -/
  | close
  /-- The flag. -/
  | flag
  /-- A wish for help. -/
  | help
  /-- The option with a value that is the next argument. -/
  | awaits
  /-- The option with its value. -/
  | value (text : String)
  /-- An operand. -/
  | operand (text : String)
  /-- Anything else. -/
  | unknown

/-- A value after an equals sign, or the text itself. -/
def afterEquals : List Char → List Char
  | '=' :: rest => rest
  | text => text

/-- The kind of a long option. -/
def longKind (options : Options) (body : List Char) : Kind :=
  let name := String.ofList (body.takeWhile (· != '='))
  let rest := body.dropWhile (· != '=')
  if name = "help" ∧ rest = [] then .help
  else if options.flag = some name then if rest = [] then .flag else .unknown
  else if options.valued.map Prod.snd = some name then
    if rest = [] then .awaits else .value (String.ofList (rest.drop 1))
  else .unknown

/-- The kind of a short option. -/
def shortKind (options : Options) (letter : Char) (rest : List Char) : Kind :=
  if letter = 'h' then .help
  else if options.valued.map Prod.fst = some letter then
    if rest = [] then .awaits else .value (String.ofList (afterEquals rest))
  else .unknown

/-- The kind of an argument. -/
def kindOf (options : Options) (argument : String) : Kind :=
  match argument.toList with
  | ['-', '-'] => .close
  | '-' :: '-' :: body => longKind options body
  | '-' :: letter :: rest => shortKind options letter rest
  | _ => .operand argument

/-- Whether an argument can be the value of the option before it. -/
def isValue (argument : String) : Bool :=
  match argument.toList with
  | '-' :: _ :: _ => false
  | _ => true

/-- Sort the arguments of a command; nothing is returned if one is out of place. -/
def sort (options : Options) : Sorted → List String → Option Sorted
  | sorted, [] => some sorted
  | sorted, argument :: rest =>
      match kindOf options argument with
      | .close => some { sorted with operands := sorted.operands ++ rest }
      | .flag => if sorted.flag then none else sort options { sorted with flag := true } rest
      | .help => some { sorted with help := true }
      | .awaits =>
          match rest with
          | [] => none
          | value :: rest =>
              if sorted.value.isSome || !isValue value then none
              else sort options { sorted with value := some value } rest
      | .value text =>
          if sorted.value.isSome then none
          else sort options { sorted with value := some text } rest
      | .operand text => sort options { sorted with operands := sorted.operands ++ [text] } rest
      | .unknown => none

/-- Sort the arguments of a command and make an invocation of them; the first operand is the path
of a file and must not be empty. -/
def invoke (options : Options) (arguments : List String)
    (make : String → List String → Sorted → Option Invocation) : Option Invocation :=
  match sort options {} arguments with
  | none => none
  | some sorted =>
      if sorted.help then some .help
      else
        match sorted.operands with
        | [] => none
        | app :: rest => if app = "" then none else make app rest sorted

/-- What the arguments ask for; nothing is returned if they make no sense. -/
def parse : List String → Option Invocation
  | [] => none
  | "run" :: arguments =>
      invoke ⟨some ('e', "event"), some "no-wait"⟩ arguments fun app rest sorted =>
        if rest = [] then some (.run app sorted.value sorted.flag) else none
  | "eval" :: arguments =>
      invoke ⟨none, some "compact"⟩ arguments fun app rest sorted =>
        match rest with
        | [expression] => some (.eval app expression sorted.flag)
        | _ => none
  | "check" :: arguments =>
      invoke ⟨none, none⟩ arguments fun app rest _ =>
        if rest = [] then some (.check app) else none
  | "help" :: _ => some .help
  | argument :: _ =>
      if argument = "--version" ∨ argument = "-V" then some .version
      else if argument = "--help" ∨ argument = "-h" then some .help
      else none

end CommandLine
end Storyboard
