import Storyboard.Interpreter

/-!
# Inspection

Nodes, variables and interpreters written out for someone who looks into a running
app: every value with its kind, every text between quotes.
-/

namespace Storyboard
namespace Inspection

/-- Texts with a comma and a space between them. -/
def separated : List (List Char) → List Char
  | [] => []
  | [item] => item
  | item :: rest => item ++ ',' :: ' ' :: separated rest

/-- A named value: the name, a colon and the value. -/
def named (name : String) (value : List Char) : List Char :=
  name.toList ++ ':' :: ' ' :: value

/-- A record: its name and its fields between braces. -/
def record (name : String) (fields : List (List Char)) : List Char :=
  name.toList ++ [' ', '{', ' '] ++ separated fields ++ [' ', '}']

/-- A value between parentheses, after the name of its kind. -/
def tagged (name : String) (value : List Char) : List Char :=
  name.toList ++ '(' :: value ++ [')']

/-- A list between brackets. -/
def listed (items : List (List Char)) : List Char :=
  '[' :: separated items ++ [']']

/-- Entries between braces. -/
def tabled (entries : List (List Char)) : List Char :=
  '{' :: separated entries ++ ['}']

/-- A number. -/
def natural (n : Nat) : List Char := Decimal.natChars n

/-- A number that may be missing. -/
def optional : Option Nat → List Char
  | some n => tagged "Some" (natural n)
  | none => "None".toList

mutual

/-- A node. -/
def node : Node → List Char
  | .null => "Null".toList
  | .bool value => tagged "Bool" (Json.writtenBool value)
  | .number value => tagged "Number" (Decimal.inspection.chars value)
  | .string value => tagged "String" (Text.quoted value)
  | .sequence items => tagged "Sequence" (listed (nodes items))
  | .mapping values => tagged "Mapping" (tabled (entries values))

/-- The items of a sequence. -/
def nodes : List Node → List (List Char)
  | [] => []
  | item :: rest => node item :: nodes rest

/-- The entries of a mapping. -/
def entries : List (String × Node) → List (List Char)
  | [] => []
  | (key, value) :: rest => (Text.quoted key ++ ':' :: ' ' :: node value) :: entries rest

end

/-- The variables as they are seen from a loop row. -/
def context (context : Context) (index : Option Nat) : String :=
  String.ofList (record "Context"
    [named "variables" (tabled (entries context.bindings)),
     named "revision" (natural context.revision),
     named "current_index" (optional index)])

/-- The settings. -/
def settings (settings : Settings) : List Char :=
  record "RuntimeConfig"
    [named "resolve_iteration_cap" (natural settings.iterationCap),
     named "index_placeholder" (Text.quoted settings.indexPlaceholder),
     named "http_error_variable" (Text.quoted settings.errorVariable),
     named "http_response_variable" (Text.quoted settings.responseVariable),
     named "http_timeout_secs" (natural settings.timeoutSeconds)]

/-- The interpreter and the parts of a session that belong to it. -/
def interpreter (interpreter : Interpreter) (session : Session) : String :=
  String.ofList (record "Interpreter"
    [named "config" (settings interpreter.settings),
     named "commands" (listed ((Table.sortedKeys interpreter.commands).map Text.quoted)),
     named "screens" (natural session.screens.length),
     named "http"
       (record "HttpDispatcher" [named "in_flight" (natural session.exchange.inFlight)])])

end Inspection
end Storyboard
