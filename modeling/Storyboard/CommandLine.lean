import Storyboard.CommandLine.Arguments
import Storyboard.Interpreter

/-!
# The command line

What the program does with its arguments and with the files of a directory.  The
files are reached through a record of operations, so that the same text describes
a run on a disk and a run on anything else that keeps files.
-/

namespace Storyboard
namespace CommandLine

/-- Why a file cannot be read. -/
inductive FileError where
  /-- There is no such file. -/
  | missing
  /-- The path leads through a file. -/
  | notDirectory
  /-- The path leads to a directory. -/
  | isDirectory
  /-- Anything else, in words. -/
  | other (text : String)
  deriving DecidableEq, Inhabited

/-- What is said of a file that cannot be read. -/
def FileError.message : FileError → String
  | .missing => "No such file or directory (os error 2)"
  | .notDirectory => "Not a directory (os error 20)"
  | .isDirectory => "Is a directory (os error 21)"
  | .other text => text

/-- The files that a run can reach. -/
structure Files (m : Type → Type) where
  /-- Read the file at a path. -/
  read : String → m (Except FileError String)
  /-- Whether there is anything at a path. -/
  exists? : String → m Bool
  /-- Write the file at a path, and make the directories on the way; whether that succeeds does not
  matter. -/
  write : String → String → m Unit

/-- What a run leaves behind. -/
structure Report where
  /-- The exit status. -/
  status : UInt32
  /-- The output. -/
  output : String := ""
  /-- What is said besides. -/
  remarks : String := ""

/-- The configuration file. -/
structure Config where
  /-- The settings of the session. -/
  settings : Settings := {}
  /-- The file of the key-value store; without one, nothing is stored. -/
  storagePath : Option String := none
  /-- Which messages are shown. -/
  logFilter : Option String := none
  deriving Inhabited

namespace Config

/-- The name of the configuration file. -/
def fileName : String := "tessera.config.json"

/-- A configuration as far as it is given. -/
structure Given where
  /-- See `Config.settings`. -/
  settings : Option Settings := none
  /-- The path, if one is given, even as `null`. -/
  storagePath : Option (Option String) := none
  /-- The filter, if one is given, even as `null`. -/
  logFilter : Option (Option String) := none

/-- The file of the key-value store, where an empty path means the directory itself. -/
def storageFile? (config : Config) : Option String :=
  config.storagePath.map fun path => if path = "" then "." else path

/-- How a configuration is read. -/
def shape : Json.Shape Given where
  fields :=
    [.slot "runtime" (·.settings) (fun given value => { given with settings := some value })
       Settings.reader,
     .slot "storagePath" (·.storagePath)
       (fun given value => { given with storagePath := some value })
       fun _ => Json.optional Json.text,
     .slot "logFilter" (·.logFilter) (fun given value => { given with logFilter := some value })
       fun _ => Json.optional Json.text]
  other _ _ given := Json.passOver given
  positional := true

/-- Read a whole text as a configuration. -/
def parse (text : String) : Except Json.Failure Config :=
  Json.whole
    (shape.read {} (fun given =>
      some ⟨given.settings.getD {}, given.storagePath.join, given.logFilter.join⟩)
      Json.depthLimit) text.toList

end Config

/-- A run that fails with a word on the cause. -/
def failure (text : String) : Report :=
  { status := 1, remarks := "\nError: " ++ text ++ "\n\n" }

/-- A run whose arguments make no sense. -/
def misuse : Report :=
  { status := 2
    remarks := "error: unexpected arguments\n\nUsage: tessera <run|eval|check> <APP> [...]\n" }

/-- How the program is used. -/
def manual : String :=
  "Tessera CLI - run JSON-defined apps headlessly\n\n" ++
  "Usage: tessera <COMMAND>\n\nCommands:\n" ++
  "  run    Launch an app, optionally handle one event, and print the resulting state\n" ++
  "  eval   Launch an app and evaluate one expression against its context\n" ++
  "  check  Validate an app definition\n"

/-- The level of nesting at which a run is given up. -/
def levels : Nat := 1000000

/-- What answers requests where there is no network. -/
def unreachable : Web.Transport := fun _ request =>
  .error (.transport ("error sending request for url (" ++ request.url ++ ")"))

/-- The screens and names of the commands at the top of their events that are not registered. -/
def unknownCommands {α : Type} (commands : List (String × α)) (app : App) :
    List (String × String) :=
  app.screens.flatMap fun screen =>
    let entries : List Node :=
      match screen.onAppear with
      | none => []
      | some (.sequence items) => items
      | some node => [node]
    (entries.filterMap commandParts?).filterMap fun (name, _) =>
      if Table.contains commands name then none else some (screen.id, name)

variable {m : Type → Type} [Monad m]

/-- Read the definition of an app. -/
def loadApp (files : Files m) (path : String) : m (Except String App) := do
  match ← files.read path with
  | .error error =>
      return .error ("Failed to read '" ++ path ++ "': " ++ error.message ++ ": " ++ error.message)
  | .ok text =>
      match App.parse text with
      | .ok app => return .ok app
      | .error _ => return .error "Invalid app definition"

/-- The key-value store that a configuration asks for. -/
def openShelf (files : Files m) (config : Config) : m (Except String Shelf) := do
  match config.storageFile? with
  | none => return .ok {}
  | some path =>
      if ← files.exists? path then
        match ← files.read path with
        | .error _ => return .error "Cannot open storage file"
        | .ok text =>
            match Shelf.fromFile (some text) fun _ => true with
            | .ok shelf => return .ok shelf
            | .error _ => return .error "Cannot open storage file"
      else
        match Shelf.fromFile none fun _ => true with
        | .ok shelf => return .ok shelf
        | .error _ => return .error "Cannot open storage file"

/-- Write the file behind a key-value store, if it was changed. -/
def saveShelf (files : Files m) (config : Config) (shelf : Shelf) : m Unit := do
  match config.storageFile?, shelf.backing with
  | some path, some backing =>
      match backing.content with
      | some text => if 0 < backing.tries then files.write path text
      | none => return ()
  | _, _ => return ()

/-- Start the app at a path, do something with the session, and keep what was stored. -/
def withSession (files : Files m) (config : Config) (path : String)
    (body : Interpreter → Storyboard.Report → Session → Option (Report × Session)) :
    m Report := do
  match ← loadApp files path with
  | .error text => return failure text
  | .ok app =>
      match ← openShelf files config with
      | .error text => return failure text
      | .ok shelf =>
          let interpreter : Interpreter := { settings := config.settings }
          match interpreter.launch levels app { shelf := shelf } with
          | .error error => return failure error.message
          | .ok launched =>
              match launched.bind fun (report, session) => body interpreter report session with
              | none => return { status := 134 }
              | some (report, session) => do
                  saveShelf files config session.shelf
                  return report

/-- The state of a session, and how many requests ended. -/
def stateOf (session : Session) (converged : Bool) (ended : Nat) : Node :=
  .mapping
    [("context", .mapping session.context.bindings),
     ("navigation",
       .mapping
         [("root", .ofOption (session.navigation.root.map .string)),
          ("stack", .sequence (session.navigation.stack.map .string))]),
     ("converged", .bool converged),
     ("completions", .ofNat ended)]

/-- Said when the variables at the start still change after the last pass. -/
def unsettledRemark : String :=
  "⚠️  Initial context did not settle within the iteration cap\n"

/-- Start an app, perhaps handle an event, and show the state. -/
def runApp (files : Files m) (config : Config) (app : String) (event : Option String)
    (noWait : Bool) : m Report := do
  match (event.map Node.parse : Option (Except Json.Failure Node)) with
  | some (.error _) => return failure "Invalid event JSON"
  | parsed =>
      let event : Node := match parsed with
        | some (.ok node) => node
        | _ => .null
      withSession files config app fun interpreter report session => do
        let session ← interpreter.handle none levels event session
        let (ended, session) ←
          if noWait then interpreter.drain levels session
          else interpreter.settle unreachable levels session
        return ({ status := 0
                  output := (stateOf session report.converged ended).renderPretty ++ "\n"
                  remarks := if report.converged then "" else unsettledRemark }, session)

/-- Start an app and evaluate an expression. -/
def evalInApp (files : Files m) (config : Config) (app expression : String) (compact : Bool) :
    m Report := do
  match Node.parse expression with
  | .error _ => return failure "Invalid expression JSON"
  | .ok node =>
      withSession files config app fun interpreter _ session => do
        let (_, session) ← interpreter.settle unreachable levels session
        let (value, session) := session.evaluate interpreter.evaluator none node
        return ({ status := 0
                  output := (if compact then value.render else value.renderPretty) ++ "\n" },
          session)

/-- What is said of an app that was checked. -/
def summary (path : String) (app : App) : String :=
  let count (n : Nat) : String := String.ofList (Decimal.natChars n)
  "✅ " ++ path ++ "\n   main screen: " ++ app.mainScreen ++
    "\n   screens: " ++ count app.screens.length ++
    "\n   initial variables: " ++ count app.bindings.length ++ "\n" ++
    String.join ((unknownCommands Command.builtin app).map fun (screen, name) =>
      "   ⚠️ screen '" ++ screen ++ "' uses unregistered command '" ++ name ++ "'\n")

/-- Check an app. -/
def checkApp (files : Files m) (path : String) : m Report := do
  match ← loadApp files path with
  | .error text => return failure text
  | .ok app =>
      match app.validate with
      | .error error => return failure error.message
      | .ok () => return { status := 0, output := summary path app }

/-- Read the configuration; without a file, it is the default one. -/
def loadConfig (files : Files m) : m (Option Config) := do
  if ← files.exists? Config.fileName then
    match ← files.read Config.fileName with
    | .error _ => return none
    | .ok text =>
        match Config.parse text with
        | .ok config => return some config
        | .error _ => return none
  else return some {}

/-- Do what the arguments ask for. -/
def run (files : Files m) (arguments : List String) : m Report := do
  match parse arguments with
  | none => return misuse
  | some .version => return { status := 0, output := "tessera 0.1.0\n" }
  | some .help => return { status := 0, output := manual }
  | some invocation =>
      match ← loadConfig files with
      | none => return failure "Failed to load configuration"
      | some config =>
          match invocation with
          | .run app event noWait => runApp files config app event noWait
          | .eval app expression compact => evalInApp files config app expression compact
          | .check app => checkApp files app
          | _ => return misuse

end CommandLine
end Storyboard
