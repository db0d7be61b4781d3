import Storyboard.Json.Record
import Storyboard.Json.Tree

/-!
# Settings

What can be tuned in one session.  A setting that is not given keeps its default.
-/

namespace Storyboard

/-- The settings of a session. -/
structure Settings where
  /-- How many passes a resolution may make. -/
  iterationCap : Nat := 10
  /-- The text that stands for the loop position inside paths. -/
  indexPlaceholder : String := "$index"
  /-- The variable that holds the error while a request's error is handled. -/
  errorVariable : String := "_httpRequestError"
  /-- The variable that holds status and headers while a request's answer is handled. -/
  responseVariable : String := "_httpResponse"
  /-- How many seconds a request may take. -/
  timeoutSeconds : Nat := 30
  deriving DecidableEq, Inhabited

namespace Settings

/-- The settings as far as they are given. -/
structure Given where
  /-- See `Settings.iterationCap`. -/
  iterationCap : Option Nat := none
  /-- See `Settings.indexPlaceholder`. -/
  indexPlaceholder : Option String := none
  /-- See `Settings.errorVariable`. -/
  errorVariable : Option String := none
  /-- See `Settings.responseVariable`. -/
  responseVariable : Option String := none
  /-- See `Settings.timeoutSeconds`. -/
  timeoutSeconds : Option Nat := none

/-- The settings with the defaults for what is not given. -/
def Given.settings (given : Given) : Settings :=
  let standard : Settings := {}
  { iterationCap := given.iterationCap.getD standard.iterationCap
    indexPlaceholder := given.indexPlaceholder.getD standard.indexPlaceholder
    errorVariable := given.errorVariable.getD standard.errorVariable
    responseVariable := given.responseVariable.getD standard.responseVariable
    timeoutSeconds := given.timeoutSeconds.getD standard.timeoutSeconds }

/-- How settings are read. -/
def shape : Json.Shape Given where
  fields :=
    [.slot "resolveIterationCap" (·.iterationCap)
       (fun given value => { given with iterationCap := some value }) fun _ => Json.natural,
     .slot "indexPlaceholder" (·.indexPlaceholder)
       (fun given value => { given with indexPlaceholder := some value }) fun _ => Json.text,
     .slot "httpErrorVariable" (·.errorVariable)
       (fun given value => { given with errorVariable := some value }) fun _ => Json.text,
     .slot "httpResponseVariable" (·.responseVariable)
       (fun given value => { given with responseVariable := some value }) fun _ => Json.text,
     .slot "httpTimeoutSecs" (·.timeoutSeconds)
       (fun given value => { given with timeoutSeconds := some value }) fun _ => Json.natural]
  other _ _ given := Json.passOver given
  positional := true

/-- Read settings in which containers nest no deeper than a limit. -/
def reader : Nat → Json.Reader Settings :=
  shape.read {} fun given => some given.settings

/-- Read a whole text as settings. -/
def parse (text : String) : Except Json.Failure Settings :=
  Json.whole (reader Json.depthLimit) text.toList

/-- The settings as a tree. -/
def toTree (settings : Settings) : Json.Tree :=
  .table
    [("resolveIterationCap", .number (.integer settings.iterationCap)),
     ("indexPlaceholder", .text settings.indexPlaceholder),
     ("httpErrorVariable", .text settings.errorVariable),
     ("httpResponseVariable", .text settings.responseVariable),
     ("httpTimeoutSecs", .number (.integer settings.timeoutSeconds))]

end Settings
end Storyboard
