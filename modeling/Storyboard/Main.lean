import Storyboard.CommandLine

/-!
# The program

Runs the command line on the files of the current directory.
-/

namespace Storyboard

open CommandLine

/-- Why the system could not read a file. -/
def fileErrorOf : IO.Error → FileError
  | .noFileOrDirectory _ _ _ => .missing
  | .inappropriateType _ code _ => if code = 21 then .isDirectory else .notDirectory
  | error => .other error.toString

/-- Read a file of the current directory. -/
def readFile (path : String) : IO (Except FileError String) := do
  try
    return .ok (← IO.FS.readFile path)
  catch error => return .error (fileErrorOf error)

/-- Write a file of the current directory, and make the directories on the way, as far as that
succeeds. -/
def writeFile (path text : String) : IO Unit := do
  try
    let directory := ((path.toList.reverse.dropWhile (· != '/')).drop 1).reverse
    if directory != [] then IO.FS.createDirAll (String.ofList directory)
    IO.FS.writeFile path text
  catch _ => return ()

/-- The files of the current directory. -/
def diskFiles : Files IO where
  read := readFile
  exists? path := do
    match ← readFile path with
    | .error .missing => return false
    | .error .notDirectory => return false
    | _ => return true
  write := writeFile

end Storyboard

/-- Run the command line. -/
def main (arguments : List String) : IO UInt32 := do
  let report ← Storyboard.CommandLine.run Storyboard.diskFiles arguments
  IO.print report.output
  IO.eprint report.remarks
  return report.status
