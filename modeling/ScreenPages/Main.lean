import ScreenPages.CommandLine.Run

/-!
# The command line tool

Lists the nodes of a screen, prints the source of a page for it, or looks for a page on it.
The screen is given as an accessibility dump in JSON.

## Main definitions

* `main` — reads the files, and prints what the library answers.
-/

namespace ScreenPages.CommandLine

/-- What is printed for arguments that are not in order. -/
def usage : String :=
  "Usage: pagewright [-f text|json] dump TREE\n"
    ++ "       pagewright [-f text|json] generate TREE [-n NAME] [-a APPLICATION]\n"
    ++ "       pagewright [-f text|json] check PAGE TREE\n"
    ++ "       pagewright --version\n"

/-- The number of a system error; some are given as the negative of it in 32 bits. -/
def errorNumber (code : UInt32) : Nat :=
  if code.toNat < Nat.pow 2 31 then code.toNat else Nat.pow 2 32 - code.toNat

/-- What the system says about a file that cannot be read. -/
def systemMessage : IO.Error → String
  | .noFileOrDirectory _ _ _ => Text.noSuchFile
  | .permissionDenied _ _ _ => Text.notPermitted
  | e@(.inappropriateType _ code _) | e@(.invalidArgument _ code _) =>
    match errorNumber code with
    | 20 => Text.notDirectory
    | 21 => Text.isDirectory
    | 36 => Text.nameTooLong
    | _ => toString e
  | e => toString e

/-- Reads a file. -/
def readFile (path : String) : IO Text.File := do
  try
    return .ok (← IO.FS.readBinFile path)
  catch e =>
    return .error (systemMessage e)

/-- The paths of the files that arguments may name. -/
def readAll : List String → IO (List (String × Text.File))
  | [] => return []
  | path :: rest => return (path, ← readFile path) :: (← readAll rest)

/-- The files that a job reads. -/
def Job.paths : Job → List String
  | .dump tree => [tree]
  | .generate tree _ _ => [tree]
  | .check page tree => [page, tree]

end ScreenPages.CommandLine

open ScreenPages ScreenPages.CommandLine in
/-- Runs the tool. -/
def main (arguments : List String) : IO UInt32 := do
  let fallback ← IO.getEnv "PAGEWRIGHT_FORMAT"
  let paths := match Request.ofArguments arguments fallback with
    | some (.run _ job) => Job.paths job
    | _ => []
  let files ← readAll paths
  let found (path : String) : Text.File :=
    ((files.find? fun f => f.1 == path).map Prod.snd).getD (.error Text.noSuchFile)
  let outcome := CommandLine.run arguments fallback found
  IO.print outcome.output
  IO.eprint (outcome.errors.getD usage)
  return outcome.exitCode.toUInt32
