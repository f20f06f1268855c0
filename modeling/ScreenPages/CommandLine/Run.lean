import ScreenPages.CommandLine.Request
import ScreenPages.PageFile
import ScreenPages.PageSource
import ScreenPages.Session.Check

/-!
# Running the command line

Each job reads its files, prints a report in the form that is asked for, and ends with an
exit code: 0 if all is well, 1 if the page that was looked for is not there, and 2 if the
arguments or a file are not in order.

## Main definitions

* `CommandLine.dump`, `CommandLine.generate`, `CommandLine.check` — the reports.
* `CommandLine.run` — from arguments and files to what is printed.
-/

namespace ScreenPages.CommandLine

open Json

/-- Why a job does not end well. -/
inductive Fault where
  /-- The page is not on the screen. -/
  | pageMissing (page : String) : Fault
  /-- A file is not in order. -/
  | input (reason : String) : Fault
  deriving DecidableEq, Repr, Inhabited

/-- The wording of a fault. -/
def Fault.message : Fault → String
  | pageMissing page => "Page " ++ page ++ " does not exist"
  | input reason => "Input error: " ++ reason

/-- The exit code of a fault. -/
def Fault.exitCode : Fault → Nat
  | pageMissing _ => 1
  | input _ => 2

/-- What a job prints, and whether it ends well. -/
structure Report where
  output : String
  fault : Option Fault := none
  deriving DecidableEq, Repr, Inhabited

/-- What the tool prints, and its exit code. -/
structure Outcome where
  exitCode : Nat
  output : String := ""
  /-- What goes to the error output; nothing stands for the usage of the tool. -/
  errors : Option String := some ""
  deriving DecidableEq, Repr, Inhabited

/-- The name and version of the tool. -/
def version : String := "pagewright 0.1.0"

/-- Lines of text, each with its line end. -/
def lines (ls : List String) : String := String.join (ls.map fun l => l ++ "\n")

/-! ### Listing a screen -/

/-- A text with blanks in front up to a width. -/
def padLeft (width : Nat) (s : String) : String :=
  String.ofList (List.replicate (width - s.length) ' ') ++ s

/-- The place of a frame, in whole points. -/
def frameText (f : Frame) : String :=
  " @ (" ++ Decimal.fixedFloat 0 f.x ++ ", " ++ Decimal.fixedFloat 0 f.y ++ ", "
    ++ Decimal.fixedFloat 0 f.width ++ "x" ++ Decimal.fixedFloat 0 f.height ++ ")"

/-- The line for a node: its traversal index, and itself indented by its depth. -/
def entryLine (position : Nat) (e : Snapshot.Entry) : String :=
  padLeft 4 (toString (Snapshot.index position)) ++ " "
    ++ String.ofList (List.replicate (2 * e.depth) ' ') ++ e.step.text
    ++ (e.frame.map frameText).getD ""
    ++ (if e.hittable = some false then " [not hittable]" else "")

/-- The list of the nodes of a screen. -/
def dump (format : OutputFormat) (tree : Node) : Report :=
  let entries := (Snapshot.ofTree tree).entries.toList
  let numbered := (List.range entries.length).zip entries
  match format with
  | .text => { output := lines (numbered.map fun e => entryLine e.1 e.2) }
  | .json => { output := lines [(Value.array (numbered.map fun e => e.2.json e.1)).pretty] }

/-! ### Generating a page -/

/-- The source of a page for a screen. -/
def generate (format : OutputFormat) (tree : Node) (name application : Option String) : Report :=
  let name := name.getD tree.suggestName
  let source := PageSource.ofPage name application tree.describe
  match format with
  | .text => { output := lines [source] }
  | .json =>
    let report : Value := .object [("name", .text name), ("source", .text source)]
    { output := lines [report.compact] }

/-! ### Checking a page -/

/-- A step of a path in a report, its keys in order. -/
def stepJson (s : Step) : Value :=
  .object ([("identifier", .text s.identifier), ("kind", s.kind.json), ("label", .text s.label)]
    ++ (s.value.map fun v => ("value", Value.text v)).toList)

/-- What a report says about a page. -/
structure Findings where
  page : String
  resolved : List (Element × Location)
  missing : List Element
  /-- The places of the variables with their values. -/
  captures : List (String × String)
  deriving Repr, Inhabited

/-- The lines of a report. -/
def Findings.text (f : Findings) : String :=
  lines (f.resolved.map (fun r => "✅ " ++ r.1.text ++ " -> " ++ (Query.ofLocation none r.2).text)
    ++ f.missing.map (fun e => "⛔️ missing element " ++ e.text)
    ++ f.captures.map (fun c => c.1 ++ " = " ++ c.2))

/-- A report in JSON, with the keys of each object in order. -/
def Findings.json (f : Findings) : Value :=
  let resolved (r : Element × Location) : Value :=
    .object [("element", .text r.1.text), ("index", .ofNat r.2.index),
      ("path", .array (r.2.path.map stepJson))]
  let captures := f.captures.mergeSort fun a b => decide (a.1 ≤ b.1)
  .object [("captures", .object (captures.map fun c => (c.1, .text c.2))),
    ("exists", .flag f.missing.isEmpty),
    ("missing", .array (f.missing.map fun e => .text e.text)),
    ("page", .text f.page), ("resolved", .array (f.resolved.map resolved))]

variable [Template.Engine]

/-- What one pass of a new session finds of a page on a screen. -/
def find (p : PageFile) (tree : Node) : Except Fault Findings :=
  let s : Session :=
    { device := { screens := [(p.application, tree)] }
      pages := [{ name := p.name, application := p.application, bodies := [⟨p.elements, []⟩] }] }
  match s.check 0 with
  | (.error f, _) => .error (.input f.message)
  | (.ok c, s) =>
    let resolved := (Element.flattenList p.elements).filterMap fun e =>
      ((s.cache.get? e.identity).bind Cache.Entry.location).map fun l => (e, l)
    .ok { page := p.name, resolved, missing := c.missing
          captures := p.binders.map fun v => (v.placeholder, s.captured.read v) }

/-- The report on a page. -/
def check (format : OutputFormat) (p : PageFile) (tree : Node) : Report :=
  match find p tree with
  | .error fault => { output := "", fault := some fault }
  | .ok f =>
    { output := match format with
        | .text => f.text
        | .json => lines [f.json.pretty]
      fault := if f.missing.isEmpty then none else some (.pageMissing p.name) }

/-! ### Running -/

/-- Reads the dump of a screen from a file with the given name. -/
def readTree (name : String) (file : Text.File) : Except Fault Node :=
  match Text.stored file with
  | .error reason => .error (.input ("failed to read " ++ name ++ ": " ++ reason))
  | .ok s =>
    (Decoder.run Node.decoder s).mapError fun fault =>
      .input ("invalid tree dump " ++ name ++ ": " ++ fault.message)

/-- Reads a page file with the given name. -/
def readPage (name : String) (file : Text.File) : Except Fault PageFile :=
  (PageFile.ofFile name file).mapError fun r => .input r.message

/-- Does a job, given the files by their paths. -/
def perform (files : String → Text.File) (format : OutputFormat) : Job → Except Fault Report
  | .dump tree => (readTree tree (files tree)).map (dump format)
  | .generate tree name application =>
    (readTree tree (files tree)).map fun t => generate format t name application
  | .check page tree => do
    let p ← readPage page (files page)
    let t ← readTree tree (files tree)
    return check format p t

/-- The end of a job. -/
def Outcome.ofReport (r : Report) : Outcome :=
  match r.fault with
  | none => { exitCode := 0, output := r.output }
  | some fault =>
    { exitCode := fault.exitCode, output := r.output
      errors := some ("Error: " ++ fault.message ++ "\n") }

/-- Runs the tool with some arguments, given the fallback for the format and the files. -/
def run (arguments : List String) (fallback : Option String) (files : String → Text.File) :
    Outcome :=
  match Request.ofArguments arguments fallback with
  | none => { exitCode := 2, errors := none }
  | some .version => { exitCode := 0, output := lines [version] }
  | some (.run format job) =>
    match perform files format job with
    | .ok report => .ofReport report
    | .error fault => .ofReport { output := "", fault := some fault }

end ScreenPages.CommandLine
