import Mathlib.Data.List.Forall2
import ScreenPages.CommandLine.Run
import ScreenPages.Proofs.Storing

/-!
# The printed report

What a check finds is printed as lines, or as an indented object.  A report in JSON is told by the
members of its objects and not by the order in which they stand: the text that is printed is read
as the document of a value, and asking the value for its members gives the findings back, down to
the steps of each path.  So nothing is lost between the findings and what is read of them.

## Main definitions

* `CommandLine.Findings.rendered` — a report in the form that is asked for.
* `CommandLine.Findings.Listed` — lines that hold the findings.
* `CommandLine.Findings.Written` — a value that holds the findings.
* `CommandLine.Findings.Printed` — a text that holds the findings.

## Main results

* `Json.Value.ofSymbols_lines_pretty` — a printed value is read as its document.
* `CommandLine.Findings.written_json` — the JSON of a report holds the findings.
* `CommandLine.Findings.printed_rendered` — **what is printed holds the findings.**
-/

namespace ScreenPages

open Json
open Text (symbols)

namespace Json.Value

/-- The numbers in the items of an array are those in one of them. -/
theorem mem_numbersOfItems {n : Number} {vs : List Value} :
    n ∈ numbersOfItems vs ↔ ∃ v ∈ vs, n ∈ v.numbers := by
  induction vs with
  | nil => simp [numbersOfItems]
  | cons v vs ih => simp [numbersOfItems, ih]

/-- The numbers in the fields of an object are those in one of them. -/
theorem mem_numbersOfFields {n : Number} {fs : List (String × Value)} :
    n ∈ numbersOfFields fs ↔ ∃ f ∈ fs, n ∈ f.2.numbers := by
  induction fs with
  | nil => simp [numbersOfFields]
  | cons f fs ih => simp [numbersOfFields, ih]

/-- A value that is printed on lines of its own is read as its document. -/
theorem ofSymbols_lines_pretty {v : Value} (h : v.Legible) :
    Doc.ofSymbols (symbols (CommandLine.lines [v.pretty])) = (v.doc, true) := by
  have hsymbols : symbols (CommandLine.lines [v.pretty])
      = (prettyChars 0 v).map .char ++ ((newLine 0).map .char ++ []) := by
    simp [symbols, CommandLine.lines, String.join, pretty, newLine]
  refine ofSymbols_of_scan h ?_
  rw [hsymbols, scan_prettyChars _ 0 v h .newLine, Token.scan_newLine, Token.scan_nil,
    List.append_nil]

end Json.Value

namespace CommandLine

/-- A value that holds a step: it has the step's kind, identifier and label, and its value if there
is one. -/
structure StepWritten (s : Step) (v : Value) : Prop where
  kind : v.field? "kind" = some (.text s.kind.name)
  identifier : v.field? "identifier" = some (.text s.identifier)
  label : v.field? "label" = some (.text s.label)
  value : v.field? "value" = s.value.map .text

/-- A value that holds where an element was found. -/
structure PlaceWritten (found : Element × Location) (v : Value) : Prop where
  element : v.field? "element" = some (.text found.1.text)
  path : ∃ steps, v.field? "path" = some (.array steps) ∧
    List.Forall₂ StepWritten found.2.path steps
  index : v.field? "index" = some (.number (.natural found.2.index))

namespace Findings

/-- A value that holds the findings: an item for each element that was found and for each one that
is missing, in order, and a field for each variable. -/
structure Written (f : Findings) (v : Value) : Prop where
  page : v.field? "page" = some (.text f.page)
  complete : v.field? "exists" = some (.flag f.missing.isEmpty)
  resolved : ∃ items, v.field? "resolved" = some (.array items) ∧
    List.Forall₂ PlaceWritten f.resolved items
  missing : v.field? "missing" = some (.array (f.missing.map fun e => .text e.text))
  captures : ∃ fields, v.field? "captures" = some (.object fields) ∧
    fields.Perm (f.captures.map fun c => (c.1, .text c.2))

/-- Lines that hold the findings: one for each element that was found, with its path and its
number there, one for each element that is missing, and one for each variable with its value. -/
structure Listed (f : Findings) (found missing captured : List String) : Prop where
  found : List.Forall₂ (fun r line => line = "✅ " ++ r.1.text ++ " -> "
    ++ String.intercalate " > " (r.2.path.map Step.text) ++ " [" ++ toString r.2.index ++ "]")
    f.resolved found
  missing : List.Forall₂ (fun e line => line = "⛔️ missing element " ++ e.text)
    f.missing missing
  captured : List.Forall₂ (fun c line => line = c.1 ++ " = " ++ c.2) f.captures captured

/-- A text that holds the findings: their lines, or a text that is read as a value that holds
them. -/
def Printed (f : Findings) : OutputFormat → String → Prop
  | .text, output => ∃ found missing captured,
      output = lines (found ++ missing ++ captured) ∧ f.Listed found missing captured
  | .json, output => ∃ v, Doc.ofSymbols (symbols output) = (v.doc, true) ∧ f.Written v

/-- A report in the form that is asked for. -/
def rendered (f : Findings) : OutputFormat → String
  | .text => f.text
  | .json => lines [f.json.pretty]

end Findings

/-! ### The value of a report -/

/-- The JSON of a step in a report holds the step. -/
theorem stepWritten_stepJson (s : Step) : StepWritten s (stepJson s) := by
  obtain ⟨kind, identifier, label, value⟩ := s
  cases value <;> exact ⟨rfl, rfl, rfl, rfl⟩

theorem numbers_stepJson (s : Step) : (stepJson s).numbers = [] := by
  obtain ⟨kind, identifier, label, value⟩ := s
  cases value <;> rfl

namespace Findings

/-- **The JSON of a report holds the findings.** -/
theorem written_json (f : Findings) : f.Written f.json where
  page := rfl
  complete := rfl
  resolved := by
    refine ⟨_, rfl, List.forall₂_map_right_iff.mpr (List.forall₂_same.mpr fun r _ => ?_)⟩
    exact ⟨rfl, ⟨_, rfl, List.forall₂_map_right_iff.mpr
      (List.forall₂_same.mpr fun s _ => stepWritten_stepJson s)⟩, rfl⟩
  missing := rfl
  captures := ⟨_, rfl, (List.mergeSort_perm _ _).map _⟩

/-- Of a report only the indices are numbers. -/
theorem legible_json (f : Findings) : f.json.Legible := by
  intro n hn
  obtain ⟨r, -, rfl⟩ : ∃ r ∈ f.resolved, n = .natural r.2.index := by
    simpa [json, Value.numbers, Value.mem_numbersOfFields, Value.mem_numbersOfItems,
      numbers_stepJson, Value.ofNat] using hn
  exact Number.legible_natural r.2.index

/-- The lines of a report hold the findings. -/
theorem listed (f : Findings) : f.Listed
    (f.resolved.map fun r => "✅ " ++ r.1.text ++ " -> " ++ (Query.ofLocation none r.2).text)
    (f.missing.map fun e => "⛔️ missing element " ++ e.text)
    (f.captures.map fun c => c.1 ++ " = " ++ c.2) where
  found := List.forall₂_map_right_iff.mpr (List.forall₂_same.mpr fun r _ => by
    simp only [Query.text, Query.ofLocation, String.append_assoc])
  missing := List.forall₂_map_right_iff.mpr (List.forall₂_same.mpr fun _ _ => rfl)
  captured := List.forall₂_map_right_iff.mpr (List.forall₂_same.mpr fun _ _ => rfl)

/-- **What is printed holds the findings.** -/
theorem printed_rendered (f : Findings) (format : OutputFormat) :
    f.Printed format (f.rendered format) := by
  cases format with
  | text => exact ⟨_, _, _, rfl, f.listed⟩
  | json => exact ⟨f.json, Value.ofSymbols_lines_pretty f.legible_json, f.written_json⟩

end Findings

end CommandLine

end ScreenPages
