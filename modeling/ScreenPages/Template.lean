import ScreenPages.Variable

/-!
# Templates for labels and values

A declared label or value is a **template**: literal text with places for capture variables.
A text matches if it is the template with some text in each place.  Where several choices
are possible, the first variable gets the longest text that leaves a match for the rest, the
second the longest after that, and so on.

This choice puts every literal as far to the right as the literals after it allow, so it is
found from the right end: the last literal has to be the end of the text, and each earlier
one is cut off at its last occurrence in what is left.

Templates with places are matched by an **engine** that has to build an expression for them
first.  Engines bound the size of what they build, so that a very long template may be refused.
Which ones are is a matter of the engine; it is a parameter of all that reads templates.

## Main definitions

* `Template` — a template; no variable occurs twice.
* `Template.Engine` — what an engine does not build.
* `Template.ofText` — reads a template, or says why it is refused.
* `Template.text` — the text it is read from.
* `Template.capture` — the texts of the variables, if a text matches.
-/

namespace ScreenPages

/-- One part of a text: a literal character or the place of a variable. -/
inductive Template.Part where
  | char (c : Char) : Template.Part
  | place (v : Variable) : Template.Part
  deriving DecidableEq, Repr

/-- Variables, each with the literal in front of it, and the literal after the last. -/
structure Template where
  /-- Each variable with the text between the variable before it, if any, and itself. -/
  places : List (List Char × Variable)
  /-- The text after the last variable. -/
  tail : List Char
  deriving DecidableEq, Repr, Inhabited

/-- The text of one variable in a match. -/
structure Capture where
  binder : Variable
  value : String
  deriving DecidableEq, Repr, Inhabited

namespace Template

/-! ### Reading -/

/-- The parts of a text of at most `fuel` characters: a placeholder is taken wherever one
begins. -/
def partsWith : Nat → List Char → List Part
  | 0, _ => []
  | _, [] => []
  | fuel + 1, c :: cs =>
    match Variable.ofPlaceholder? (c :: cs) with
    | some (v, rest) => .place v :: partsWith fuel rest
    | none => .char c :: partsWith fuel cs

/-- The parts of a text. -/
def parts (cs : List Char) : List Part := partsWith cs.length cs

/-- Puts a character in front of a template. -/
def consChar (c : Char) : Template → Template
  | ⟨[], tail⟩ => ⟨[], c :: tail⟩
  | ⟨(literal, v) :: places, tail⟩ => ⟨(c :: literal, v) :: places, tail⟩

/-- Gathers parts into literals and places. -/
def ofParts : List Part → Template
  | [] => ⟨[], []⟩
  | .char c :: ps => (ofParts ps).consChar c
  | .place v :: ps => ⟨([], v) :: (ofParts ps).places, (ofParts ps).tail⟩

/-- The variables of a template in order. -/
def binders (t : Template) : List Variable := t.places.map Prod.snd

/-- The first variable in a list that occurs before, also among those `seen`. -/
def firstRepeated (seen : List Variable) : List Variable → Option Variable
  | [] => none
  | v :: vs => if v ∈ seen then some v else firstRepeated (v :: seen) vs

/-- What an engine says of a template for which it does not build an expression. -/
class Engine where
  refusal? : Template → Option String

/-- Why a text is not read as a template. -/
inductive Ambiguity where
  /-- It uses one variable twice, so that its value would be ambiguous. -/
  | repeated (source : String) (binder : Variable) : Ambiguity
  /-- The engine does not build an expression for it. -/
  | unbuilt (source reason : String) : Ambiguity
  deriving DecidableEq, Repr, Inhabited

/-- The text that is not read. -/
def Ambiguity.source : Ambiguity → String
  | repeated source _ | unbuilt source _ => source

/-- The wording of an ambiguity. -/
def Ambiguity.message : Ambiguity → String
  | repeated source binder =>
    "pattern '" ++ source ++ "' uses variable " ++ binder.text ++ " more than once"
  | unbuilt source reason => "pattern '" ++ source ++ "' failed to compile: " ++ reason

/-- Why the engine refuses a template, if it does.  One without places is compared as it is and
never gets to the engine. -/
def refusal? [Engine] (t : Template) : Option String :=
  if t.places.isEmpty then none else Engine.refusal? t

/-- Reads a template: repeated variables are noticed before the engine gets it. -/
def ofText [Engine] (s : String) : Except Ambiguity Template :=
  let t := ofParts (parts s.toList)
  match firstRepeated [] t.binders with
  | some v => .error (.repeated s v)
  | none =>
    match t.refusal? with
    | some reason => .error (.unbuilt s reason)
    | none => .ok t

/-- The characters of a template. -/
def chars (t : Template) : List Char :=
  t.places.flatMap (fun p => p.1 ++ p.2.placeholderChars) ++ t.tail

/-- The text a template is read from. -/
def text (t : Template) : String := String.ofList t.chars

/-! ### Matching -/

/-- What follows a literal at the front of a text. -/
def after? : List Char → List Char → Option (List Char)
  | [], cs => some cs
  | _ :: _, [] => none
  | l :: ls, c :: cs => if l = c then after? ls cs else none

/-- What is in front of a literal at the end of a text. -/
def before? (literal cs : List Char) : Option (List Char) :=
  if literal.isSuffixOf cs then some (cs.take (cs.length - literal.length)) else none

/-- Cuts a text at the last occurrence of a literal: what is before it and what follows. -/
def cut? (literal : List Char) : List Char → Option (List Char × List Char)
  | [] => (after? literal []).map fun rest => ([], rest)
  | c :: cs =>
    match cut? literal cs with
    | some (front, rest) => some (c :: front, rest)
    | none => (after? literal (c :: cs)).map fun rest => ([], rest)

/-- Fills places as far to the right as possible: what is left of the text in front of them,
and the values of their variables. -/
def fill (tail : List Char) : List (List Char × Variable) → List Char →
    Option (List Char × List Capture)
  | [], cs => (before? tail cs).map fun front => (front, [])
  | (literal, v) :: places, cs => do
    let (text, captures) ← fill tail places cs
    let (front, value) ← cut? literal text
    return (front, ⟨v, String.ofList value⟩ :: captures)

/-- The values of the variables in order, if a text matches: the first literal has to be the
front of the text, and the text itself if there is no variable. -/
def capture (t : Template) (s : String) : Option (List Capture) :=
  match t.places with
  | [] => if s.toList = t.tail then some [] else none
  | (literal, v) :: places => do
    let (text, captures) ← fill t.tail places s.toList
    let value ← after? literal text
    return ⟨v, String.ofList value⟩ :: captures

/-- Whether a text matches. -/
def accepts (t : Template) (s : String) : Bool := (t.capture s).isSome

/-! ### The engine of a running program -/

/-- The characters of the literals of a template. -/
def literalChars (t : Template) : List Char := t.places.flatMap Prod.fst ++ t.tail

/-- The size of an expression in bytes: a state of 32 bytes for each byte of a literal, and about
as many as 32 states for each place. -/
def expressionSize (t : Template) : Nat :=
  32 * (String.ofList t.literalChars).utf8ByteSize + 1024 * t.places.length

/-- The size in bytes that an engine does not go beyond. -/
def Engine.sizeLimit : Nat := 10 * 1024 * 1024

/-- Running programs have an engine that refuses expressions beyond its limit. -/
instance : Engine where
  refusal? t :=
    if Engine.sizeLimit < t.expressionSize then
      some ("Compiled regex exceeds size limit of " ++ toString Engine.sizeLimit ++ " bytes.")
    else none

end Template

end ScreenPages
