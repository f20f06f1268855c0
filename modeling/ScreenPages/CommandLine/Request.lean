/-!
# What the command line asks for

The tool has three commands: `dump` lists the nodes of a screen, `generate` prints the source
of a page for it, and `check` looks for a page on it.  The form of the output is an option in
front of the command and has a fallback in the environment.

An option takes its value from the same argument or from the next one, which must not look
like an option itself; a single hyphen does not.  After two hyphens nothing is an option.  No
option may be given twice.

## Main definitions

* `Request` — what is asked for.
* `Request.ofArguments` — reading the arguments.
-/

namespace ScreenPages

/-- The form of the output. -/
inductive OutputFormat where
  | text | json
  deriving DecidableEq, Repr, Inhabited

/-- What the tool is to do; files are given by their paths. -/
inductive Job where
  | dump (tree : String) : Job
  /-- The page may be given a name and an application. -/
  | generate (tree : String) (name application : Option String) : Job
  | check (page tree : String) : Job
  deriving DecidableEq, Repr, Inhabited

/-- What the command line asks for. -/
inductive Request where
  | version : Request
  | run (format : OutputFormat) (job : Job) : Request
  deriving DecidableEq, Repr, Inhabited

/-- The format with a name. -/
def OutputFormat.ofName? (s : String) : Option OutputFormat :=
  if s = "text" then some .text else if s = "json" then some .json else none

namespace Request

/-! ### Arguments -/

/-- How one argument looks. -/
inductive Argument where
  /-- Two hyphens. -/
  | separator : Argument
  /-- A long option, perhaps with a value after an equals sign. -/
  | long (name : String) (value : Option String) : Argument
  /-- A short option, perhaps with a value right after it. -/
  | short (name : Char) (value : Option String) : Argument
  | plain (s : String) : Argument
  deriving DecidableEq, Repr, Inhabited

/-- The name of a long option and its value. -/
def splitLong (cs : List Char) : Argument :=
  let name := cs.takeWhile fun c => c ≠ '='
  match cs.drop name.length with
  | [] => .long (String.ofList name) none
  | _ :: value => .long (String.ofList name) (some (String.ofList value))

/-- The name of a short option and its value, which may follow an equals sign. -/
def splitShort (name : Char) : List Char → Argument
  | [] => .short name none
  | '=' :: value => .short name (some (String.ofList value))
  | value => .short name (some (String.ofList value))

/-- How an argument looks. -/
def Argument.of (s : String) : Argument :=
  match s.toList with
  | ['-', '-'] => .separator
  | '-' :: '-' :: cs => splitLong cs
  | '-' :: c :: cs => splitShort c cs
  | _ => .plain s

/-- An argument that can be the value of the option before it. -/
def valueOf? (s : String) : Option String :=
  match Argument.of s with
  | .plain s => some s
  | _ => none

/-! ### The arguments of a command -/

/-- An option of a command with its long and its short name. -/
structure Choice where
  long : String
  short : Char
  deriving DecidableEq, Repr, Inhabited

/-- What a command was given. -/
structure Given where
  /-- The arguments that are no options, the last in front. -/
  plain : List String := []
  /-- The options with their values. -/
  values : List (Choice × String) := []
  deriving Repr, Inhabited

/-- The option that an argument begins, and its value as far as it is in the argument. -/
def choose (choices : List Choice) : Argument → Option (Choice × Option String)
  | .long name value => (choices.find? fun c => c.long == name).map fun c => (c, value)
  | .short name value => (choices.find? fun c => c.short == name).map fun c => (c, value)
  | _ => none

/-- Adds an option, unless it is there already. -/
def Given.add? (g : Given) (c : Choice) (value : String) : Option Given :=
  if g.values.any fun v => v.1 == c then none else some { g with values := (c, value) :: g.values }

/-- The value of an option. -/
def Given.value? (g : Given) (c : Choice) : Option String :=
  (g.values.find? fun v => v.1 == c).map Prod.snd

/-- Reads the arguments of a command that has some options; `pending` is an option that still
waits for its value. -/
def given (choices : List Choice) :
    (pending : Option Choice) → Given → List String → Option Given
  | none, g, [] => some g
  | some _, _, [] => none
  | some c, g, s :: rest => do
    let value ← valueOf? s
    let g ← g.add? c value
    given choices none g rest
  | none, g, s :: rest =>
    match Argument.of s with
    | .plain s => given choices none { g with plain := s :: g.plain } rest
    | .separator => some { g with plain := rest.reverse ++ g.plain }
    | a => do
      let (c, value) ← choose choices a
      match value with
      | none => if (g.value? c).isSome then none else given choices (some c) g rest
      | some value => given choices none (← g.add? c value) rest

/-- The option for the name of a generated page. -/
def nameChoice : Choice := ⟨"name", 'n'⟩

/-- The option for the application of a generated page. -/
def applicationChoice : Choice := ⟨"application", 'a'⟩

/-- The job of a command with its arguments; a path may not be empty. -/
def job? (command : String) (arguments : List String) : Option Job := do
  let choices := if command = "generate" then [nameChoice, applicationChoice] else []
  let g ← given choices none {} arguments
  if g.plain.any fun s => s == "" then none
  else
    match command, g.plain with
    | "dump", [tree] => some (.dump tree)
    | "generate", [tree] =>
      some (.generate tree (g.value? nameChoice) (g.value? applicationChoice))
    | "check", [tree, page] => some (.check page tree)
    | _, _ => none

/-! ### The whole command line -/

/-- Whether an argument is the option for the format, and its value as far as it is in the
argument. -/
def formatOption? : Argument → Option (Option String)
  | .long "format" value => some value
  | .short 'f' value => some value
  | _ => none

/-- Whether an argument asks for the version. -/
def asksVersion : Argument → Bool
  | .long "version" none => true
  | .short 'V' _ => true
  | _ => false

/-- The format that holds in the end: the option, else the fallback, else text. -/
def chosen? (option : Option OutputFormat) (fallback : Option String) : Option OutputFormat :=
  match option, fallback with
  | some f, _ => some f
  | none, some s => OutputFormat.ofName? s
  | none, none => some .text

/-- Reads the arguments from the one after the format, if there was one. -/
def ofRest (fallback : Option String) : Option OutputFormat → List String → Option Request
  | _, [] => none
  | format, s :: rest =>
    let a := Argument.of s
    if asksVersion a then some .version
    else
      match formatOption? a, format, rest with
      | some (some value), none, rest => do
        ofRest fallback (some (← OutputFormat.ofName? value)) rest
      | some none, none, value :: rest => do
        ofRest fallback (some (← OutputFormat.ofName? value)) rest
      | some _, _, _ => none
      | none, format, rest => do
        let .plain command := a | none
        let job ← job? command rest
        return .run (← chosen? format fallback) job

/-- Reads the arguments; nothing if they are not in order. -/
def ofArguments (arguments : List String) (fallback : Option String) : Option Request :=
  ofRest fallback none arguments

end Request

end ScreenPages
