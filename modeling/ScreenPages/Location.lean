import ScreenPages.Step

/-!
# Locations and queries

A **location** says where on a screen something was found: by the path of the node, and by
the number of nodes with the same path that were found before it.  A **query** is a location
on the screen of an application; it is what a gesture is addressed to.

## Main definitions

* `Location` — a path and a number.
* `Query` — a location with the application it belongs to.
* `Query.text` — its form in messages.
-/

namespace ScreenPages

open Json

/-- Where something was found. -/
structure Location where
  /-- The steps from the root to the node. -/
  path : List Step
  /-- How many with the same path were found before. -/
  index : Nat
  deriving DecidableEq, Repr, Inhabited

/-- A location on the screen of an application. -/
structure Query where
  /-- The identifier of the application, none for the application under test. -/
  application : Option String
  /-- The steps from the root to the node. -/
  path : List Step
  /-- Which of the nodes with this path, from zero. -/
  index : Nat
  deriving DecidableEq, Repr, Inhabited

namespace Location

/-- The fields of a location while it is read. -/
structure Draft where
  path : Option (List Step) := none
  index : Option Nat := none

/-- Reads a location. -/
def decoder : Decoder Location := fun limit d => do
  let fields : List (RecordField Draft) :=
    [ .of "path" Draft.path (fun a s => { s with path := some a }) (.list Step.decoder),
      .of "index" Draft.index (fun a s => { s with index := some a }) (.natural "usize") ]
  let s ← Decoder.record "struct ElementLocation" fields false {} limit d
  return ⟨← orMissing "path" s.path, ← orMissing "index" s.index⟩

/-- A location in JSON. -/
def json (l : Location) : Value :=
  .object [("path", .array (l.path.map Step.json)), ("index", .ofNat l.index)]

end Location

namespace Query

/-- The query for a location on the screen of an application. -/
def ofLocation (application : Option String) (l : Location) : Query :=
  ⟨application, l.path, l.index⟩

/-- The location that a query asks for. -/
def location (q : Query) : Location := ⟨q.path, q.index⟩

/-- The steps of the path, and the number in brackets. -/
def text (q : Query) : String :=
  String.intercalate " > " (q.path.map Step.text) ++ " [" ++ toString q.index ++ "]"

/-- The fields of a query while it is read. -/
structure Draft where
  application : Option (Option String) := none
  path : Option (List Step) := none
  index : Option Nat := none

/-- Reads a query. -/
def decoder : Decoder Query := fun limit d => do
  let fields : List (RecordField Draft) :=
    [ .of "application" Draft.application (fun a s => { s with application := some a })
        (.optional Decoder.text) .anywhere,
      .of "path" Draft.path (fun a s => { s with path := some a }) (.list Step.decoder),
      .of "index" Draft.index (fun a s => { s with index := some a }) (.natural "usize") ]
  let s ← Decoder.record "struct ElementQuery" fields false {} limit d
  return ⟨s.application.join, ← orMissing "path" s.path, ← orMissing "index" s.index⟩

/-- A query in JSON; the application under test is left out. -/
def json (q : Query) : Value :=
  .object ((q.application.map fun a => ("application", Value.text a)).toList
    ++ [("path", .array (q.path.map Step.json)), ("index", .ofNat q.index)])

end Query

end ScreenPages
