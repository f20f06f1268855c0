import ScreenPages.Expectation

/-!
# Resolution

Resolving a page against a screen looks for a node for each declared element.  The elements
at the top are looked for in order, each one behind the node of the one before; the children
of an element are looked for in the same way below its node.  The search never goes back: the
first node that matches an element by itself is the only candidate, and if a child cannot be
found below it, the element is missing.

The search takes **notes** as it goes.  A candidate is noted before its children are looked
for, and when a child is missing the notes are cut back to where they were before the
candidate; the search for the next element starts where it would have started without it.

## Main definitions

* `Sighting`, `Notes` — what the search notes of an element, and all that it has noted.
* `Expectation.seek`, `Expectation.seekAll`, `Expectation.seekEach` — the search.
* `Resolution`, `Resolution.ofPage` — the outcome for a whole page.
* `Resolution.location` — where an element was found.
-/

namespace ScreenPages

/-- A node that was matched for an element, and the location recorded for it. -/
structure Sighting where
  identity : Identity
  /-- The position of the node. -/
  position : Nat
  location : Location
  deriving Repr, Inhabited

/-- What a search has noted so far, of elements it found and of candidates it still tries. -/
structure Notes where
  /-- The matched nodes in the order in which they were noted. -/
  sightings : List Sighting := []
  /-- The captured values in the same order. -/
  captures : List Capture := []
  deriving Repr, Inhabited

namespace Notes

/-- The number of earlier sightings with a path. -/
def occurrences (sightings : List Sighting) (path : List Step) : Nat :=
  sightings.countP fun x => x.location.path == path

/-- Notes that a node is matched for an element.  The index of its location tells how many
nodes with the same path were noted before. -/
def add (n : Notes) (s : Snapshot) (i : Identity) (position : Nat) (captures : List Capture) :
    Notes :=
  let path := s.path position
  ⟨n.sightings ++ [⟨i, position, ⟨path, occurrences n.sightings path⟩⟩], n.captures ++ captures⟩

/-- Takes back what was noted since there were `sightings` and `captures`. -/
def cut (n : Notes) (sightings captures : Nat) : Notes :=
  ⟨n.sightings.take sightings, n.captures.take captures⟩

end Notes

/-- The first of some positions whose node matches, and the values it captures. -/
def Matcher.first (m : Matcher) (s : Snapshot) : List Nat → Option (Nat × List Capture)
  | [] => none
  | p :: ps =>
    match (s.entry? p).bind fun e => m.capture e.step with
    | some captures => some (p, captures)
    | none => m.first s ps

/-- Whether any node below a position matches. -/
def Matcher.occursBelow (m : Matcher) (s : Snapshot) (position : Nat) : Bool :=
  (m.first s (s.subtree position)).isSome

namespace Expectation

mutual

/-- Looks for an element at the positions from `start` on that are before `stop` and whose
traversal index is above `bound`, and for its children below the first node that matches.
That each child occurs below that node at all is asked before they are looked for in order.
Answers with the traversal index of the node. -/
def seek (s : Snapshot) (start stop bound : Nat) (notes : Notes) :
    Expectation → Option Nat × Notes
  | ⟨element, own, preview, children⟩ =>
    let first := max start bound
    match own.first s (List.range' first (stop - first)) with
    | none => (none, notes)
    | some (p, captures) =>
      let tried := notes.add s element.identity p captures
      if children.isEmpty then (some (Snapshot.index p), tried)
      else
        let (verified, tried) :=
          if preview.all fun m => m.occursBelow s p then
            seekAll s (p + 1) (s.stop p) (Snapshot.index p) tried children
          else (false, tried)
        if verified then (some (Snapshot.index p), tried)
        else (none, tried.cut notes.sightings.length notes.captures.length)

/-- Looks for all of some elements in order, each one behind the node of the one before, and
gives up at the first that is missing. -/
def seekAll (s : Snapshot) (start stop bound : Nat) (notes : Notes) :
    List Expectation → Bool × Notes
  | [] => (true, notes)
  | x :: xs =>
    match seek s start stop bound notes x with
    | (none, notes) => (false, notes)
    | (some index, notes) => seekAll s start stop index notes xs

end

/-- Looks for each of some elements in order, behind the node of the last one that was found.
Answers with those that are missing. -/
def seekEach (s : Snapshot) (bound : Nat) (notes : Notes) :
    List Expectation → List Element × Notes
  | [] => ([], notes)
  | x :: xs =>
    match x.seek s 0 s.size bound notes with
    | (some index, notes) => seekEach s index notes xs
    | (none, notes) =>
      let (missing, notes) := seekEach s bound notes xs
      (x.element :: missing, notes)

end Expectation

/-- What was found of a page, and what was not. -/
structure Resolution where
  /-- Where the elements were found, in the order in which they were noted. -/
  resolved : List (Identity × Location)
  /-- The values that were captured, in the same order. -/
  captures : List Capture
  /-- The elements at the top that were not found, in declared order. -/
  missing : List Element
  deriving Repr, Inhabited

namespace Resolution

/-- The search for a page on a screen: the elements at the top that are missing, and the
notes on the others. -/
def search (page : List Expectation) (root : Node) : List Element × Notes :=
  Expectation.seekEach (Snapshot.ofTree root) 0 {} page

/-- Resolves the expectations of a page against a screen; without a screen every element at
the top is missing. -/
def ofPage (page : List Expectation) : Option Node → Resolution
  | none => ⟨[], [], page.map Expectation.element⟩
  | some root =>
    let (missing, notes) := search page root
    ⟨notes.sightings.map fun x => (x.identity, x.location), notes.captures, missing⟩

/-- Whether nothing is missing. -/
def isComplete (r : Resolution) : Bool := r.missing.isEmpty

/-- Where an element was found: the first place, if copies of it occur several times. -/
def location (r : Resolution) (i : Identity) : Option Location :=
  (r.resolved.find? fun f => f.1 == i).map Prod.snd

end Resolution

end ScreenPages
