import ScreenPages.Location
import ScreenPages.Node

/-!
# Snapshots

A **snapshot** lists the nodes of a screen in document order: a node comes before its
children, and the subtrees of the children follow one another.  Each entry says where its
parent is and where its subtree stops, so a search below a node is a search in a range of
positions.  Positions count from zero; the traversal index of a node is one more than its
position.

## Main definitions

* `Snapshot`, `Snapshot.ofTree` — the list of the nodes of a tree.
* `Snapshot.push` — puts a tree behind the nodes that are listed already.
* `Snapshot.subtree`, `Snapshot.children`, `Snapshot.parent` — the tree read off the list.
* `Snapshot.path` — the steps from the root to a position.
* `Snapshot.locate` — the position at a location.
-/

namespace ScreenPages

open Json

/-- One node of a snapshot. -/
structure Snapshot.Entry where
  /-- What identifies the node. -/
  step : Step
  frame : Option Frame
  hittable : Option Bool
  /-- The distance from the root. -/
  depth : Nat
  /-- The position of the parent, none for the root. -/
  parent : Option Nat
  /-- The first position behind the subtree of the node. -/
  stop : Nat
  deriving Repr, Inhabited

/-- The nodes of a screen in document order. -/
structure Snapshot where
  entries : Array Snapshot.Entry
  deriving Repr, Inhabited

namespace Snapshot

/-! ### Taking a snapshot -/

mutual

/-- Puts a tree behind the entries there are: its root first, which gets its stop when all that
is below it is there. -/
def push (entries : Array Entry) (depth : Nat) (parent : Option Nat) : Node → Array Entry
  | ⟨step, frame, hittable, children⟩ =>
    let position := entries.size
    let entry (stop : Nat) : Entry := ⟨step, frame, hittable, depth, parent, stop⟩
    let entries :=
      pushList (entries.push (entry (position + 1))) (depth + 1) position children
    entries.setIfInBounds position (entry entries.size)

/-- Puts several trees below the same parent behind the entries there are. -/
def pushList (entries : Array Entry) (depth parent : Nat) : List Node → Array Entry
  | [] => entries
  | n :: ns => pushList (push entries depth (some parent) n) depth parent ns

end

/-- The snapshot of a tree. -/
def ofTree (root : Node) : Snapshot := ⟨push #[] 0 none root⟩

/-- The number of nodes. -/
def size (s : Snapshot) : Nat := s.entries.size

/-- The traversal index of a position. -/
def index (position : Nat) : Nat := position + 1

/-- The entry at a position. -/
def entry? (s : Snapshot) (position : Nat) : Option Entry := s.entries[position]?

/-! ### The tree behind the list -/

/-- Where the subtree of a position stops. -/
def stop (s : Snapshot) (position : Nat) : Nat := ((s.entry? position).map Entry.stop).getD 0

/-- The positions of the nodes below a position, those of the node itself left out. -/
def subtree (s : Snapshot) (position : Nat) : List Nat :=
  List.range' (position + 1) (s.stop position - (position + 1))

/-- Hops from a position to the one behind its subtree, up to `stop`. -/
def hop (s : Snapshot) (stop : Nat) : Nat → Nat → List Nat
  | 0, _ => []
  | fuel + 1, position =>
    if position < stop then position :: s.hop stop fuel (s.stop position) else []

/-- The positions of the children of a position, in order. -/
def children (s : Snapshot) (position : Nat) : List Nat :=
  s.hop (s.stop position) s.size (position + 1)

/-- The position of the parent of a position. -/
def parent (s : Snapshot) (position : Nat) : Option Nat :=
  (s.entry? position).bind Entry.parent

/-- The steps from a position up to the root; `fuel` bounds their number. -/
def trail (s : Snapshot) : Nat → Nat → List Step
  | 0, _ => []
  | fuel + 1, position =>
    match s.entry? position with
    | none => []
    | some e =>
      match e.parent with
      | none => [e.step]
      | some p => e.step :: s.trail fuel p

/-- The steps from the root to a position. -/
def path (s : Snapshot) (position : Nat) : List Step := (s.trail s.size position).reverse

/-! ### Finding a location again -/

/-- What two paths have to share to count as the same place: the last step, and the steps
between the root and it that are no generic containers. -/
def relocationKey (path : List Step) : List Step :=
  match path.getLast? with
  | none => []
  | some target =>
    (path.dropLast.drop 1).filter (fun s => s.kind != .other) ++ [target]

/-- The positions whose path counts as the same place as the given one. -/
def matching (s : Snapshot) (path : List Step) : List Nat :=
  let key := relocationKey path
  (List.range s.size).filter fun p => relocationKey (s.path p) == key

/-- The position at a location. -/
def locate (s : Snapshot) (l : Location) : Option Nat := (s.matching l.path)[l.index]?

/-! ### JSON -/

/-- An entry in JSON, as listings show it. -/
def Entry.json (position : Nat) (e : Entry) : Value :=
  .object ([("index", .ofNat (index position)), ("depth", .ofNat e.depth)]
    ++ e.step.jsonFields
    ++ (e.frame.map fun f => ("frame", f.json)).toList
    ++ (e.hittable.map fun b => ("hittable", Value.flag b)).toList)

end Snapshot

end ScreenPages
