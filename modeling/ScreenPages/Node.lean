import ScreenPages.Step

/-!
# Screens

What an application shows is a tree of **nodes**.  A node has the attributes of a step, may
have a frame on the display, may say whether it can be tapped now, and has child nodes in
order.  Trees are exchanged as JSON, in the form of accessibility dumps.

## Main definitions

* `Frame` — a rectangle on the display.
* `Node` — a node with everything below it.
* `Node.decoder`, `Node.json` — a tree in JSON.
-/

namespace ScreenPages

open Json

/-- A rectangle on the display, from its upper left corner. -/
structure Frame where
  x : Float
  y : Float
  width : Float
  height : Float
  deriving BEq, Repr, Inhabited

namespace Frame

/-- The middle of a frame. -/
def center (f : Frame) : Float × Float := (f.x + f.width / 2, f.y + f.height / 2)

/-- The fields of a frame while it is read. -/
structure Draft where
  x : Option Float := none
  y : Option Float := none
  width : Option Float := none
  height : Option Float := none

/-- The fields of a frame. -/
def fields : List (RecordField Draft) :=
  [ .of "x" Draft.x (fun a s => { s with x := some a }) Decoder.real,
    .of "y" Draft.y (fun a s => { s with y := some a }) Decoder.real,
    .of "width" Draft.width (fun a s => { s with width := some a }) Decoder.real,
    .of "height" Draft.height (fun a s => { s with height := some a }) Decoder.real ]

/-- The frame of a complete draft. -/
def ofDraft (s : Draft) : Except Fault Frame := do
  return ⟨← orMissing "x" s.x, ← orMissing "y" s.y, ← orMissing "width" s.width,
    ← orMissing "height" s.height⟩

/-- Reads a frame. -/
def decoder : Decoder Frame := fun limit d => do
  ofDraft (← Decoder.record "struct ElementFrame" fields false {} limit d)

/-- A frame in JSON. -/
def json (f : Frame) : Value :=
  .object [("x", .ofFloat f.x), ("y", .ofFloat f.y), ("width", .ofFloat f.width),
    ("height", .ofFloat f.height)]

end Frame

/-- A node of a screen with everything below it. -/
structure Node where
  /-- What identifies the node. -/
  step : Step
  frame : Option Frame := none
  /-- Whether the node can be tapped, if the screen says so. -/
  hittable : Option Bool := none
  children : List Node := []
  deriving Repr, Inhabited

namespace Node

mutual

/-- The number of nodes of a tree. -/
def size : Node → Nat
  | ⟨_, _, _, children⟩ => 1 + sizeList children

/-- The number of nodes of several trees. -/
def sizeList : List Node → Nat
  | [] => 0
  | n :: ns => size n + sizeList ns

end

/-! ### JSON -/

/-- The fields of a node while it is read. -/
structure Draft where
  kind : Option Kind := none
  identifier : Option String := none
  label : Option String := none
  value : Option (Option String) := none
  frame : Option (Option Frame) := none
  hittable : Option (Option Bool) := none
  children : Option (List Node) := none

/-- A text for which `null` stands for the empty one. -/
def textOrNull : Decoder String := fun limit d =>
  (Decoder.optional Decoder.text limit d).map fun s => s.getD ""

/-- The fields of a node, given how its children are read. -/
def fields (child : Decoder Node) : List (RecordField Draft) :=
  [ .of "type" Draft.kind (fun a s => { s with kind := some a }) Kind.decoder,
    .of "AXUniqueId" Draft.identifier (fun a s => { s with identifier := some a }) textOrNull
      .anywhere,
    .of "AXLabel" Draft.label (fun a s => { s with label := some a }) textOrNull .anywhere,
    .of "AXValue" Draft.value (fun a s => { s with value := some a }) (.optional Decoder.text)
      .anywhere,
    .of "frame" Draft.frame (fun a s => { s with frame := some a }) (.optional Frame.decoder)
      .anywhere,
    .of "hittable" Draft.hittable (fun a s => { s with hittable := some a })
      (.optional Decoder.flag) .anywhere,
    .of "children" Draft.children (fun a s => { s with children := some a }) (.list child)
      .anywhere ]

/-- The node of a complete draft. -/
def ofDraft (s : Draft) : Except Fault Node := do
  let kind ← orMissing "type" s.kind
  return ⟨⟨kind, s.identifier.getD "", s.label.getD "", s.value.join⟩, s.frame.join,
    s.hittable.join, s.children.getD []⟩

/-- Reads a node, given how its children are read. -/
def decoderWith (child : Decoder Node) : Decoder Node := fun limit d => do
  ofDraft (← Decoder.record "struct UIElement" (fields child) false {} limit d)

/-- Reads a tree.  A node and its list of children are one level of nesting each. -/
def decoder : Decoder Node
  | limit + 2, d => decoderWith (fun _ => decoder limit) (limit + 2) d
  | limit, d => decoderWith (fun _ _ => .error .nestingLimit) limit d

mutual

/-- A tree in JSON. -/
def json : Node → Value
  | ⟨step, frame, hittable, children⟩ =>
    .object ([("type", step.kind.json), ("AXUniqueId", .text step.identifier),
        ("AXLabel", .text step.label)]
      ++ (step.value.map fun v => ("AXValue", Value.text v)).toList
      ++ (frame.map fun f => ("frame", f.json)).toList
      ++ (hittable.map fun b => ("hittable", Value.flag b)).toList
      ++ [("children", .array (jsonList children))])

/-- Several trees in JSON. -/
def jsonList : List Node → List Value
  | [] => []
  | n :: ns => json n :: jsonList ns

end

end Node

end ScreenPages
