import WorkflowEditor.Connection

/-!
# WorkflowEditor.Palette

Dragging a kind from the palette onto the canvas: what a drag carries, where on
the canvas a point of the screen lies, and the node that a drop makes.
-/

namespace WorkflowEditor

/-! ## the canvas on the screen -/

/-- A point of the screen. -/
structure Point where
  x : Double
  y : Double
deriving DecidableEq, Repr

def Point.origin : Point := ⟨.zero, .zero⟩

/-- How a canvas is shown: its corner on the screen, how far it is panned, and its zoom. -/
structure Viewport where
  bounds : Point
  pan : Point
  zoom : Double
deriving DecidableEq, Repr

namespace Viewport

/-- A zoom that is not a finite positive number counts as one. -/
def effectiveZoom (v : Viewport) : Double :=
  if v.zoom.isFinite && v.zoom.isPositive then v.zoom else .ofNat 1

/-- The place on the canvas that is shown at a point of the screen. -/
def toCanvas (v : Viewport) (p : Point) : Position :=
  ⟨(p.x - v.bounds.x - v.pan.x) / v.effectiveZoom, (p.y - v.bounds.y - v.pan.y) / v.effectiveZoom⟩

end Viewport

/-! ## drags -/

/-- What a drag from the palette carries. -/
structure DragPayload where
  nodeType : String
  nodeName : String
  nodeCategory : String
deriving DecidableEq, Repr

namespace DragPayload

/-- What a drag of a kind carries. -/
def ofKind (kind : Kind) : DragPayload :=
  ⟨kind.typeId, kind.descriptor.displayName, kind.category.name⟩

def toJson (p : DragPayload) : Json :=
  .object [("nodeType", .str p.nodeType), ("nodeName", .str p.nodeName),
    ("nodeCategory", .str p.nodeCategory)]

def checkMember (key : String) (v : Json) : Except ReadError Unit :=
  if key = "nodeType" ∨ key = "nodeName" ∨ key = "nodeCategory" then discard v.asString
  else .ok ()

/-- A payload is an object, or a list of type, name and category; each may be left out. -/
def ofJson : Json → Except ReadError DragPayload
  | .obj fields => do
      Fields.check fields checkMember
      return {
        nodeType := ← Fields.defaulted fields "nodeType" "" Json.asString
        nodeName := ← Fields.defaulted fields "nodeName" "" Json.asString
        nodeCategory := ← Fields.defaulted fields "nodeCategory" "" Json.asString }
  | .arr items => do
      let nodeType ← Items.element items 0 (.ok "") Json.asString
      let nodeName ← Items.element items 1 (.ok "") Json.asString
      let nodeCategory ← Items.element items 2 (.ok "") Json.asString
      Items.checkLength items 3
      return ⟨nodeType, nodeName, nodeCategory⟩
  | v => .error (.wrongKind v (.record "DragPayload"))

end DragPayload

namespace Registry

/-- The category that a dropped node records: the given one, else that of its kind. -/
def recordedCategory (given : String) (descriptor : Descriptor) : String :=
  let trimmed := Text.trim given
  if trimmed.isEmpty then descriptor.category.name else trimmed

/-- The node that a drop makes; nothing for a type that is not registered. -/
def dropped? (registry : Registry) (payload : DragPayload) (place : Position) (stamp : Stamp) :
    Option Node :=
  (registry.lookup? (Text.trim payload.nodeType)).map fun d =>
    (Node.new (NodeId.mint d.typeId stamp) d.typeId place).withCategory
      (recordedCategory payload.nodeCategory d)

/-- Adds the node that a drop makes, unless its id is taken. -/
def drop? (registry : Registry) (g : Graph) (payload : DragPayload) (place : Position)
    (stamp : Stamp) : Option (Node × Graph) :=
  match registry.dropped? payload place stamp with
  | none => none
  | some node => (g.addNode node).toOption.map fun g => (node, g)

end Registry

end WorkflowEditor
