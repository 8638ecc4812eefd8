import WorkflowEditor.Category
import WorkflowEditor.Id

/-!
# WorkflowEditor.Node

The nodes of a workflow: an id, the id of a kind, a place on the canvas, and a
map of data of which only the category is interpreted here.  Members that are
not known are kept in `extra` and written back.

* `withoutLocalState` — the marks `selected` and `dragging` never leave the editor.
-/

namespace WorkflowEditor

/-! ## places on the canvas -/

/-- A point of the canvas. -/
structure Position where
  x : Double
  y : Double
deriving DecidableEq, Repr

namespace Position

def origin : Position := ⟨.zero, .zero⟩

/-- Equality of the coordinates as numbers. -/
def same (a b : Position) : Bool := a.x.same b.x && a.y.same b.y

/-- Below this limit every whole double stands for one integer only. -/
def wholeLimit : Nat := 0x20000000000000

/-- A whole coordinate is written without a point; one that is not finite as null. -/
def coordinateToJson (d : Double) : Json :=
  match d.whole? with
  | some i => if i.natAbs < wholeLimit then .ofInt i else .num (.double d)
  | none => if d.isFinite then .num (.double d) else .null

def toJson (p : Position) : Json :=
  .object [("x", coordinateToJson p.x), ("y", coordinateToJson p.y)]

def checkMember (key : String) (v : Json) : Except ReadError Unit :=
  if key = "x" ∨ key = "y" then discard v.asDouble else .ok ()

/-- A position is an object with `x` and `y`, or a list of the two. -/
def ofJson : Json → Except ReadError Position
  | .obj fields => do
      Fields.check fields checkMember
      let x ← Fields.required fields "x" Json.asDouble
      let y ← Fields.required fields "y" Json.asDouble
      return ⟨x, y⟩
  | .arr items => do
      let x ← Items.element items 0 (.error (.tooShort 0 "Position" 2)) Json.asDouble
      let y ← Items.element items 1 (.error (.tooShort 1 "Position" 2)) Json.asDouble
      Items.checkLength items 2
      return ⟨x, y⟩
  | v => .error (.wrongKind v (.record "Position"))

end Position

/-! ## nodes -/

/-- A node of a workflow. -/
structure Node where
  id : NodeId
  typeId : String
  position : Position
  data : Fields
  extra : Fields
deriving Repr

namespace Node

/-- The entry of the data that holds the category. -/
def categoryKey : String := "category"

/-- Marks that the canvas sets on nodes and that are not sent. -/
def localKeys : List String := ["selected", "dragging"]

/-- A node without data. -/
def new (id : NodeId) (typeId : String) (position : Position) : Node :=
  ⟨id, typeId, position, [], []⟩

def withData (node : Node) (key : String) (value : Json) : Node :=
  { node with data := node.data.insert key value }

def withCategory (node : Node) (category : String) : Node :=
  node.withData categoryKey (.str category)

/-- The category the data names, if it names one. -/
def category? (node : Node) : Option Category :=
  match (node.data.get? categoryKey).bind Json.string? with
  | some s => (Category.ofText s).toOption
  | none => none

/-- The node as it is sent: without the marks of the canvas. -/
def withoutLocalState (node : Node) : Node :=
  { node with extra := node.extra.without localKeys }

/-- Equality with coordinates and data compared as numbers. -/
def same (a b : Node) : Bool :=
  a.id == b.id && a.typeId == b.typeId && a.position.same b.position &&
    Json.sameMembers a.data b.data && Json.sameMembers a.extra b.extra

/-- The members that are fields of a node. -/
def fieldNames : List String := ["id", "type", "position", "data"]

def toJson (node : Node) : Json :=
  .obj ((Fields.ofPairs
    [("id", node.id.toJson), ("type", .str node.typeId), ("position", node.position.toJson),
      ("data", .obj node.data)]).extend node.extra)

def checkMember (key : String) (v : Json) : Except ReadError Unit :=
  if key = "id" ∨ key = "type" then discard v.asString
  else if key = "position" then discard (Position.ofJson v)
  else if key = "data" then discard v.asMap
  else .ok ()

/-- A node is an object with texts `id` and `type`; the position defaults to
the origin and the data to nothing. -/
def ofJson (v : Json) : Except ReadError Node := do
  let fields ← v.asRecord "Node"
  fields.check checkMember
  return {
    id := ← fields.required "id" Id.ofJson
    typeId := ← fields.required "type" Json.asString
    position := ← fields.defaulted "position" .origin Position.ofJson
    data := ← fields.defaulted "data" [] Json.asMap
    extra := fields.without fieldNames }

end Node

end WorkflowEditor
