import WorkflowEditor.Json.Token

/-!
# WorkflowEditor.Json.Parser

JSON values from tokens: a machine that takes one token at a time and keeps
the arrays and objects still open on a stack.  A text is one value and nothing
else; at most 127 arrays and objects may be open at once; of two members with
one key the later wins.
-/

namespace WorkflowEditor.Json

/-- An array or object that is still open. -/
inductive Frame where
  /-- the items read so far, last first -/
  | items (read : List Json)
  /-- the members read so far -/
  | members (read : Fields)
  /-- the members read so far and the key of the value that is being read -/
  | member (read : Fields) (key : String)

/-- What may come next. -/
inductive Phase where
  | value
  | itemOrEnd
  | keyOrEnd
  | key
  | colon (key : String)
  | commaOrEnd
  | done (v : Json)

/-- The state between two tokens. -/
structure Machine where
  stack : List Frame
  phase : Phase

/-- How many arrays and objects may be open at once. -/
def depthLimit : Nat := 127

namespace Machine

def start : Machine := ⟨[], .value⟩

/-- A value is complete: it goes into the innermost open array or object. -/
def complete (stack : List Frame) (v : Json) : Option Machine :=
  match stack with
  | [] => some ⟨[], .done v⟩
  | .items read :: rest => some ⟨.items (v :: read) :: rest, .commaOrEnd⟩
  | .member read key :: rest => some ⟨.members (read.insert key v) :: rest, .commaOrEnd⟩
  | .members _ :: _ => none

/-- An array or object begins. -/
def enter (stack : List Frame) (frame : Frame) (phase : Phase) : Option Machine :=
  if stack.length < depthLimit then some ⟨frame :: stack, phase⟩ else none

/-- A value begins, or is a single token. -/
def value (stack : List Frame) : Token → Option Machine
  | .scalar v => complete stack v
  | .text s => complete stack (.str s)
  | .bracketOpen => enter stack (.items []) .itemOrEnd
  | .braceOpen => enter stack (.members []) .keyOrEnd
  | _ => none

/-- The innermost array or object ends. -/
def close : List Frame → Token → Option Machine
  | .items read :: rest, .bracketClose => complete rest (.arr read.reverse)
  | .members read :: rest, .braceClose => complete rest (.obj read)
  | _, _ => none

/-- One token. -/
def step (m : Machine) (t : Token) : Option Machine :=
  match m.phase, m.stack, t with
  | .value, stack, t => value stack t
  | .itemOrEnd, stack, .bracketClose => close stack .bracketClose
  | .itemOrEnd, stack, t => value stack t
  | .keyOrEnd, stack, .text s => some ⟨stack, .colon s⟩
  | .keyOrEnd, stack, t => close stack t
  | .key, stack, .text s => some ⟨stack, .colon s⟩
  | .colon key, .members read :: rest, .colon => some ⟨.member read key :: rest, .value⟩
  | .commaOrEnd, .items read :: rest, .comma => some ⟨.items read :: rest, .value⟩
  | .commaOrEnd, .members read :: rest, .comma => some ⟨.members read :: rest, .key⟩
  | .commaOrEnd, stack, t => close stack t
  | _, _, _ => none

/-- All tokens, in order. -/
def run (m : Machine) (ts : List Token) : Option Machine := ts.foldlM step m

/-- The value, once it is complete. -/
def result? (m : Machine) : Option Json :=
  match m.phase with
  | .done v => some v
  | _ => none

end Machine

/-- The value a text spells. -/
def parse? (text : String) : Option Json := do
  let ts ← tokens? text.toList
  let m ← Machine.start.run ts
  m.result?

end WorkflowEditor.Json
