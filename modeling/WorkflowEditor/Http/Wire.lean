import WorkflowEditor.Http.Client

/-!
# WorkflowEditor.Http.Wire

HTTP/1.1 messages as bytes.  Every message asks for the connection to be
closed, so an answer is complete when the connection ends; its body has the
stated length, comes in chunks, or is all the rest.
-/

namespace WorkflowEditor.Http

/-! ## messages -/

/-- The host as it is named in a message; a port of one's own is added. -/
def hostField (url : Url) : String :=
  if url.port = (if url.secure then 443 else 80) then url.host
  else url.host ++ ":" ++ toString url.port

def Message.head (m : Message) (bodySize : Nat) : String :=
  String.intercalate "\r\n" <|
    [m.method.name ++ " " ++ m.url.target ++ " HTTP/1.1", "host: " ++ hostField m.url,
      "accept: */*", "connection: close"]
    ++ (if m.body.isSome then
        ["content-type: application/json", "content-length: " ++ toString bodySize]
      else [])
    ++ ["", ""]

def Message.bytes (m : Message) : ByteArray :=
  let body := (m.body.map fun v => v.compact.toUTF8).getD .empty
  (m.head body.size).toUTF8 ++ body

/-! ## answers -/

/-- The line at the front, without its end, and what follows it. -/
def takeLine? : List UInt8 → Option (List UInt8 × List UInt8)
  | 13 :: 10 :: rest => some ([], rest)
  | b :: rest => (takeLine? rest).map fun (line, after) => (b :: line, after)
  | [] => none

/-- The bytes as text; bytes that are no text become U+FFFD. -/
def textOf (bs : List UInt8) : String :=
  match String.fromUTF8? (ByteArray.mk bs.toArray) with
  | some s => s
  | none => String.ofList (bs.map fun b => if b < 128 then Char.ofNat b.toNat else '\ufffd')

/-- The fields of a head by name in lower case, and what follows the head. -/
def fields? (fuel : Nat) (bs : List UInt8) : Option (List (String × String) × List UInt8) :=
  match fuel with
  | 0 => none
  | fuel + 1 => do
      let (line, rest) ← takeLine? bs
      if line = [] then return ([], rest)
      let cs := (textOf line).toList
      let name := String.ofList ((cs.takeWhile (· != ':')).map Char.toLower)
      let value := Text.trim (String.ofList ((cs.dropWhile (· != ':')).drop 1))
      let (fields, rest) ← fields? fuel rest
      return ((name, value) :: fields, rest)

/-- The status in the first line of an answer. -/
def status? (line : List UInt8) : Option Nat :=
  let digits := ((textOf line).toList.dropWhile (· != ' ')).drop 1 |>.take 3
  if digits.length = 3 ∧ digits.all Char.isDigit then some (Nat.ofDigitChars 10 digits 0) else none

/-- The bytes of a body in chunks. -/
def chunks? (fuel : Nat) (bs : List UInt8) : Option (List UInt8) :=
  match fuel with
  | 0 => none
  | fuel + 1 => do
      let (line, rest) ← takeLine? bs
      let digits := (textOf line).toList.takeWhile fun c => (Json.hexValue? c).isSome
      let size := digits.foldl (fun n c => 16 * n + (Json.hexValue? c).getD 0) 0
      if digits = [] ∨ rest.length < size then none
      if size = 0 then return []
      let (_, after) ← takeLine? (rest.drop size)
      return rest.take size ++ (← chunks? fuel after)

/-- Status and body of a whole answer. -/
def answer? (bs : List UInt8) : Option (Nat × String) := do
  let (line, rest) ← takeLine? bs
  let status ← status? line
  let (fields, rest) ← fields? bs.length rest
  let field? (name : String) : Option String := (fields.find? fun f => f.1 == name).map (·.2)
  let body ←
    if status = 204 ∨ status = 304 then some []
    else if (field? "transfer-encoding").any (·.map Char.toLower == "chunked") then
      chunks? rest.length rest
    else
      match (field? "content-length").bind String.toNat? with
      | some n => if rest.length < n then none else some (rest.take n)
      | none => some rest
  return (status, textOf body)

/-- The outcome of a message whose connection ended with these bytes read. -/
def outcomeOf (millis : Nat) (bs : ByteArray) : Outcome :=
  match answer? bs.toList with
  | some (status, text) => .answered millis status text
  | none => .failed "connection closed before message completed"

end WorkflowEditor.Http
