import Std.Async.DNS
import Std.Async.TCP
import Std.Async.Timer
import WorkflowEditor.Command.Program
import WorkflowEditor.Http.Wire

/-!
# WorkflowEditor.Main

The program on the operating system: it reads the command line, the settings
file and the environment, and carries messages over the network.  What is done
with them is said in `WorkflowEditor.Command.Program`.
-/

namespace WorkflowEditor

open Std.Async

/-! ## the network -/

namespace Http

/-- Where to connect to. -/
def socketAddress (ip : Std.Net.IPAddr) (port : UInt16) : Std.Net.SocketAddress :=
  match ip with
  | .v4 addr => .v4 ⟨addr, port⟩
  | .v6 addr => .v6 ⟨addr, port⟩

/-- Sends a message over a connection of its own and reads until the connection ends. -/
def exchange (m : Message) : Async ByteArray := do
  let host := String.ofList (m.url.host.toList.filter fun c => c != '[' && c != ']')
  let addresses ← DNS.getAddrInfo host (toString m.url.port)
  match addresses[0]? with
  | none => throw (IO.userError "the host has no address")
  | some ip =>
      let socket ← TCP.Socket.Client.mk
      socket.connect (socketAddress ip (UInt16.ofNat m.url.port))
      socket.send m.bytes
      let mut read := ByteArray.empty
      repeat
        match ← socket.recv? 65536 with
        | some bytes => read := read ++ bytes
        | none => break
      return read

/-- What comes of a message within some milliseconds. -/
def outcome (limit : Nat) (m : Message) : IO Outcome := do
  if m.url.secure then return .failed "no encrypted connection can be made"
  let start ← IO.monoMsNow
  let late : Async (Option ByteArray) := do
    sleep (Std.Time.Millisecond.Offset.ofNat limit)
    return none
  try
    match ← (Async.race (some <$> exchange m) late).block with
    | some bytes => return outcomeOf ((← IO.monoMsNow) - start) bytes
    | none => return .silent
  catch e => return .failed (toString e)

end Http

/-- The reply of the service that the settings name. -/
def askService (settings : Settings) (r : Request) : IO Reply := do
  let limit := settings.requestTimeoutSecs * 1000
  match Http.message? settings.baseUrl r with
  | none => return Http.unsendable
  | some m =>
      return Http.reply limit r (← Http.outcome (if r.isTimed then limit else settings.deadline) m)

/-- Lets a dialogue take place. -/
def Dialogue.perform (serve : Request → IO Reply) : Dialogue α → IO α
  | .done a => return a
  | .ask r next => do perform serve (next (← serve r))
  | .announce _ next => perform serve next

/-! ## files and the environment -/

/-- The content of each of the files that there is. -/
def readFiles (paths : List String) : IO (List (String × String)) :=
  paths.filterMapM fun (path : String) => do
    try
      return some (path, Http.textOf (← IO.FS.readBinFile path).toList)
    catch _ => return none

/-- The variables of the environment of this process. -/
def readEnvironment : IO (List (String × String)) := do
  try
    let bytes ← IO.FS.readBinFile "/proc/self/environ"
    let entries := (Http.textOf bytes.toList).splitOn "\x00"
    return entries.filterMap fun entry =>
      match entry.splitOn "=" with
      | name :: value :: more => some (name, "=".intercalate (value :: more))
      | _ => none
  catch _ => return []

/-! ## the program -/

/-- Carries out an invocation. -/
def Invocation.perform (i : Invocation) : IO (Except CommandError String) := do
  let askNothing (_ : Request) : IO Reply := return Http.unsendable
  if i.command.isOffline then (i.command.dialogue 0).perform askNothing
  else
    let files ← readFiles (i.config.elim [] Settings.candidates)
    let contents (path : String) : Option String :=
      (files.find? fun f => f.1 == path).map (·.2)
    match i.settings contents (← readEnvironment) with
    | .error e => return .error e
    | .ok settings => (i.command.dialogue settings.deadline).perform (askService settings)

end WorkflowEditor

open WorkflowEditor in
def main (arguments : List String) : IO UInt32 := do
  let ending ← match Command.ofArguments arguments with
    | .error halt => pure (Ending.ofHalt halt)
    | .ok invocation => pure (Ending.ofResult (← invocation.perform))
  IO.print ending.output
  IO.eprint ending.errors
  return UInt32.ofNat ending.status
