import WorkflowEditor.Command.Arguments
import WorkflowEditor.Http.Client
import WorkflowEditor.Report
import WorkflowEditor.Session

/-!
# WorkflowEditor.Command.Program

What the program does and prints.  Each command is a dialogue with the service
that ends with the text to print or with a failure; a program that fails
prints nothing but the failure.
-/

namespace WorkflowEditor

/-- Why a command fails. -/
inductive CommandError where
  | settings (fault : Settings.Fault)
  | service (error : ServiceError)
  | run (failure : RunFailure)
deriving DecidableEq, Repr

def CommandError.message : CommandError → String
  | settings fault => "configuration error: " ++ fault.message
  | service error => error.message
  | run failure => "run failed: " ++ failure.message

namespace Command

/-! ## commands as dialogues -/

/-- Does an operation of a session, and goes on with its value. -/
def andThen (d : Dialogue (Except ServiceError α × Session))
    (next : α → Session → Dialogue (Except CommandError String)) :
    Dialogue (Except CommandError String) :=
  d.bind fun
    | (.ok a, s) => next a s
    | (.error e, _) => .done (.error (.service e))

def line (text : String) : Except CommandError String := .ok (text ++ "\n")

/-- The text that the end of a run prints. -/
def runText : RunState → Except CommandError String
  | .completed content => line content
  | .failed failure => .error (.run failure)
  | _ => .ok ""

/-- The command in a fresh session, with the time that an execution has. -/
def dialogue (deadline : Nat) : Command → Dialogue (Except CommandError String)
  | list => andThen (Session.new deadline).list fun all _ => .done (.ok (Report.summaries all))
  | .show id =>
      andThen ((Session.new deadline).openWorkflow id) fun _ s =>
        .done (.ok (Report.workflow s.document s.store.graph))
  | new title description =>
      andThen ((Session.new deadline).newWorkflow title (description.getD "")) fun id _ =>
        .done (line id.text)
  | delete id =>
      andThen ((Session.new deadline).openWorkflow id) fun _ s =>
        andThen s.delete fun _ _ => .done (line ("deleted " ++ id.text))
  | run id input =>
      andThen ((Session.new deadline).openWorkflow id) fun _ s =>
        (s.run input).bind fun (state, _) => .done (runText state)
  | palette => .done (.ok (Report.palette .builtin))

/-- Does a command work without settings? -/
def isOffline (command : Command) : Bool := command = palette

end Command

/-! ## the program -/

/-- How the program ends. -/
structure Ending where
  status : Nat
  output : String
  errors : String
deriving DecidableEq, Repr

namespace Ending

def ofResult : Except CommandError String → Ending
  | .ok text => ⟨0, text, ""⟩
  | .error e => ⟨1, "", "error: " ++ e.message ++ "\n"⟩

def formLine (form : Command.Form) : String := "  " ++ Report.padTo 8 form.name ++ " " ++ form.about

def helpText : String :=
  Report.lines <|
    ["Build and run agent workflows", "", "Usage: agentflow [OPTIONS] <COMMAND>", "", "Commands:"]
    ++ Command.forms.map formLine
    ++ ["  help     Print this message or the help of the given subcommand(s)", "", "Options:",
      "      --config <CONFIG>  TOML configuration file; AGENTFLOW__* variables override it",
      "  -h, --help             Print help", "  -V, --version          Print version"]

def ofHalt : Command.Halt → Ending
  | .help => ⟨0, helpText, ""⟩
  | .version => ⟨0, "agentflow 0.1.0\n", ""⟩
  | .refused e => ⟨2, "", "error: " ++ e.message ++ "\n"⟩

end Ending

namespace Invocation

/-- The settings for an invocation. -/
def settings (i : Invocation) (contents : String → Option String)
    (environment : List (String × String)) : Except CommandError Settings :=
  (Settings.load contents i.config environment).mapError .settings

/-- Carries out an invocation with files, an environment and a peer. -/
def run (i : Invocation) (contents : String → Option String)
    (environment : List (String × String)) (peer : Http.Peer σ) (s : σ) :
    Except CommandError String × List Event × σ :=
  if i.command.isOffline then
    (i.command.dialogue 0).run (Http.service {} peer) s
  else
    match i.settings contents environment with
    | .error e => (.error e, [], s)
    | .ok settings => (i.command.dialogue settings.deadline).run (Http.service settings peer) s

end Invocation

/-- The whole program: arguments, files, environment and a peer to an ending. -/
def program (arguments : List String) (contents : String → Option String)
    (environment : List (String × String)) (peer : Http.Peer σ) (s : σ) : Ending × σ :=
  match Command.ofArguments arguments with
  | .error halt => (.ofHalt halt, s)
  | .ok invocation =>
      let (result, _, s) := invocation.run contents environment peer s
      (.ofResult result, s)

end WorkflowEditor
