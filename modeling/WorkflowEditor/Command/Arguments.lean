import WorkflowEditor.Id

/-!
# WorkflowEditor.Command.Arguments

The command line: one of six commands with its arguments, and options before
or behind the command's name.

* An option's value is the next argument or stands behind a `=`; a value that
  starts with a dash needs the `=`.
* Behind `--` every argument is taken as it is, with or without a dash.
* No option may be given twice on one side of the command's name; of a
  `--config` on either side the one behind counts.
* A request for help ends the reading with the first fault not yet met.
-/

namespace WorkflowEditor

/-- What the program is asked to do. -/
inductive Command where
  | list
  | show (id : WorkflowId)
  | new (title : String) (description : Option String)
  | delete (id : WorkflowId)
  | run (id : WorkflowId) (input : String)
  | palette
deriving DecidableEq, Repr

/-- A command and the settings file that is named for it. -/
structure Invocation where
  config : Option String
  command : Command
deriving DecidableEq, Repr

namespace Command

/-- Why arguments are refused. -/
inductive UsageError where
  | unexpected (argument : String)
  | missingValue (option : String)
  | repeated (option : String)
  | missingCommand
  | unknownCommand (name : String)
  | missingArguments (names : List String)
deriving DecidableEq, Repr

/-- What arguments come to if not to an invocation. -/
inductive Halt where
  | help
  | version
  | refused (error : UsageError)
deriving DecidableEq, Repr

def UsageError.message : UsageError → String
  | unexpected argument => "unexpected argument '" ++ argument ++ "' found"
  | missingValue option => "a value is required for '--" ++ option ++ "' but none was supplied"
  | repeated option => "the argument '--" ++ option ++ "' cannot be used multiple times"
  | missingCommand => "'agentflow' requires a subcommand but one was not provided"
  | unknownCommand name => "unrecognized subcommand '" ++ name ++ "'"
  | missingArguments names =>
      "the following required arguments were not provided: " ++ ", ".intercalate names

/-! ## single arguments -/

/-- What an argument looks like, not knowing what precedes it. -/
inductive Word where
  /-- all that follows is taken as it is -/
  | escape
  /-- the name of an option, and the value behind a `=` if there is one -/
  | option (name : String) (value : Option String)
  /-- letters behind one dash -/
  | letters (first : Char)
  | plain
deriving DecidableEq, Repr

def Word.ofArgument (argument : String) : Word :=
  match argument.toList with
  | ['-', '-'] => escape
  | '-' :: '-' :: cs =>
      match cs.dropWhile (· != '=') with
      | [] => option (String.ofList cs) none
      | _ :: value => option (String.ofList (cs.takeWhile (· != '='))) (some (String.ofList value))
  | '-' :: first :: _ => letters first
  | _ => plain

/-! ## options and what stands between them -/

/-- What was read on one side of the command's name: the values of options, and
the arguments that belong to none. -/
structure Side where
  options : List (String × String) := []
  plain : List String := []
deriving DecidableEq, Repr

def Side.option? (side : Side) (name : String) : Option String :=
  (side.options.find? fun o => o.1 == name).map (·.2)

/-- The option that names the settings file, known everywhere. -/
def configOption : String := "config"

def descriptionOption : String := "description"

/-- A value for an option that may not have one yet; the name of a file may not be empty. -/
def Side.give (side : Side) (name value : String) : Except Halt Side :=
  if name = configOption ∧ value.isEmpty then .error (.refused (.missingValue name))
  else if (side.option? name).isSome then .error (.refused (.repeated name))
  else .ok { side with options := side.options ++ [(name, value)] }

/-- An argument that belongs to no option, if there is room for one more. -/
def Side.take (side : Side) (room : Nat) (argument : String) : Except Halt Side :=
  if side.plain.length < room then .ok { side with plain := side.plain ++ [argument] }
  else .error (.refused (.unexpected argument))

/-- Reads options with the given names, and up to `room` other arguments. -/
def readSide (names : List String) (room : Nat) (side : Side) : List String → Except Halt Side
  | [] => .ok side
  | argument :: rest =>
      match Word.ofArgument argument with
      | .escape => rest.foldlM (fun s a => s.take room a) side
      | .plain => do readSide names room (← side.take room argument) rest
      | .letters first =>
          .error (if first = 'h' then .help else .refused (.unexpected argument))
      | .option name value =>
          if name = "help" then
            .error (if value.isNone then .help else .refused (.unexpected argument))
          else if names.contains name then
            match value, rest with
            | some value, rest => do readSide names room (← side.give name value) rest
            | none, value :: rest =>
                if Word.ofArgument value = .plain then do
                  readSide names room (← side.give name value) rest
                else .error (.refused (.missingValue name))
            | none, [] => .error (.refused (.missingValue name))
          else .error (.refused (.unexpected argument))

/-! ## commands -/

/-- What a command takes: its options beside `--config`, the names of its
arguments, and what it is for. -/
structure Form where
  name : String
  options : List String
  arguments : List String
  about : String
deriving DecidableEq, Repr

def forms : List Form :=
  [⟨"list", [], [], "List saved workflows"⟩,
   ⟨"show", [], ["ID"], "Show a workflow's nodes, edges and readiness"⟩,
   ⟨"new", [descriptionOption], ["TITLE"], "Create an empty workflow"⟩,
   ⟨"delete", [], ["ID"], "Delete a workflow"⟩,
   ⟨"run", [], ["ID", "INPUT"], "Save and execute a workflow with the given input"⟩,
   ⟨"palette", [], [], "List the node kinds available to workflows"⟩]

/-- The command with a name and what was read behind it, if all its arguments are there. -/
def build? (name : String) (side : Side) : Option Command :=
  match name, side.plain with
  | "list", [] => some list
  | "show", [id] => some (.show ⟨id⟩)
  | "new", [title] => some (new title (side.option? descriptionOption))
  | "delete", [id] => some (delete ⟨id⟩)
  | "run", [id, input] => some (run ⟨id⟩ input)
  | "palette", [] => some palette
  | _, _ => none

/-- What follows the command `help`: nothing, or the name of a command. -/
def readHelp : List String → Halt
  | [] => .help
  | name :: rest =>
      if name = "help" ∨ forms.any (fun f => f.name == name) then
        match rest with
        | [] => .help
        | other :: _ => .refused (.unknownCommand other)
      else .refused (.unknownCommand name)

/-- What follows the name of a command. -/
def readCommand (config : Option String) (name : String) (rest : List String) :
    Except Halt Invocation :=
  if name = "help" then .error (readHelp rest)
  else
    match forms.find? fun f => f.name == name with
    | none => .error (.refused (.unknownCommand name))
    | some form => do
        let side ← readSide (configOption :: form.options) form.arguments.length {} rest
        match build? name side with
        | some command => return ⟨(side.option? configOption).or config, command⟩
        | none => throw (.refused (.missingArguments (form.arguments.drop side.plain.length)))

/-- Reads all arguments; `config` is the settings file named so far. -/
def readArguments (config : Option String) : List String → Except Halt Invocation
  | [] => .error (.refused .missingCommand)
  | argument :: rest =>
      match Word.ofArgument argument with
      | .escape =>
          .error (.refused (match rest with
            | [] => .missingCommand
            | a :: _ => .unexpected a))
      | .plain => readCommand config argument rest
      | .letters 'h' => .error .help
      | .letters 'V' => .error .version
      | .letters _ => .error (.refused (.unexpected argument))
      | .option "help" none => .error .help
      | .option "version" none => .error .version
      | .option name value =>
          if name ≠ configOption then .error (.refused (.unexpected argument))
          else
            let side : Side := ⟨(config.map fun c => (configOption, c)).toList, []⟩
            match value, rest with
            | some value, rest => do
                readArguments ((← side.give name value).option? name) rest
            | none, value :: rest =>
                if Word.ofArgument value = .plain then do
                  readArguments ((← side.give name value).option? name) rest
                else .error (.refused (.missingValue name))
            | none, [] => .error (.refused (.missingValue name))

/-- The invocation that the arguments of a command line stand for. -/
def ofArguments (arguments : List String) : Except Halt Invocation :=
  readArguments none arguments

end Command

end WorkflowEditor
