/-!
# Command lines

A command line is the name of a command, the arguments that the command takes, and any number of
`--out` flags with a value, of which the last counts. The flags may stand anywhere behind the name,
and only commands that write a document take them. `Command.parse` accepts exactly these lines.
-/

set_option autoImplicit false

namespace VideoSurvey

/-- A command of the program. -/
inductive Command where
  | compile (file : String) (out : Option String)
  | create (file : String)
  | get (id : String)
  | list
  | update (id file : String)
  | delete (id : String)
  | generate (id : String) (out : Option String)
deriving DecidableEq, Repr

/-- Why a command line is not accepted. -/
inductive UsageFault where
  | help
  | unknownCommand (name : String)
  | unknownFlag (flag : String)
  | outWithoutValue
  | missing (command what : String)
  | unexpected (command argument : String)
  | outRefused (command : String)
deriving DecidableEq, Repr

/-- What the program says about itself. -/
def helpLines : List String :=
  ["survey-overlay",
   "",
   "Commands:",
   "  survey-overlay compile FILE [--out overlay.html]",
   "  survey-overlay create FILE",
   "  survey-overlay get ID",
   "  survey-overlay list",
   "  survey-overlay update ID FILE",
   "  survey-overlay delete ID",
   "  survey-overlay generate ID [--out overlay.html]",
   "",
   "Environment:",
   "  SURVEY_OVERLAY_DB        SQLite file for stored surveys; when unset, surveys",
   "                           live only for the current command",
   "  SURVEY_OVERLAY_SETTINGS  generator settings JSON (defaults when unset)",
   "  RUST_LOG                 log filter, default survey_overlay=info"]

/-- The help text. -/
def helpText : String := "\n".intercalate helpLines

/-- Wording of a fault. -/
def UsageFault.message : UsageFault → String
  | .help => helpText
  | .unknownCommand name => "unknown command: " ++ name ++ "\n\n" ++ helpText
  | .unknownFlag flag => "unknown flag: " ++ flag
  | .outWithoutValue => "--out requires a value"
  | .missing command what => command ++ " requires " ++ what
  | .unexpected command argument => command ++ ": unexpected argument " ++ argument
  | .outRefused command => command ++ " does not accept --out"

/-- Whether an argument is written as a flag. -/
def isFlag (argument : String) : Bool :=
  match argument.toList with
  | '-' :: '-' :: _ => true
  | _ => false

/-- The arguments of a command line without its flags. -/
structure Arguments where
  positional : List String
  out : Option String
deriving DecidableEq, Repr

/-- Parts the flags from the other arguments. -/
def Arguments.split : List String → Except UsageFault Arguments
  | [] => .ok ⟨[], none⟩
  | "--out" :: [] => .error .outWithoutValue
  | "--out" :: value :: r => do
      let found ← split r
      .ok { found with out := some (found.out.getD value) }
  | argument :: r =>
      if isFlag argument then .error (.unknownFlag argument)
      else do
        let found ← split r
        .ok { found with positional := argument :: found.positional }

namespace Command

/-- A fault when there are more arguments than a command takes. -/
def refuseMore (command : String) (count : Nat) (found : Arguments) : Except UsageFault Unit :=
  match found.positional.drop count with
  | [] => .ok ()
  | argument :: _ => .error (.unexpected command argument)

/-- A fault when there is an `--out` flag. -/
def refuseOut (command : String) (found : Arguments) : Except UsageFault Unit :=
  match found.out with
  | none => .ok ()
  | some _ => .error (.outRefused command)

/-- The argument at a place. -/
def take (command what : String) (index : Nat) (found : Arguments) : Except UsageFault String :=
  match found.positional[index]? with
  | some argument => .ok argument
  | none => .error (.missing command what)

/-- The command of a name with its arguments. -/
def ofArguments (name : String) (found : Arguments) : Except UsageFault Command :=
  match name with
  | "compile" => do
      refuseMore name 1 found
      let file ← take name "FILE" 0 found
      .ok (.compile file found.out)
  | "create" => do
      refuseMore name 1 found
      refuseOut name found
      let file ← take name "FILE" 0 found
      .ok (.create file)
  | "get" => do
      refuseMore name 1 found
      refuseOut name found
      let id ← take name "ID" 0 found
      .ok (.get id)
  | "list" => do
      refuseMore name 0 found
      refuseOut name found
      .ok .list
  | "update" => do
      refuseMore name 2 found
      refuseOut name found
      let id ← take name "ID" 0 found
      let file ← take name "FILE" 1 found
      .ok (.update id file)
  | "delete" => do
      refuseMore name 1 found
      refuseOut name found
      let id ← take name "ID" 0 found
      .ok (.delete id)
  | "generate" => do
      refuseMore name 1 found
      let id ← take name "ID" 0 found
      .ok (.generate id found.out)
  | "help" => .error .help
  | "--help" => .error .help
  | "-h" => .error .help
  | _ => .error (.unknownCommand name)

/-- The command of a command line. -/
def parse : List String → Except UsageFault Command
  | [] => .error .help
  | name :: r => do
      let found ← Arguments.split r
      ofArguments name found

end Command

end VideoSurvey
