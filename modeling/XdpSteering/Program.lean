import XdpSteering.CommandLine.Parse
import XdpSteering.Conf.Layers
import XdpSteering.Execution
import XdpSteering.Log.Filter
import XdpSteering.Log.Line

/-!
# The program

A whole run: the command line is read, the configuration is put together, and the command is carried
out. The first of these that fails ends the run.
-/

namespace XdpSteering

open XdpSteering.Text

/-- What a run is given: its machine, its files, the variables and the arguments, and the time that
is written in front of its reports. -/
structure Invocation where
  host : Host
  files : FileSystem
  environment : Environment
  arguments : List Octets
  time : String

/-- What a run comes to. -/
structure Outcome where
  exitCode : Nat
  stdout : String := ""
  stderr : String := ""
  /-- The files as the run leaves them. -/
  files : FileSystem

namespace Program

/-! ## Failures -/

/-- The lines of a text with a mark in front of the first one and blanks in front of the others. -/
def marked (mark : String) (text : String) : String :=
  let blanks := String.ofList (List.replicate mark.length ' ')
  mark ++ String.join (text.toList.map fun char =>
    if char = '\n' then "\n" ++ blanks else char.toString)

/-- A number in front of a cause. -/
def causeMark (index : Nat) : String := padLeft 5 ' ' (toString index) ++ ": "

/-- The text of a failure with its causes, which are numbered if there is more than one. -/
def failureText (message : String) (causes : List String) : String :=
  let below :=
    match causes with
    | [] => ""
    | [cause] => "\n\nCaused by:\n" ++ marked "    " cause
    | causes =>
      "\n\nCaused by:" ++ String.join (causes.zipIdx.map fun (cause, index) =>
        "\n" ++ marked (causeMark index) cause)
  "Error: " ++ message ++ below ++ "\n"

/-- The texts of the causes of a failed configuration. -/
def confCauses (error : Conf.Error) : List String := error.message :: error.source?.toList

def failedEvent (error : SteerError) : Event where
  level := .error
  target := .main
  name := "xsksteer.failed"
  message := "xsksteer exited with an error"
  fields := [("error.message", .shown error.message)]

/-! ## The log -/

def filterVariable : String := "RUST_LOG"

/-- The variable that turns colours off. -/
def plainVariable : String := "NO_COLOR"

def textOf? (environment : Environment) (name : String) : Option String :=
  (environment.get? name).bind Utf8.decode?

def logFilter (environment : Environment) (level : Level) : Log.Filter :=
  let given := (textOf? environment filterVariable).bind Log.Filter.read?
  given.getD ((Log.Filter.read? level.directives).getD [])

def render (filter : Log.Filter) (colored : Bool) (time : String) (output : List Output) : String :=
  String.join (output.map fun
    | .event event => if filter.allows event then Log.line colored time event else ""
    | .text text => text)

/-! ## Runs -/

/-- A run that ends with a notice. -/
def notify (invocation : Invocation) (notice : CommandLine.Notice) : Outcome :=
  let text := notice.text invocation.environment
  { exitCode := notice.exitCode
    stdout := if notice.isAnswer then text else ""
    stderr := if notice.isAnswer then "" else text
    files := invocation.files }

/-- A run that ends without a configuration. -/
def refuse (invocation : Invocation) (error : Conf.Error) : Outcome where
  exitCode := 1
  stderr := failureText error.message (confCauses error)
  files := invocation.files

/-- Carries out an operation, and reports its failure. -/
def perform (operation : Operation Unit) : Operation Unit := do
  match ← Operation.attempt operation with
  | .ok () => pure ()
  | .error error =>
    Operation.report (failedEvent error)
    throw error

/-- A run that carries out an operation. -/
def conclude (invocation : Invocation) (conf : Conf) (operation : Operation Unit) : Outcome :=
  let filter := logFilter invocation.environment conf.logLevel
  let colored := (textOf? invocation.environment plainVariable).isNone
  let written := fun (world : World) => render filter colored invocation.time world.output
  match perform operation { files := invocation.files } with
  | .ok () world => { exitCode := 0, stdout := written world, files := world.files }
  | .error error world => {
      exitCode := 1
      stdout := written world
      stderr := failureText error.message error.causes
      files := world.files }

/-- A whole run. Its layers of settings are numbered from one. -/
def run (invocation : Invocation) : Outcome :=
  match CommandLine.parse invocation.environment invocation.arguments with
  | .error notice => notify invocation notice
  | .ok cli =>
    match Conf.prepare invocation.files invocation.environment cli (some 1) with
    | .error error => refuse invocation error
    | .ok (conf, cli) =>
      conclude invocation conf (Execution.execute invocation.host conf cli.command)

end Program

end XdpSteering
