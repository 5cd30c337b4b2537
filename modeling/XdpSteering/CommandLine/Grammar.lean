import XdpSteering.Cli
import XdpSteering.Environment

/-!
# The grammar of command lines

The options a command line may give, the commands it may name, and the values that options take.
-/

namespace XdpSteering.CommandLine

open XdpSteering.Text

def callName : String := "xsksteer"

def version : String := "0.1.0"

/-- An option that takes a value. -/
inductive Opt where
  | config
  | logLevel
  | interface
  | queue
  | pid
  | descriptor
  deriving DecidableEq, Repr

/-- A command without the values of its options. -/
inductive Verb where
  | register
  | unregister
  | detach
  | unpin
  | status
  | diagnose
  deriving DecidableEq, Repr

/-- Which options are at hand: those in front of a command, or those of the command. -/
inductive Scope where
  | main
  | verb (verb : Verb)
  deriving DecidableEq, Repr

/-! ## Commands -/

namespace Verb

/-- The commands, in the order in which they are listed. -/
def all : List Verb := [.register, .unregister, .detach, .unpin, .status, .diagnose]

def name : Verb → String
  | .register => "register"
  | .unregister => "unregister"
  | .detach => "detach"
  | .unpin => "unpin"
  | .status => "status"
  | .diagnose => "diagnose"

/-- What a command does. -/
def about : Verb → String
  | .register => "Register an AF_XDP socket owned by another process for a receive queue"
  | .unregister => "Remove the socket registered for a receive queue"
  | .detach => "Detach a program left attached through a pinned link"
  | .unpin => "Remove the pinned socket map"
  | .status => "Show the state of pinned objects"
  | .diagnose => "Check capabilities, bpffs and an attach/detach round trip on the interface"

def ofName? (name : Octets) : Option Verb :=
  all.find? fun verb => Utf8.encode verb.name = name

end Verb

/-- The command that asks for a description of the others. -/
def helpName : String := "help"

def helpAbout : String := "Print this message or the help of the given subcommand(s)"

/-! ## Options -/

namespace Opt

/-- The name behind two dashes. -/
def long : Opt → String
  | .config => "config"
  | .logLevel => "log-level"
  | .interface => "interface"
  | .queue => "queue"
  | .pid => "pid"
  | .descriptor => "fd"

/-- The letter behind one dash. -/
def short? : Opt → Option Char
  | .config => some 'c'
  | .logLevel => some 'l'
  | .interface => some 'i'
  | .queue => some 'q'
  | .pid | .descriptor => none

def valueName : Opt → String
  | .config => "FILE"
  | .logLevel => "LEVEL"
  | .interface => "IFACE"
  | .queue => "QUEUE"
  | .pid => "PID"
  | .descriptor => "FD"

/-- The variable that gives the option its value when the command line does not. -/
def variableName? : Opt → Option String
  | .config => some "XSKSTEER_CONFIG_PATH"
  | .logLevel => some "XSKSTEER_LOG_LEVEL"
  | .interface => some "XSKSTEER_INTERFACE"
  | _ => none

/-- The option with its value, as messages show it. -/
def shown (opt : Opt) : String := "--" ++ opt.long ++ " <" ++ opt.valueName ++ ">"

end Opt

namespace Scope

/-- The options at hand, in the order in which they are listed. -/
def options : Scope → List Opt
  | .main => [.config, .logLevel, .interface]
  | .verb .register => [.queue, .pid, .descriptor]
  | .verb .unregister => [.queue]
  | .verb _ => []

/-- Whether the options at hand have to be given. -/
def demands : Scope → Bool
  | .main => false
  | .verb _ => true

/-- What an option is for. -/
def about (scope : Scope) (opt : Opt) : String :=
  match scope, opt with
  | _, .config => "Set the path to the configuration file (e.g., \"config.yaml\")"
  | _, .logLevel => "Set the application's log level (e.g., \"debug\", \"warn\")"
  | _, .interface => "Network interface the XDP program is attached to (e.g., \"eth0\")"
  | .verb .register, .queue => "Receive queue whose frames are steered to the socket"
  | _, .queue => ""
  | _, .pid => "Process that owns the socket"
  | _, .descriptor => "Socket file descriptor number inside that process"

/-- The words in front of the options. -/
def call : Scope → String
  | .main => callName
  | .verb command => callName ++ " " ++ command.name

end Scope

/-! ## Values -/

inductive OptValue where
  | path (path : Path)
  | level (level : Level)
  | text (text : String)
  | number (number : Int)
  deriving DecidableEq, Repr

/-- Why a string of octets is no value of an option. -/
inductive BadValue where
  /-- The value is empty. -/
  | missing
  | notText
  /-- The text says something else; the words say why. -/
  | refused (text reason : String)
  deriving DecidableEq, Repr

/-- The numbers an option takes. -/
structure Range where
  low : Int
  high : Int
  deriving DecidableEq, Repr

def queueRange : Range := ⟨0, 4294967295⟩

def numberRange : Range := ⟨-2147483648, 2147483647⟩

/-- Reads a number of 64 bits that has to lie in a range. -/
def readNumber (range : Range) (text : String) : Except BadValue Int :=
  match Numeral.readSigned 10 Numeral.signedMin64 Numeral.signedMax64 text.toList with
  | .error fault => .error (.refused text fault.message)
  | .ok number =>
    if range.low ≤ number ∧ number ≤ range.high then .ok number
    else
      .error (.refused text (toString number ++ " is not in " ++ toString range.low ++ "..="
        ++ toString range.high))

def readText (octets : Octets) : Except BadValue String :=
  match Utf8.decode? octets with
  | some text => .ok text
  | none => .error .notText

def Opt.read (opt : Opt) (octets : Octets) : Except BadValue OptValue :=
  match opt with
  | .config => if octets.isEmpty then .error .missing else .ok (.path ⟨octets⟩)
  | .logLevel => do
    let text ← readText octets
    match Level.read? text with
    | some level => return .level level
    | none => throw (.refused text Level.readError)
  | .interface => (readText octets).map .text
  | .queue => do return .number (← readNumber queueRange (← readText octets))
  | .pid | .descriptor => do return .number (← readNumber numberRange (← readText octets))

end XdpSteering.CommandLine
