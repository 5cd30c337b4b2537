import XdpSteering.Text.Numeral

/-!
# Log levels

The five levels, from the one that says least to the one that says most, and the texts that name
them.
-/

namespace XdpSteering

inductive Level where
  | error
  | warn
  | info
  | debug
  | trace
  deriving DecidableEq, Repr

namespace Level

/-- The levels, the one that says least first. -/
def all : List Level := [.error, .warn, .info, .debug, .trace]

def name : Level → String
  | .error => "ERROR"
  | .warn => "WARN"
  | .info => "INFO"
  | .debug => "DEBUG"
  | .trace => "TRACE"

/-- The number of a level, from one. -/
def rank : Level → Nat
  | .error => 1
  | .warn => 2
  | .info => 3
  | .debug => 4
  | .trace => 5

/-- Reads a level from its number or from its name in any case of its letters. -/
def read? (text : String) : Option Level :=
  match Text.Numeral.readUnsigned 10 Text.Numeral.max64 text.toList with
  | .ok number => all.find? fun level => level.rank = number
  | .error _ => all.find? fun level => level.name.toList = text.toList.map Char.toUpper

/-- What is said of a text that is no level. -/
def readError : String :=
  "error parsing level: expected one of \"error\", \"warn\", \"info\", \"debug\", \"trace\", "
    ++ "or a number 1-5"

/-- The filter that logs this program at a level and everything else from warnings up. -/
def directives (level : Level) : String :=
  "warn,xsksteer=" ++ level.name ++ ",xsksteer_ebpf=" ++ level.name

end Level

end XdpSteering
