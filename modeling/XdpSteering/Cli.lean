import XdpSteering.Level
import XdpSteering.Path
import XdpSteering.Value
import XdpSteering.Verdict

/-!
# Requests

What a command line asks for: settings that override the configuration, and a command.
-/

namespace XdpSteering

/-- What the program is asked to do, other than to run. -/
inductive Command where
  | register (queue : QueueIndex) (pid descriptor : Int32)
  | unregister (queue : QueueIndex)
  /-- Detaches a program left attached through a pinned link. -/
  | detach
  | unpin
  | status
  /-- Checks capabilities, the file system of the pins, and an attachment. -/
  | diagnose
  deriving DecidableEq, Repr

def Command.name : Command → String
  | .register .. => "register"
  | .unregister _ => "unregister"
  | .detach => "detach"
  | .unpin => "unpin"
  | .status => "status"
  | .diagnose => "diagnose"

structure Cli where
  config : Option Path := none
  logLevel : Option Level := none
  interface : Option String := none
  /-- The command; without one the program runs. -/
  command : Option Command := none
  deriving DecidableEq, Repr

/-- The layer of settings in a request. -/
def Cli.toValue (cli : Cli) : Value :=
  .ofPairs (
    (cli.logLevel.toList.map fun level => ("log_level", .text level.name))
      ++ (cli.interface.toList.map fun interface => ("interface", .text interface)))

end XdpSteering
