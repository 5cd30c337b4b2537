import XdpSteering.Level

/-!
# Events

What the program reports while it runs: a message with a name and named values, from one of its
parts.
-/

namespace XdpSteering

/-- A part of the program that reports events. -/
inductive Target where
  | main
  | program
  | socketMap
  | descriptor
  | capabilities
  | run
  | pins
  | sockets
  | diagnose
  deriving DecidableEq, Repr

def Target.path : Target → String
  | .main => "xsksteer"
  | .program => "xsksteer::program"
  | .socketMap => "xsksteer::socket_map"
  | .descriptor => "xsksteer::pidfd"
  | .capabilities => "xsksteer::runtime::capabilities"
  | .run => "xsksteer::runtime::commands::run"
  | .pins => "xsksteer::runtime::commands::pins"
  | .sockets => "xsksteer::runtime::commands::sockets"
  | .diagnose => "xsksteer::runtime::commands::diagnose"

inductive FieldValue where
  /-- Text that is written between quotes. -/
  | text (value : String)
  /-- Text that is written as it is. -/
  | shown (value : String)
  | number (value : Int)
  | flag (value : Bool)
  deriving DecidableEq, Repr

structure Event where
  level : Level
  target : Target
  name : String
  message : String
  fields : List (String × FieldValue) := []
  deriving DecidableEq, Repr

end XdpSteering
