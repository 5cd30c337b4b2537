import XdpSteering.Level
import XdpSteering.Path
import XdpSteering.Verdict
import XdpSteering.Text.Blank

/-!
# Configurations

What the loader and the commands are configured with, the values that hold unless something else is
asked for, and the paths that follow from them.
-/

namespace XdpSteering

/-- How the program is attached to an interface. -/
inductive AttachMode where
  /-- The kernel picks the driver's own mode where there is one. -/
  | automatic
  /-- In the network stack, with every driver. -/
  | skb
  | driver
  /-- On the card. -/
  | hardware
  deriving DecidableEq, Repr

namespace AttachMode

/-- The modes, in the order in which they are listed. -/
def all : List AttachMode := [.automatic, .skb, .driver, .hardware]

def name : AttachMode → String
  | .automatic => "default"
  | .skb => "skb"
  | .driver => "driver"
  | .hardware => "hardware"

def ofName? (name : String) : Option AttachMode :=
  all.find? fun mode => mode.name = name

/-- The flags that ask the kernel for a mode. -/
def flags : AttachMode → UInt32
  | .automatic => 0
  | .skb => 2
  | .driver => 4
  | .hardware => 8

end AttachMode

/-- The section about the program and its link. -/
structure ProgramConf where
  /-- The compiled object. -/
  objectPath : String := "<DEFAULT_OBJECT>"
  /-- Whether the link is pinned, so that the program stays attached. -/
  pinLink : Bool := false
  /-- Where the link is pinned, unless next to the map. -/
  linkPinPath : Option String := none
  deriving DecidableEq, Repr

structure TraceConf where
  /-- Whether the program leaves a record of every frame. -/
  enabled : Bool := true
  deriving DecidableEq, Repr

structure SocketMapConf where
  /-- How many queues can be registered. -/
  capacity : UInt32 := defaultCapacity
  /-- The directory in which the map is pinned. -/
  pinPath : String := "/sys/fs/bpf/xsksteer"
  /-- Whether the pinned map outlives the loader. -/
  persist : Bool := true
  deriving DecidableEq, Repr

structure Conf where
  interface : String := "eth0"
  /-- The file the configuration was read from. -/
  configPath : Option Path := none
  logLevel : Level := .info
  attachMode : AttachMode := .automatic
  program : ProgramConf := {}
  trace : TraceConf := {}
  socketMap : SocketMapConf := {}
  deriving DecidableEq, Repr

def SocketMapConf.pinDirectory (conf : SocketMapConf) : Path := Path.ofString conf.pinPath

def SocketMapConf.mapPath (conf : SocketMapConf) : Path :=
  conf.pinDirectory.join (Path.ofString socketMapName)

namespace Conf

def linkName (interface : String) : String := "link_" ++ interface

/-- Where the link of the configured interface is pinned. -/
def linkPinPath (conf : Conf) : Path :=
  match conf.program.linkPinPath with
  | some path => Path.ofString path
  | none => conf.socketMap.pinDirectory.join (Path.ofString (linkName conf.interface))

def objectPath (conf : Conf) : Path := Path.ofString conf.program.objectPath

/-- Why a readable configuration cannot be used. -/
inductive Unusable where
  | emptyInterface
  | capacity (value : UInt32)
  deriving DecidableEq, Repr

/-- Refuses a configuration without an interface or with a capacity that is out of range. -/
def validate (conf : Conf) : Except Unusable Unit :=
  if Text.isBlankText conf.interface then .error .emptyInterface
  else if conf.socketMap.capacity < 1 || maxCapacity < conf.socketMap.capacity then
    .error (.capacity conf.socketMap.capacity)
  else .ok ()

end Conf

end XdpSteering
