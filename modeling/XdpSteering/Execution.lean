import XdpSteering.Cli
import XdpSteering.Diagnosis
import XdpSteering.PinStatus
import XdpSteering.Sockets

/-!
# Carrying out commands

What each command does. All but the ones that only look around insist on capabilities before they
touch anything.
-/

namespace XdpSteering.Execution

open Operation

/-! ## Pins -/

def noLinkEvent (path : Path) : Event where
  level := .warn
  target := .pins
  name := "cli.detach.no_link"
  message := "no pinned link found, nothing to detach"
  fields := [("ebpf.link.pin_path", .shown path.display)]

def noMapEvent (path : Path) : Event where
  level := .warn
  target := .pins
  name := "cli.unpin.no_map"
  message := "no pinned socket map found"
  fields := [("ebpf.map.pin_path", .shown path.display)]

/-- Detaches a program left attached through a pinned link. -/
def detach (host : Host) (conf : Conf) : Operation Unit := do
  require host Capability.linkAdmin
  let path := conf.linkPinPath
  unless ← Pin.detachLink host path do
    report (noLinkEvent path)

def unpin (host : Host) (conf : Conf) : Operation Unit := do
  require host Capability.mapAdmin
  let path := conf.socketMap.mapPath
  unless ← Pin.unpinMap path do
    report (noMapEvent path)

def showStatus (host : Host) (conf : Conf) : Operation Unit := do
  let status ← PinStatus.collect host conf
  report status.event
  print (status.render conf)

/-! ## Sockets -/

def registeredEvent (queue : QueueIndex) (pid descriptor : Int32) : Event where
  level := .info
  target := .sockets
  name := "cli.register.completed"
  message := "frames on queue " ++ toString queue.toNat ++ " now go to fd "
    ++ toString descriptor.toInt ++ " of pid " ++ toString pid.toInt
  fields := [("queue.index", .number queue.toNat), ("process.pid", .number pid.toInt),
    ("socket.fd", .number descriptor.toInt)]

def unregisteredEvent (queue : QueueIndex) : Event where
  level := .info
  target := .sockets
  name := "cli.unregister.completed"
  message := "frames on queue " ++ toString queue.toNat ++ " now pass to the network stack"
  fields := [("queue.index", .number queue.toNat)]

/-- Registers a socket of another process for a queue. -/
def register (host : Host) (conf : Conf) (queue : QueueIndex) (pid descriptor : Int32) :
    Operation Unit := do
  require host Capability.register
  let sockets ← Pin.openMap host conf.socketMap.mapPath
  let duplicate ← Peer.takeOver host pid descriptor
  sockets.register queue duplicate
  report (registeredEvent queue pid descriptor)

def unregister (host : Host) (conf : Conf) (queue : QueueIndex) : Operation Unit := do
  require host Capability.mapAdmin
  let sockets ← Pin.openMap host conf.socketMap.mapPath
  sockets.unregister queue
  report (unregisteredEvent queue)

/-! ## All commands -/

/-- Carries out a command, or runs the program if there is none. -/
def execute (host : Host) (conf : Conf) : Option Command → Operation Unit
  | none => Loader.run host conf
  | some (.register queue pid descriptor) => register host conf queue pid descriptor
  | some (.unregister queue) => unregister host conf queue
  | some .detach => detach host conf
  | some .unpin => unpin host conf
  | some .status => showStatus host conf
  | some .diagnose => Diagnosis.run host conf

end XdpSteering.Execution
