import XdpSteering.Operation

/-!
# Pinned objects

An object that outlives its loader is pinned: it has a path. A path at which nothing exists has no
object; of what exists at a path the kernel alone knows whether it is one.
-/

namespace XdpSteering.Pin

open Operation

def isPinned (path : Path) : Operation Bool := return (← files).pathExists path

/-! ## Maps -/

def openedEvent (path : Path) (capacity : UInt32) : Event where
  level := .debug
  target := .socketMap
  name := "socket_map.opened"
  message := "opened pinned socket map"
  fields := [("ebpf.map.pin_path", .shown path.display),
    ("ebpf.map.capacity", .number capacity.toNat)]

/-- Opens the socket map that is pinned at a path. -/
def openMap (host : Host) (path : Path) : Operation SocketMap := do
  if ← isPinned path then
    let sockets ← ofExcept (host.bpf.openSockets (← files) path)
    report (openedEvent path sockets.capacity)
    return sockets
  else throw (.mapUnavailable path)

def unpinnedEvent (path : Path) : Event where
  level := .info
  target := .program
  name := "socket_map.unpinned"
  message := "removed socket map pin"
  fields := [("ebpf.map.pin_path", .shown path.display)]

/-- Removes the pin of a socket map. Says whether there was one. -/
def unpinMap (path : Path) : Operation Bool := do
  match (← files).unlink path with
  | .ok files =>
    setFiles files
    report (unpinnedEvent path)
    return true
  | .error reason =>
    if reason = .noEntry then return false
    else throw (.io ("failed to remove pin " ++ path.display) reason)

/-! ## Links -/

/-- Pins a link, which the program no longer has then. -/
def pinLink (link : XdpLink) (path : Path) : Operation Unit := do
  ofExcept (link.take.mapError .program)
  ofExcept (link.toDescriptor.mapError .link)
  let pinned ← request (link.pin path)
  ofExcept (pinned.mapError (.pin path))

def detachedEvent (path : Path) : Event where
  level := .info
  target := .program
  name := "xdp.detached"
  message := "detached XDP program from pinned link"
  fields := [("ebpf.link.pin_path", .shown path.display)]

/-- Detaches the program behind the link that is pinned at a path. Says whether there is one. -/
def detachLink (host : Host) (path : Path) : Operation Bool := do
  if ← isPinned path then
    let link ← ofExcept ((host.bpf.openLink (← files) path).mapError .link)
    let unpinned ← request link.unpin
    ofExcept (unpinned.mapError (.io ("failed to unpin link " ++ path.display)))
    report (detachedEvent path)
    return true
  else return false

end XdpSteering.Pin
