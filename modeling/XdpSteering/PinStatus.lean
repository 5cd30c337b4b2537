import XdpSteering.Conf
import XdpSteering.Pin
import XdpSteering.Summary

/-!
# The state of the pinned objects

What is pinned for a configuration, and the summary of it.
-/

namespace XdpSteering

open Operation

/-- What is pinned for a configuration. -/
structure PinStatus where
  /-- The capacity of the socket map, if there is one. -/
  mapCapacity : Option UInt32
  linkPinned : Bool
  deriving DecidableEq, Repr

namespace PinStatus

/-- What a summary says of the socket map. -/
def mapText : Option UInt32 → String
  | some capacity => "✓ yes (" ++ toString capacity.toNat ++ " queues)"
  | none => "✗ no"

def linkText (pinned : Bool) : String :=
  if pinned then "✓ yes (program stays attached)" else "✗ no"

def render (conf : Conf) (status : PinStatus) : String :=
  Summary.heading "xsksteer status"
    ++ Summary.line "Interface:     " conf.interface
    ++ Summary.line "Socket map:    " conf.socketMap.mapPath.display
    ++ Summary.line "  Pinned:      " (mapText status.mapCapacity)
    ++ Summary.line "XDP link:      " conf.linkPinPath.display
    ++ Summary.line "  Pinned:      " (linkText status.linkPinned)
    ++ Summary.rule

def event (status : PinStatus) : Event where
  level := .info
  target := .pins
  name := "cli.status"
  message := "collected pinned object status"
  fields := [("ebpf.map.pinned", .flag status.mapCapacity.isSome),
    ("ebpf.link.pinned", .flag status.linkPinned)]

def collect (host : Host) (conf : Conf) : Operation PinStatus := do
  let mapPath := conf.socketMap.mapPath
  let mapCapacity ←
    if ← Pin.isPinned mapPath then
      let sockets ← Pin.openMap host mapPath
      pure (some sockets.capacity)
    else pure none
  let linkPinned ← Pin.isPinned conf.linkPinPath
  return { mapCapacity, linkPinned }

end PinStatus

end XdpSteering
