import XdpSteering.SteerError

/-!
# Descriptors of other peers

A socket is taken over from the process that owns it: the process is opened by its number, and the
descriptor is then duplicated.
-/

namespace XdpSteering

structure Peer where
  pid : Int32
  /-- Its open descriptors, unless the caller may not take any. -/
  descriptors : Option (List Int32)
  deriving DecidableEq, Repr

namespace Peer

/-- Opens a process by its number. -/
def openPeer (peers : List Peer) (pid : Int32) : Except SteerError Peer :=
  if pid ≤ 0 then .error (.internal ("invalid pid " ++ toString pid.toInt))
  else
    match peers.find? fun peer => peer.pid = pid with
    | some peer => .ok peer
    | none =>
      .error (.io ("failed to open pidfd for pid " ++ toString pid.toInt) OsError.noProcess)

/-- Duplicates a descriptor of an opened process. -/
def duplicate (peer : Peer) (descriptor : Int32) : Except SteerError Unit :=
  if descriptor < 0 then
    .error (.internal ("invalid file descriptor " ++ toString descriptor.toInt))
  else
    let context := "failed to duplicate fd " ++ toString descriptor.toInt ++ " through pidfd"
    match peer.descriptors with
    | none => .error (.io context OsError.notPermitted)
    | some descriptors =>
      if descriptors.contains descriptor then .ok ()
      else .error (.io context OsError.badDescriptor)

def duplicateFrom (peers : List Peer) (pid descriptor : Int32) : Except SteerError Unit := do
  (← openPeer peers pid).duplicate descriptor

end Peer

end XdpSteering
