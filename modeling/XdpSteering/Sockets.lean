import XdpSteering.Operation

/-!
# Sockets

Registering sockets in a map that was opened, and taking them over from the processes that own them.
-/

namespace XdpSteering

open Operation

namespace SocketMap

def registeredEvent (queue : QueueIndex) (descriptor : Int32) : Event where
  level := .info
  target := .socketMap
  name := "socket_map.registered"
  message := "registered AF_XDP socket for receive queue"
  fields := [("queue.index", .number queue.toNat), ("socket.fd", .number descriptor.toInt)]

def unregisteredEvent (queue : QueueIndex) : Event where
  level := .info
  target := .socketMap
  name := "socket_map.unregistered"
  message := "cleared receive queue slot"
  fields := [("queue.index", .number queue.toNat)]

/-- Puts the socket behind a descriptor into the slot of a queue. -/
def register (sockets : SocketMap) (queue : QueueIndex) (descriptor : Int32) : Operation Unit := do
  ofExcept (checkQueue queue sockets.capacity)
  ofExcept ((sockets.set queue descriptor).mapError .map)
  report (registeredEvent queue descriptor)

/-- Clears the slot of a queue, whether or not a socket is in it. -/
def unregister (sockets : SocketMap) (queue : QueueIndex) : Operation Unit := do
  ofExcept (checkQueue queue sockets.capacity)
  let context := "failed to clear socket map slot " ++ toString queue.toNat
  ofExcept ((sockets.clear queue).mapError (.io context))
  report (unregisteredEvent queue)

end SocketMap

namespace Peer

def duplicatedEvent (pid descriptor duplicate : Int32) : Event where
  level := .debug
  target := .descriptor
  name := "pidfd.fd_duplicated"
  message := "duplicated descriptor from owning process"
  fields := [("process.pid", .number pid.toInt), ("remote.fd", .number descriptor.toInt),
    ("local.fd", .number duplicate.toInt)]

/-- Takes a descriptor over from the process with this number, and gives the own one. -/
def takeOver (host : Host) (pid descriptor : Int32) : Operation Int32 := do
  ofExcept (duplicateFrom host.peers pid descriptor)
  report (duplicatedEvent pid descriptor host.nextDescriptor)
  return host.nextDescriptor

end Peer

end XdpSteering
