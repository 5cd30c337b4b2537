import XdpSteering.Decision
import XdpSteering.KeyedList

/-!
# The table of registered queues

A table maps receive queues to endpoints and holds a bounded number of queues. Replacing the
endpoint of a queue always succeeds; a new queue needs room. A table is a value, so a snapshot of it
is the list of its entries and no later write reaches it.
-/

namespace XdpSteering

/-- The endpoints of the registered queues. -/
structure QueueTable where
  capacity : UInt32
  /-- The registered queues in ascending order. -/
  entries : KeyedList QueueIndex Endpoint := []
  deriving DecidableEq, Repr

inductive TableError where
  /-- The queue is new and the table holds as many queues as it may. -/
  | capacityExceeded (queue : QueueIndex) (capacity : UInt32)
  deriving DecidableEq, Repr

def TableError.message : TableError → String
  | .capacityExceeded queue capacity =>
    "cannot register queue " ++ toString queue.toNat ++ ": table is full ("
      ++ toString capacity.toNat ++ " entries)"

namespace QueueTable

def empty (capacity : UInt32) : QueueTable := { capacity }

/-- The endpoint registered for a queue. -/
def get? (table : QueueTable) (queue : QueueIndex) : Option Endpoint :=
  KeyedList.find? queue table.entries

def size (table : QueueTable) : Nat := table.entries.length

def isEmpty (table : QueueTable) : Bool := table.entries.isEmpty

/-- Whether a new queue would find no room. -/
def isFull (table : QueueTable) : Bool := table.capacity.toNat ≤ table.size

/-- Registers an endpoint for a queue; answers with the endpoint it replaces. -/
def register (table : QueueTable) (queue : QueueIndex) (endpoint : Endpoint) :
    Except TableError (Option Endpoint × QueueTable) :=
  let previous := table.get? queue
  -- A queue that is registered keeps its place, however full the table is.
  if previous.isNone && table.isFull then
    .error (.capacityExceeded queue table.capacity)
  else
    .ok (previous, { table with entries := table.entries.insert queue endpoint })

/-- Removes a queue; answers with the endpoint that was registered. -/
def unregister (table : QueueTable) (queue : QueueIndex) : Option Endpoint × QueueTable :=
  (table.get? queue, { table with entries := table.entries.erase queue })

end QueueTable

end XdpSteering
