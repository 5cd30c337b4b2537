import XdpSteering.QueueTable

/-!
# Sessions with a table

A session is a run of requests to one table, each of which is answered. Next to the table it keeps
the snapshots that were held.
-/

namespace XdpSteering.QueueTable

inductive Request where
  | register (queue : QueueIndex) (endpoint : Endpoint)
  | unregister (queue : QueueIndex)
  | get (queue : QueueIndex)
  | size
  | isEmpty
  | capacity
  | snapshot
  /-- Keeps the entries of this moment. -/
  | hold
  /-- Reads the entries kept by the hold of this number. -/
  | held (index : Nat)
  /-- Decides a frame against the table, with a transport that always answers `status`. -/
  | decide (queue : QueueIndex) (status : Verdict)
  deriving DecidableEq, Repr

inductive Answer where
  | registered (previous : Option Endpoint)
  | rejected (error : TableError)
  | unregistered (removed : Option Endpoint)
  | endpoint (found : Option Endpoint)
  | count (size : Nat)
  | flag (value : Bool)
  | bound (capacity : UInt32)
  | entries (content : KeyedList QueueIndex Endpoint)
  /-- The number of a held snapshot. -/
  | index (number : Nat)
  /-- There is no snapshot of this number. -/
  | notHeld
  | decided (decision : Decision) (records : List TraceRecord)
  deriving DecidableEq, Repr

/-- A table in use, and the snapshots held so far, oldest first. -/
structure Session where
  table : QueueTable
  held : List (KeyedList QueueIndex Endpoint) := []
  deriving DecidableEq, Repr

namespace Session

def start (capacity : UInt32) : Session := { table := .empty capacity }

def step (session : Session) : Request → Answer × Session
  | .register queue endpoint =>
    match session.table.register queue endpoint with
    | .ok (previous, table) => (.registered previous, { session with table })
    | .error error => (.rejected error, session)
  | .unregister queue =>
    let (removed, table) := session.table.unregister queue
    (.unregistered removed, { session with table })
  | .get queue => (.endpoint (session.table.get? queue), session)
  | .size => (.count session.table.size, session)
  | .isEmpty => (.flag session.table.isEmpty, session)
  | .capacity => (.bound session.table.capacity, session)
  | .snapshot => (.entries session.table.entries, session)
  | .hold =>
    (.index session.held.length, { session with held := session.held ++ [session.table.entries] })
  | .held index =>
    match session.held[index]? with
    | some content => (.entries content, session)
    | none => (.notHeld, session)
  | .decide queue status =>
    let (decision, traffic) :=
      (Ports.recording session.table.get? fun _ => status).decide queue |>.run {}
    (.decided decision traffic.records, session)

/-- Answers a run of requests in order. -/
def run (session : Session) : List Request → List Answer × Session
  | [] => ([], session)
  | request :: rest =>
    let (answer, next) := session.step request
    let (answers, last) := run next rest
    (answer :: answers, last)

end Session

end XdpSteering.QueueTable
