import XdpSteering.Verdict

/-!
# The decision on one frame

A frame is diverted to the socket registered for its receive queue and passed to the network stack
when there is none. The decision touches the outside through three ports only: the lookup of a
queue, the transport that takes a frame over, and the sink of trace records.
-/

namespace XdpSteering

/-- What becomes of a frame. -/
inductive Action where
  /-- The frame is diverted to the socket of this endpoint. -/
  | redirect (endpoint : Endpoint)
  | pass
  deriving DecidableEq, Repr

inductive TraceRecord where
  /-- A frame was offered to `endpoint`, and the transport answered `status`. -/
  | redirect (queue : QueueIndex) (status : Verdict) (endpoint : Endpoint)
  | pass (queue : QueueIndex)
  deriving DecidableEq, Repr

namespace TraceRecord

def queue : TraceRecord → QueueIndex
  | .redirect queue _ _ => queue
  | .pass queue => queue

def endpoint : TraceRecord → Option Endpoint
  | .redirect _ _ endpoint => some endpoint
  | .pass _ => none

def text : TraceRecord → String
  | .redirect queue status endpoint =>
    "XDP_REDIRECT queue=" ++ toString queue.toNat ++ ", ret=" ++ toString status.toNat
      ++ ", val=" ++ toString endpoint.toNat
  | .pass queue => "XDP_PASS queue=" ++ toString queue.toNat ++ " val=NULL"

end TraceRecord

/-- The chosen action, and the verdict handed back to the receive path. -/
structure Decision where
  queue : QueueIndex
  action : Action
  /-- The transport's status for a redirect, `Verdict.pass` for a passed frame. -/
  verdict : Verdict
  deriving DecidableEq, Repr

namespace Decision

def endpoint (decision : Decision) : Option Endpoint :=
  match decision.action with
  | .redirect endpoint => some endpoint
  | .pass => none

def traceRecord (decision : Decision) : TraceRecord :=
  match decision.action with
  | .redirect endpoint => .redirect decision.queue decision.verdict endpoint
  | .pass => .pass decision.queue

end Decision

/-- The three ways in which a decision touches the outside. -/
structure Ports (m : Type → Type) where
  lookup : QueueIndex → m (Option Endpoint)
  /-- Hands a frame of a queue over to the transport and answers with its verdict. -/
  redirect : QueueIndex → m Verdict
  /-- Leaves a record of a decision. -/
  emit : TraceRecord → m Unit

/--
Decides what becomes of a frame received on `queue`. The queue is looked up once; on a match the
transport is asked once, and whatever it answers the action stays a redirect; one record is left.
-/
def Ports.decide {m : Type → Type} [Monad m] (ports : Ports m) (queue : QueueIndex) :
    m Decision := do
  let decision ←
    match ← ports.lookup queue with
    | some endpoint =>
      let verdict ← ports.redirect queue
      pure (Decision.mk queue (.redirect endpoint) verdict)
    | none => pure (Decision.mk queue .pass Verdict.pass)
  ports.emit decision.traceRecord
  return decision

/-- What the decisions of a run did to the outside, oldest first. -/
structure Traffic where
  lookups : List QueueIndex := []
  redirects : List QueueIndex := []
  records : List TraceRecord := []
  deriving DecidableEq, Repr

namespace Ports

/-- Ports onto a fixed table and transport that account for every use. -/
def recording (table : QueueIndex → Option Endpoint) (transport : QueueIndex → Verdict) :
    Ports (StateM Traffic) where
  lookup queue := fun traffic =>
    (table queue, { traffic with lookups := traffic.lookups ++ [queue] })
  redirect queue := fun traffic =>
    (transport queue, { traffic with redirects := traffic.redirects ++ [queue] })
  emit record := fun traffic => ((), { traffic with records := traffic.records ++ [record] })

/-- The same ports with a sink that keeps nothing. -/
def discarding (table : QueueIndex → Option Endpoint) (transport : QueueIndex → Verdict) :
    Ports (StateM Traffic) :=
  { recording table transport with emit := fun _ => pure () }

/-- Decides a run of frames, in the order in which they arrive. -/
def decideAll {m : Type → Type} [Monad m] (ports : Ports m) (frames : List QueueIndex) :
    m (List Decision) :=
  frames.mapM ports.decide

end Ports

end XdpSteering
