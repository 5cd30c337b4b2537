/-!
# Verdicts

The verdict codes of the XDP hook and the constants of the steering program: its names inside the
compiled object and the bounds on the socket map.
-/

namespace XdpSteering

/-- A receive queue, as the driver numbers it. -/
abbrev QueueIndex := UInt32

/-- The socket registered for a queue. -/
abbrev Endpoint := UInt32

/-- A verdict code handed back to the receive path. -/
abbrev Verdict := UInt32

namespace Verdict

/-- The frame is dropped because the program failed. -/
def aborted : Verdict := 0

def drop : Verdict := 1

def pass : Verdict := 2

/-- The frame is sent back out of the interface. -/
def transmit : Verdict := 3

def redirect : Verdict := 4

def name (code : Verdict) : String :=
  if code = aborted then "XDP_ABORTED"
  else if code = drop then "XDP_DROP"
  else if code = pass then "XDP_PASS"
  else if code = transmit then "XDP_TX"
  else if code = redirect then "XDP_REDIRECT"
  else "XDP_UNKNOWN"

end Verdict

def socketMapName : String := "socket_map"

def programName : String := "xsksteer"

/-- The global of the object that switches the records of single frames on. -/
def traceEnabledGlobal : String := "TRACE_ENABLED"

/-- The number of queues the socket map holds unless configured otherwise. -/
def defaultCapacity : UInt32 := 64

/-- The largest capacity a configuration may ask for. -/
def maxCapacity : UInt32 := 4096

/-- The flags of a redirect: their low bits are the verdict taken when the slot is empty. -/
def redirectFlags : UInt64 := Verdict.pass.toUInt64

end XdpSteering
