import XdpSteering.Event
import XdpSteering.SteerError
import XdpSteering.Text.Blank
import XdpSteering.Text.Numeral

/-!
# Capabilities

The privileges the commands need, the mask of those that the process holds, and the check of the one
against the other.
-/

namespace XdpSteering

/-- A privilege that a command may need. -/
inductive Capability where
  | netAdmin
  | sysPtrace
  | sysAdmin
  | sysResource
  | perfmon
  | bpf
  deriving DecidableEq, Repr

namespace Capability

/-- The capabilities, by their numbers. -/
def all : List Capability := [.netAdmin, .sysPtrace, .sysAdmin, .sysResource, .perfmon, .bpf]

/-- What loading the object, pinning its map and attaching to an interface needs. -/
def loader : List Capability := [.sysAdmin, .netAdmin, .bpf, .perfmon, .sysResource]

/-- What taking a socket from another process and writing it into the map needs. -/
def register : List Capability := [.bpf, .sysPtrace]

/-- What changing pinned objects needs. -/
def mapAdmin : List Capability := [.bpf]

/-- What removing a pinned link needs. -/
def linkAdmin : List Capability := [.bpf, .netAdmin]

def name : Capability → String
  | .netAdmin => "CAP_NET_ADMIN"
  | .sysPtrace => "CAP_SYS_PTRACE"
  | .sysAdmin => "CAP_SYS_ADMIN"
  | .sysResource => "CAP_SYS_RESOURCE"
  | .perfmon => "CAP_PERFMON"
  | .bpf => "CAP_BPF"

/-- The bit of the capability in a mask. -/
def number : Capability → Nat
  | .netAdmin => 12
  | .sysPtrace => 19
  | .sysAdmin => 21
  | .sysResource => 24
  | .perfmon => 38
  | .bpf => 39

def description : Capability → String
  | .netAdmin => "attach XDP programs to network interfaces"
  | .sysPtrace => "duplicate AF_XDP sockets from other processes"
  | .sysAdmin => "load eBPF programs on kernels older than 5.8"
  | .sysResource => "modify resource limits (e.g., memlock rlimit)"
  | .perfmon => "performance monitoring (eBPF program loading on kernel >= 5.8)"
  | .bpf => "load eBPF programs and update pinned maps"

/-- Whether an older kernel grants the same through `sysAdmin`. -/
def hasFallback : Capability → Bool
  | .perfmon | .bpf => true
  | _ => false

/-! ## Masks -/

/-- A line without the carriage return at its end. -/
def withoutReturn (line : List Char) : List Char :=
  if line.getLast? = some '\r' then line.dropLast else line

/-- The lines of a text, without their line ends. -/
def linesOf (text : List Char) : List (List Char) :=
  let pieces := text.splitOn '\n'
  let ended := pieces.dropLast.map withoutReturn
  match pieces.getLast? with
  -- A line end at the end of the text begins no further line.
  | none | some [] => ended
  -- A carriage return alone ends no line.
  | some last => ended ++ [last]

/-- What stands in front of the mask. -/
def maskLabel : List Char := "CapEff:".toList

/-- The mask of the effective capabilities in the status text of a process: what the first line with
the label goes on with, as a hexadecimal number. -/
def effectiveMask (status : String) : Except SteerError UInt64 :=
  match (linesOf status.toList).find? maskLabel.isPrefixOf with
  | none => .error (.internal "CapEff line not found in /proc/self/status")
  | some line =>
    let digits := Text.trim (line.drop maskLabel.length)
    match Text.Numeral.readUnsigned 16 Text.Numeral.max64 digits with
    | .ok mask => .ok (UInt64.ofNat mask)
    | .error fault =>
      .error (.internal ("failed to parse capability mask '" ++ String.ofList digits ++ "': "
        ++ fault.message))

def isIn (capability : Capability) (mask : UInt64) : Bool :=
  mask.toNat.testBit capability.number

def maskOf (capabilities : List Capability) : Nat :=
  capabilities.foldl (fun mask capability => mask ||| 1 <<< capability.number) 0

/-- The status text of a process that holds exactly these capabilities. -/
def statusText (capabilities : List Capability) : String :=
  "CapEff:\t" ++ Text.padLeft 16 '0' (Text.hexDigits (maskOf capabilities)) ++ "\n"

/-! ## The check -/

def missingMessage (missing : List Capability) : String :=
  "Missing required capabilities:\n\n"
    ++ String.join (missing.map fun capability =>
      "  ❌ " ++ capability.name ++ " - required to " ++ capability.description ++ "\n")
    ++ "\n💡 Solutions:\n"
    ++ "  1. Run as root: sudo xsksteer\n"
    ++ "  2. Grant file capabilities: setcap "
    ++ "cap_bpf,cap_net_admin,cap_perfmon,cap_sys_resource+ep xsksteer\n"
    ++ "  3. In Docker: use --privileged flag\n"

def checkingEvent (capability : Capability) : Event where
  level := .debug
  target := .capabilities
  name := "capabilities.checking"
  message := "checking for required capability"
  fields := [("capability", .text capability.name)]

def presentEvent (capability : Capability) : Event where
  level := .debug
  target := .capabilities
  name := "capabilities.present"
  message := "capability is present"
  fields := [("capability", .text capability.name)]

def fallbackEvent (capability : Capability) : Event where
  level := .warn
  target := .capabilities
  name := "capabilities.missing_fallback"
  message := "capability not found, but may work on older kernels with CAP_SYS_ADMIN"
  fields := [("capability", .text capability.name), ("description", .text capability.description)]

def uncheckedEvent (capability : Capability) (error : SteerError) : Event where
  level := .warn
  target := .capabilities
  name := "capabilities.check_failed"
  message := "failed to check capability, assuming present"
  fields := [("capability", .text capability.name), ("error", .shown error.message)]

/-- The effective capabilities, from the status text of the process or the reason why there is
none. -/
def heldMask (status : Except SteerError String) : Except SteerError UInt64 :=
  status.bind effectiveMask

/-- What is found of one capability: whether it is missing, and what is reported after the report
that it is looked for. -/
def inspect (held : Except SteerError UInt64) (capability : Capability) : Bool × List Event :=
  match held with
  | .error error => (false, [capability.uncheckedEvent error])
  | .ok mask =>
    if capability.isIn mask then (false, [capability.presentEvent])
    else if capability.hasFallback then (false, [capability.fallbackEvent])
    else (true, [])

/-- Checks a list of capabilities in order. A process about which nothing is known is taken to hold
them all. -/
def check (status : Except SteerError String) (required : List Capability) :
    List Event × Except SteerError Unit :=
  let held := heldMask status
  let events := required.flatMap fun capability =>
    capability.checkingEvent :: (capability.inspect held).2
  -- All of them are looked at, so that all that are missing are told at once.
  let missing := required.filter fun capability => (capability.inspect held).1
  (events, if missing.isEmpty then .ok () else .error (.internal (missingMessage missing)))

end Capability

end XdpSteering
