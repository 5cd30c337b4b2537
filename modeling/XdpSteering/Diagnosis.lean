import XdpSteering.Loader
import XdpSteering.Summary

/-!
# Diagnosis

Tries out whether the program can be loaded and attached, in a directory of its own below the one in
which the map is pinned, and sums up what worked.
-/

namespace XdpSteering

open Operation

/-- What a diagnosis found. -/
structure Diagnosis where
  interface : String
  attachMode : AttachMode
  capabilitiesHeld : Bool := false
  pinsWritable : Bool := false
  programLoaded : Bool := false
  attached : Bool := false
  /-- Whether the link was pinned, if that was tried. -/
  linkPinned : Option Bool := none
  detached : Bool := false
  deriving DecidableEq, Repr

namespace Diagnosis

/-- Whether everything that matters worked. -/
def passed (diagnosis : Diagnosis) : Bool :=
  diagnosis.programLoaded && diagnosis.attached && diagnosis.detached

/-! ## The summary -/

/-- What a summary says of a test. -/
def mark (passed : Bool) : String := if passed then "✓ PASS" else "✗ FAIL"

/-- What a summary says of pinning the link. -/
def linkMark : Option Bool → String
  | some passed => mark passed
  | none => "N/A (BPF FS not writable)"

def warning (pinsWritable : Bool) : String :=
  if pinsWritable then ""
  else
    "\n WARNING: BPF filesystem is not writable!\n"
      ++ "   Mount it with: mount -t bpf bpf /sys/fs/bpf\n"

def render (diagnosis : Diagnosis) (kernel : KernelVersion) : String :=
  "\n" ++ Summary.heading "BPF Test Results Summary"
    ++ Summary.line "Interface: " diagnosis.interface
    ++ Summary.line "Kernel: " kernel.text
    ++ Summary.line "Mode: " diagnosis.attachMode.name
    ++ "\n"
    ++ Summary.line "Capabilities:             " (mark diagnosis.capabilitiesHeld)
    ++ Summary.line "BPF Filesystem Writeable: " (mark diagnosis.pinsWritable)
    ++ Summary.line "Program Verified:         " (mark diagnosis.programLoaded)
    ++ Summary.line "Program Attach:           " (mark diagnosis.attached)
    ++ Summary.line "Link Pinning:             " (linkMark diagnosis.linkPinned)
    ++ Summary.line "Program Detach:           " (mark diagnosis.detached)
    ++ Summary.rule ++ warning diagnosis.pinsWritable

/-! ## Reports -/

def event (level : Level) (name message : String) (fields : List (String × FieldValue)) : Event :=
  { level, target := .diagnose, name, message, fields }

def startedEvent (interface : String) : Event :=
  event .info "diagnose.started" "starting BPF filesystem and attach/detach tests"
    [("network.interface.name", .shown interface)]

def checkingEvent : Event :=
  event .info "diagnose.checking_capabilities" "checking required capabilities" []

def capabilityEvent : Except SteerError Unit → Event
  | .ok () => event .info "diagnose.capabilities_ok" "all required capabilities present" []
  | .error error =>
    event .warn "diagnose.capabilities_missing" "continuing with missing capabilities"
      [("error", .shown error.message)]

def kernelEvent (kernel : KernelVersion) : Event :=
  event .info "diagnose.kernel_info" "kernel version determined"
    [("system.kernel.version", .shown kernel.text)]

def testingEvent (scratch : Path) : Event :=
  event .info "diagnose.testing_bpf_fs" "testing BPF filesystem writeability"
    [("pin_path", .shown scratch.display)]

def notWritableEvent (scratch : Path) (reason : OsError) : Event :=
  event .warn "diagnose.bpf_fs_not_writable" "✗ failed to create pin directory"
    [("pin_path", .shown scratch.display), ("error", .shown reason.message)]

def loadFailedEvent (object : Path) (failure : LoadFailure) : Event :=
  event .error "diagnose.load_failed" "✗ failed to load eBPF object"
    [("ebpf.object.path", .shown object.display),
      ("error", .shown failure.message)]

def writableEvent : Bool → Event
  | true =>
    event .info "diagnose.bpf_fs_writable"
      "✓ BPF filesystem is writable - map and link pinning will work" []
  | false =>
    event .warn "diagnose.bpf_fs_not_writable"
      "✗ socket map was not pinned - is /sys/fs/bpf mounted?" []

def verifiedEvent : Except ProgramFailure Unit → Event
  | .ok () => event .info "diagnose.program_loaded" "✓ eBPF program passed the verifier" []
  | .error failure =>
    event .error "diagnose.program_load_failed" "✗ eBPF program rejected"
      [("error", .shown failure.message)]

def attachingEvent (interface : String) (mode : AttachMode) : Event :=
  event .info "diagnose.attaching" "attaching XDP program"
    [("network.interface.name", .shown interface), ("xdp.attach_mode", .text mode.name)]

def attachedEvent (interface : String) : Event :=
  event .info "diagnose.attach_success" "✓ successfully attached program to interface"
    [("network.interface.name", .shown interface)]

def attachFailedEvent (interface : String) (failure : ProgramFailure) : Event :=
  event .error "diagnose.attach_failed" "✗ failed to attach program to interface"
    [("network.interface.name", .shown interface), ("error", .shown failure.message)]

def detachedEvent (interface : String) : Event :=
  event .info "diagnose.detach_success" "✓ successfully detached program"
    [("network.interface.name", .shown interface)]

def detachFailedEvent (interface : String) (failure : ProgramFailure) : Event :=
  event .error "diagnose.detach_failed" "✗ failed to detach program"
    [("network.interface.name", .shown interface), ("error", .shown failure.message)]

def linkPinnedEvent (pin : Path) : Event :=
  event .info "diagnose.pin_success" "✓ successfully pinned XDP link"
    [("pin_path", .shown pin.display)]

def pinFailedEvent (pin : Path) (error : SteerError) : Event :=
  event .error "diagnose.pin_failed"
    "✗ failed to pin XDP link (kernels before 5.9 attach XDP through netlink)"
    [("pin_path", .shown pin.display), ("error", .shown error.message)]

def unpinnedEvent (interface : String) (pin : Path) : Event :=
  event .info "diagnose.detach_success" "✓ successfully detached program via unpinned link"
    [("network.interface.name", .shown interface), ("pin_path", .shown pin.display)]

def unpinFailedEvent (pin : Path) (reason : OsError) : Event :=
  event .error "diagnose.unpin_failed" "✗ failed to unpin link"
    [("pin_path", .shown pin.display), ("error", .shown reason.message)]

def pinNotFoundEvent (pin : Path) (failure : LinkFailure) : Event :=
  event .error "diagnose.pin_not_found" "✗ pinned link could not be reopened"
    [("pin_path", .shown pin.display), ("error", .shown failure.message)]

def cleanupFailedEvent (scratch : Path) (reason : OsError) : Event :=
  event .warn "diagnose.cleanup_failed" "failed to remove scratch pin directory"
    [("pin_path", .shown scratch.display), ("error", .shown reason.message)]

/-! ## Steps -/

/-- The directory in which a diagnosis pins its objects. -/
def scratchPath (conf : Conf) : Path :=
  conf.socketMap.pinDirectory.join (Path.ofString "diagnose")

def removeScratch (scratch : Path) : Operation Unit := do
  match ← request fun files => files.removeTree scratch with
  | .ok () => pure ()
  | .error reason => report (cleanupFailedEvent scratch reason)

/-- Passes on a result, after removing the directory for the pins if it is a failure. -/
def cleanOnError {A : Type} (scratch : Path) (result : Except SteerError A) : Operation A := do
  match result with
  | .ok value => return value
  | .error error =>
    removeScratch scratch
    throw error

/-- Makes the directory for the pins, or reports why there is none. -/
def makeScratch (scratch : Path) : Operation Unit := do
  match ← Loader.makeDirectories scratch with
  | .ok () => pure ()
  | .error reason => report (notWritableEvent scratch reason)

/-- Looks at the capabilities without insisting on them. -/
def checkCapabilities (host : Host) : Operation Bool := do
  report checkingEvent
  let result ← attempt (require host Capability.loader)
  report (capabilityEvent result)
  return result.isOk

/-! ## Trying out the program -/

/-- Detaches the program directly, where nothing can be pinned. -/
def tryDetach (link : XdpLink) (diagnosis : Diagnosis) : Operation Diagnosis := do
  match link.detach with
  | .ok () =>
    report (detachedEvent diagnosis.interface)
    return { diagnosis with detached := true }
  | .error failure =>
    report (detachFailedEvent diagnosis.interface failure)
    return diagnosis

/-- Opens a pinned link again, and detaches the program by removing the pin. -/
def tryUnpin (host : Host) (pin : Path) (diagnosis : Diagnosis) : Operation Diagnosis := do
  match host.bpf.openLink (← files) pin with
  | .error failure =>
    report (pinNotFoundEvent pin failure)
    return diagnosis
  | .ok link =>
    match ← request link.unpin with
    | .ok () =>
      report (unpinnedEvent diagnosis.interface pin)
      return { diagnosis with detached := true }
    | .error reason =>
      report (unpinFailedEvent pin reason)
      return diagnosis

/-- Pins the link in a directory, and detaches the program through it. -/
def tryPin (host : Host) (scratch : Path) (link : XdpLink) (diagnosis : Diagnosis) :
    Operation Diagnosis := do
  let pin := scratch.join (Path.ofString (Conf.linkName diagnosis.interface))
  match ← attempt (Pin.pinLink link pin) with
  | .ok () =>
    report (linkPinnedEvent pin)
    tryUnpin host pin { diagnosis with linkPinned := some true }
  | .error error =>
    report (pinFailedEvent pin error)
    -- The link was used up on the way there, and the program was detached with it.
    return { diagnosis with linkPinned := some false, detached := true }

/-- Attaches the program and detaches it again. -/
def tryAttach (host : Host) (scratch : Path) (program : XdpProgram) (diagnosis : Diagnosis) :
    Operation Diagnosis := do
  report (attachingEvent diagnosis.interface diagnosis.attachMode)
  match program.attach diagnosis.interface diagnosis.attachMode.flags with
  | .error failure =>
    report (attachFailedEvent diagnosis.interface failure)
    return diagnosis
  | .ok link =>
    report (attachedEvent diagnosis.interface)
    let diagnosis := { diagnosis with attached := true }
    if diagnosis.pinsWritable then tryPin host scratch link diagnosis
    else tryDetach link diagnosis

def tryProgram (host : Host) (scratch : Path) (program : XdpProgram) (diagnosis : Diagnosis) :
    Operation Diagnosis := do
  report (verifiedEvent program.verify)
  match program.verify with
  | .ok () => tryAttach host scratch program { diagnosis with programLoaded := true }
  | .error _ => return diagnosis

/-- Tries out a loaded object. -/
def tryObject (host : Host) (scratch : Path) (object : Object) (diagnosis : Diagnosis) :
    Operation Unit := do
  let pinsWritable ← Pin.isPinned (scratch.join (Path.ofString socketMapName))
  report (writableEvent pinsWritable)
  let program ← cleanOnError scratch object.steering
  let diagnosis ← tryProgram host scratch program { diagnosis with pinsWritable }
  removeScratch scratch
  print (diagnosis.render host.kernel)
  unless diagnosis.passed do
    throw (.internal ("diagnose failed on interface " ++ diagnosis.interface))

/-- Ends a diagnosis that could not load the object. -/
def giveUp (host : Host) (conf : Conf) (failure : LoadFailure) (diagnosis : Diagnosis) :
    Operation Unit := do
  let scratch := scratchPath conf
  report (loadFailedEvent conf.objectPath failure)
  removeScratch scratch
  print (diagnosis.render host.kernel)
  throw (.load failure)

/-- Diagnoses the configured interface. -/
def run (host : Host) (conf : Conf) : Operation Unit := do
  report (startedEvent conf.interface)
  let capabilitiesHeld ← checkCapabilities host
  ofExcept (Loader.checkInterface host conf.interface)
  Loader.liftMemoryLimit host
  report (kernelEvent host.kernel)
  let scratch := scratchPath conf
  report (testingEvent scratch)
  makeScratch scratch
  let diagnosis : Diagnosis :=
    { interface := conf.interface, attachMode := conf.attachMode, capabilitiesHeld }
  match ← Loader.loadObject host conf scratch with
  | .error failure => giveUp host conf failure diagnosis
  | .ok object => tryObject host scratch object diagnosis

end Diagnosis

end XdpSteering
