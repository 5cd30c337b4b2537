import XdpSteering.Conf
import XdpSteering.Pin

/-!
# The loader

Loads the compiled object, and cleans up when the program was shut down. Both steps of the clean-up
are always tried, and the first failure is the one that counts.
-/

namespace XdpSteering.Loader

open Operation

/-- Refuses an interface that the machine does not have. -/
def checkInterface (host : Host) (name : String) : Except SteerError Unit :=
  if host.interfaces.contains name then .ok () else .error (.interfaceNotFound name)

def memoryEvent (refusal : Option Int) : Event :=
  let kind := ("system.rlimit.type", FieldValue.text "memlock")
  match refusal with
  | some code => {
      level := .warn
      target := .program
      name := "system.rlimit_failed"
      message := "failed to remove limit on locked memory"
      fields := [kind, ("error.code", .number code)] }
  | none => {
      level := .debug
      target := .program
      name := "system.rlimit_set"
      message := "memlock rlimit removed"
      fields := [kind] }

/-- Lifts the limit on locked memory, if the kernel lets it. -/
def liftMemoryLimit (host : Host) : Operation Unit := report (memoryEvent host.memoryRefusal)

/-! ## Loading -/

def makeDirectories (directory : Path) : Operation (Except OsError Unit) :=
  request fun files => files.makeDirectories directory

/-- What loading the configured object comes to, whose map is pinned in a directory. -/
def loading (host : Host) (conf : Conf) (pins : Path) (files : FileSystem) :
    FileSystem × Except LoadFailure Object :=
  match files.read conf.objectPath with
  | .error reason => (files, .error (.unreadable conf.objectPath reason))
  | .ok content => host.bpf.load
    { content
      pins
      maxEntries := [(socketMapName, conf.socketMap.capacity)]
      globals := [(traceEnabledGlobal, [if conf.trace.enabled then 1 else 0])] } files

def loadObject (host : Host) (conf : Conf) (pins : Path) : Operation (Except LoadFailure Object) :=
  request (loading host conf pins)

def loadedEvent (conf : Conf) : Event where
  level := .info
  target := .program
  name := "ebpf.loaded"
  message := "eBPF object loaded"
  fields := [("ebpf.object.path", .shown conf.objectPath.display),
    ("ebpf.map.pin_path", .shown conf.socketMap.mapPath.display),
    ("ebpf.map.capacity", .number conf.socketMap.capacity.toNat),
    ("trace.enabled", .flag conf.trace.enabled)]

/-- Loads the configured object, whose map is pinned in the configured directory. -/
def load (host : Host) (conf : Conf) : Operation Object := do
  let directory := conf.socketMap.pinDirectory
  let made ← makeDirectories directory
  ofExcept (made.mapError (.io ("failed to create pin directory " ++ directory.display)))
  let loaded ← loadObject host conf directory
  let object ← ofExcept (loaded.mapError .load)
  report (loadedEvent conf)
  return object

def loggerFailedEvent (failure : String) : Event where
  level := .warn
  target := .program
  name := "ebpf_log.init_failed"
  message := "failed to initialize eBPF logger"
  fields := [("error.message", .shown failure)]

/-- Passes the records of the program on, if it leaves any. -/
def startLogger (object : Object) : Operation Unit :=
  reportAll (object.loggerFailure.toList.map loggerFailedEvent)

/-! ## Attaching -/

/-- How the program is attached. -/
inductive Attachment where
  /-- As long as the loader runs. -/
  | owned (link : XdpLink)
  /-- Through the link that is pinned at a path. -/
  | pinned (path : Path)

def attachedEvent (conf : Conf) : Event where
  level := .info
  target := .program
  name := "xdp.attached"
  message := "XDP program attached"
  fields := [("network.interface.name", .shown conf.interface),
    ("xdp.attach_mode", .text conf.attachMode.name)]

def linkPinnedEvent (conf : Conf) : Event where
  level := .info
  target := .program
  name := "xdp.link_pinned"
  message := "XDP link pinned, program stays attached after exit"
  fields := [("network.interface.name", .shown conf.interface),
    ("ebpf.link.pin_path", .shown conf.linkPinPath.display)]

/-- Attaches the program of an object to the configured interface, and pins the link if the program
is to stay attached. -/
def attach (host : Host) (conf : Conf) (object : Object) : Operation Attachment := do
  ofExcept (checkInterface host conf.interface)
  let program ← ofExcept object.steering
  ofExcept (program.verify.mapError .program)
  let link ← ofExcept ((program.attach conf.interface conf.attachMode.flags).mapError .program)
  report (attachedEvent conf)
  if conf.program.pinLink then
    Pin.pinLink link conf.linkPinPath
    report (linkPinnedEvent conf)
    return .pinned conf.linkPinPath
  else return .owned link

def detachedEvent (conf : Conf) : Event where
  level := .info
  target := .program
  name := "xdp.detached"
  message := "XDP program detached"
  fields := [("network.interface.name", .shown conf.interface)]

def leftAttachedEvent (conf : Conf) (path : Path) : Event where
  level := .info
  target := .program
  name := "xdp.left_attached"
  message := "leaving pinned XDP link attached"
  fields := [("network.interface.name", .shown conf.interface),
    ("ebpf.link.pin_path", .shown path.display)]

/-- Detaches the program, unless its link is pinned. -/
def detach (conf : Conf) (object : Object) : Attachment → Operation Unit
  | .owned link => do
    let _ ← ofExcept object.steering
    ofExcept (link.detach.mapError .program)
    report (detachedEvent conf)
  | .pinned path => report (leftAttachedEvent conf path)

/-! ## Shutting down -/

def persistedEvent (path : Path) : Event where
  level := .info
  target := .run
  name := "socket_map.persisted"
  message := "keeping pinned socket map and its registrations"
  fields := [("ebpf.map.pin_path", .shown path.display)]

/-- Removes the pin of the socket map, unless the map is to outlive the loader. -/
def release (conf : Conf) : Operation Unit := do
  let path := conf.socketMap.mapPath
  if conf.socketMap.persist then report (persistedEvent path)
  else
    let _ ← Pin.unpinMap path

def detachFailedEvent (error : SteerError) : Event where
  level := .warn
  target := .run
  name := "xdp.detach_failed"
  message := "failed to detach XDP program"
  fields := [("error.message", .shown error.message)]

def unpinFailedEvent (error : SteerError) : Event where
  level := .warn
  target := .run
  name := "socket_map.unpin_failed"
  message := "failed to remove socket map pin"
  fields := [("error.message", .shown error.message)]

/-- The reports on what came of detaching the program and of releasing the map. -/
def shutdownEvents (detached released : Except SteerError Unit) : List Event :=
  let failures := fun (event : SteerError → Event) (result : Except SteerError Unit) =>
    match result with
    | .ok () => []
    | .error error => [event error]
  failures detachFailedEvent detached ++ failures unpinFailedEvent released

/-- What a shutdown comes to: the first of its two steps that failed. -/
def shutdownResult (detached released : Except SteerError Unit) : Operation Unit := do
  reportAll (shutdownEvents detached released)
  ofExcept detached
  ofExcept released

/-- Ends a run in which detaching the program came to `detached`. -/
def shutdown (conf : Conf) (detached : Except SteerError Unit) : Operation Unit := do
  -- The map is released even if the program could not be detached.
  let released ← attempt (release conf)
  shutdownResult detached released

/-! ## Running -/

def readyEvent (conf : Conf) (capacity : UInt32) : Event where
  level := .info
  target := .run
  name := "xsksteer.ready"
  message :=
    "steering ready, register sockets with `xsksteer register`. Press Ctrl-C to exit."
  fields := [("network.interface.name", .shown conf.interface),
    ("ebpf.map.capacity", .number capacity.toNat),
    ("ebpf.map.pin_path", .shown conf.socketMap.mapPath.display)]

def endingEvent : Event where
  level := .info
  target := .run
  name := "xsksteer.shutdown"
  message := "shutting down"

/-- Runs the program on the configured interface until it is interrupted. -/
def run (host : Host) (conf : Conf) : Operation Unit := do
  require host Capability.loader
  liftMemoryLimit host
  let object ← load host conf
  startLogger object
  let attachment ← attach host conf object
  let sockets ← ofExcept object.socketMap
  report (readyEvent conf sockets.capacity)
  let interrupted ← request host.interruption
  ofExcept (interrupted.mapError (.io "failed to listen for ctrl-c"))
  report endingEvent
  let detached ← attempt (detach conf object attachment)
  shutdown conf detached

end XdpSteering.Loader
