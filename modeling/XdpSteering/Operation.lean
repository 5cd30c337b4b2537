import XdpSteering.Bpf
import XdpSteering.Capability
import XdpSteering.Descriptor

/-!
# Operations

What the commands act on: the files of a machine, and what was written so far. An operation may
fail, and what it did before it failed stays done.
-/

namespace XdpSteering

structure KernelVersion where
  major : Nat
  minor : Nat
  patch : Nat
  deriving DecidableEq, Repr

def KernelVersion.text (version : KernelVersion) : String :=
  toString version.major ++ "." ++ toString version.minor ++ "." ++ toString version.patch

/-- What an operation finds on its machine and cannot change. -/
structure Host where
  /-- The status text of the process that runs the operation, or why it cannot be read. -/
  status : Except SteerError String
  interfaces : List String
  kernel : KernelVersion
  /-- The processes from which sockets can be taken over. -/
  peers : List Peer := []
  /-- The code with which the kernel refuses to lift the limit on locked memory, if it does. -/
  memoryRefusal : Option Int := none
  bpf : Bpf := .plain .notPermitted
  /-- The number that a descriptor gets when it is taken over from a peer. -/
  nextDescriptor : Int32 := 3
  /-- What waiting for an interruption comes to, and what became of the files meanwhile. -/
  interruption : FileSystem → FileSystem × Except OsError Unit := fun files => (files, .ok ())

/-- A piece of what the program writes. -/
inductive Output where
  | event (event : Event)
  | text (text : String)
  deriving DecidableEq, Repr

/-- What an operation can change. -/
structure World where
  files : FileSystem
  /-- What was written, the oldest piece first. -/
  output : List Output := []
  deriving DecidableEq, Repr

abbrev Operation := EStateM SteerError World

namespace Operation

def files : Operation FileSystem := return (← get).files

def setFiles (files : FileSystem) : Operation Unit := modify fun world => { world with files }

/-- Makes a request that can change the files. -/
def request {A : Type} (port : FileSystem → FileSystem × A) : Operation A := do
  let (after, answer) := port (← files)
  setFiles after
  return answer

def write (piece : Output) : Operation Unit :=
  modify fun world => { world with output := world.output ++ [piece] }

def report (event : Event) : Operation Unit := write (.event event)

def print (text : String) : Operation Unit := write (.text text)

def reportAll (events : List Event) : Operation Unit := events.forM report

/-- What an operation comes to, with its failure as a result. -/
def attempt {A : Type} (operation : Operation A) : Operation (Except SteerError A) := fun world =>
  match operation world with
  | .ok value after => .ok (.ok value) after
  | .error error after => .ok (.error error) after

/-- Fails unless the process holds capabilities. -/
def require (host : Host) (required : List Capability) : Operation Unit := do
  let (events, result) := Capability.check host.status required
  reportAll events
  ofExcept result

end Operation

namespace World

def events (world : World) : List Event :=
  world.output.filterMap fun
    | .event event => some event
    | .text _ => none

def printed (world : World) : String :=
  String.join (world.output.map fun
    | .event _ => ""
    | .text text => text)

end World

end XdpSteering
