import XdpSteering.OsError
import XdpSteering.Path
import XdpSteering.Verdict

/-!
# Errors of the control plane

Why loading, attaching or editing pinned objects failed, with the text of each cause.
-/

namespace XdpSteering

/-- Why the object was not loaded. -/
inductive LoadFailure where
  /-- The file cannot be read. -/
  | unreadable (path : Path) (reason : OsError)
  /-- The file is no object. -/
  | malformed
  /-- Any other failure, by its text and those of its causes. -/
  | other (text : String) (causes : List String)
  deriving DecidableEq, Repr

/-- Why a request about the program of an object failed. -/
inductive ProgramFailure where
  | notLoaded
  | other (text : String) (causes : List String)
  deriving DecidableEq, Repr

/-- Why a request about a link failed. -/
inductive LinkFailure where
  | invalid
  /-- What is pinned at a path cannot be opened. -/
  | openFailed (reason : OsError)
  | other (text : String) (causes : List String)
  deriving DecidableEq, Repr

/-- Why a request about a map failed. -/
inductive MapFailure where
  | outOfBounds (index maxEntries : UInt32)
  | openFailed (reason : OsError)
  | other (text : String) (causes : List String)
  deriving DecidableEq, Repr

/-- Why an object was not pinned. -/
inductive PinFailure where
  | descriptorUnknown (name : String)
  | other (text : String) (causes : List String)
  deriving DecidableEq, Repr

/-- Why an operation of the loader or of the control plane failed. -/
inductive SteerError where
  | load (cause : LoadFailure)
  | program (cause : ProgramFailure)
  | link (cause : LinkFailure)
  | map (cause : MapFailure)
  | pin (path : Path) (cause : PinFailure)
  | capacityExceeded (queue : QueueIndex) (capacity : UInt32)
  | mapUnavailable (path : Path)
  | interfaceNotFound (name : String)
  | io (context : String) (cause : OsError)
  | internal (text : String)
  deriving DecidableEq, Repr

/-- The texts of a failure, from the outermost cause to the innermost. -/
def LoadFailure.messages : LoadFailure → List String
  | .unreadable path reason => ["error loading " ++ path.display, reason.message]
  | .malformed => ["error parsing BPF object: error parsing ELF data", "error parsing ELF data"]
  | .other text causes => text :: causes

def ProgramFailure.messages : ProgramFailure → List String
  | .notLoaded => ["the program is not loaded"]
  | .other text causes => text :: causes

def LinkFailure.messages : LinkFailure → List String
  | .invalid => ["Invalid link"]
  | .openFailed reason => ["`BPF_OBJ_GET` failed", reason.message]
  | .other text causes => text :: causes

def MapFailure.messages : MapFailure → List String
  | .outOfBounds index maxEntries =>
    ["the index is " ++ toString index.toNat ++ " but `max_entries` is "
      ++ toString maxEntries.toNat]
  | .openFailed reason => ["`BPF_OBJ_GET` failed", reason.message]
  | .other text causes => text :: causes

def PinFailure.messages : PinFailure → List String
  | .descriptorUnknown name => ["the BPF object `" ++ name ++ "`'s FD is not known"]
  | .other text causes => text :: causes

/-- The text of a failure alone, without those of its causes. -/
def LoadFailure.message (failure : LoadFailure) : String := failure.messages.head?.getD ""

def ProgramFailure.message (failure : ProgramFailure) : String := failure.messages.head?.getD ""

def LinkFailure.message (failure : LinkFailure) : String := failure.messages.head?.getD ""

namespace SteerError

/-- The texts of the causes below the error itself, the outermost first. -/
def causes : SteerError → List String
  | .load cause => cause.messages
  | .program cause => cause.messages
  | .link cause => cause.messages
  | .map cause => cause.messages
  | .pin _ cause => cause.messages
  | .io _ cause => [cause.message]
  | _ => []

/-- The text of the outermost cause, if the error has one. -/
def source? (error : SteerError) : Option String := error.causes.head?

def message (error : SteerError) : String :=
  let cause := error.source?.getD ""
  match error with
  | .load _ => "failed to load ebpf object: " ++ cause
  | .program _ => "ebpf program error: " ++ cause
  | .link _ => "ebpf link error: " ++ cause
  | .map _ => "socket map error: " ++ cause
  | .pin path _ => "failed to pin " ++ path.display ++ ": " ++ cause
  | .capacityExceeded queue capacity =>
    "queue " ++ toString queue.toNat ++ " is outside the socket map capacity of "
      ++ toString capacity.toNat
  | .mapUnavailable path => "socket map is not pinned at " ++ path.display
  | .interfaceNotFound name => "interface '" ++ name ++ "' not found"
  | .io context _ => context ++ ": " ++ cause
  | .internal text => text

end SteerError

/-- Rejects a queue that a socket map of this capacity has no slot for. -/
def checkQueue (queue : QueueIndex) (capacity : UInt32) : Except SteerError Unit :=
  if capacity ≤ queue then .error (.capacityExceeded queue capacity) else .ok ()

end XdpSteering
