import XdpSteering.FileSystem
import XdpSteering.SteerError

/-!
# The kernel's objects

Loading an object, opening what is pinned and everything that is asked of a program, a map or a link
is answered outside of the program: by the library that talks to the kernel, and by the kernel. What
they answer is data here. A request that can change files is given the files and says what it leaves
of them.
-/

namespace XdpSteering

open XdpSteering.Text

/-- A map of sockets. -/
structure SocketMap where
  capacity : UInt32
  /-- Puts the socket behind a descriptor into a slot. -/
  set : QueueIndex → Int32 → Except MapFailure Unit
  clear : QueueIndex → Except OsError Unit

/-- A map, of which it is not known yet whether it holds sockets. -/
structure MapData where
  /-- Duplicates the descriptor of the map. -/
  duplicate : Except OsError Unit
  sockets : Except MapFailure SocketMap

/-- A link between a program and an interface, as the program knows it. -/
structure XdpLink where
  detach : Except ProgramFailure Unit
  /-- Takes the link away from the program. -/
  take : Except ProgramFailure Unit
  /-- Not every kernel has a descriptor for a link. -/
  toDescriptor : Except LinkFailure Unit
  pin : Path → FileSystem → FileSystem × Except PinFailure Unit

structure PinnedLink where
  unpin : FileSystem → FileSystem × Except OsError Unit

structure XdpProgram where
  verify : Except ProgramFailure Unit
  /-- Attaches the program to an interface of this name, with flags. -/
  attach : String → UInt32 → Except ProgramFailure XdpLink

inductive ObjectMap where
  | sockets (data : MapData)
  | other

/-- A loaded object: what it has under a name. -/
structure Object where
  /-- Why the records of the programs are not passed on, if they are not. -/
  loggerFailure : Option String
  program : String → Option (Except ProgramFailure XdpProgram)
  map : String → Option ObjectMap

/-- What is to be loaded, and how. -/
structure LoadRequest where
  content : Octets
  /-- The directory in which maps are pinned by their names. -/
  pins : Path
  maxEntries : List (String × UInt32)
  globals : List (String × Octets)
  deriving DecidableEq, Repr

/-- What the requests that begin with a path or an object come to. -/
structure Bpf where
  openMap : FileSystem → Path → Except MapFailure MapData
  openLink : FileSystem → Path → Except LinkFailure PinnedLink
  load : LoadRequest → FileSystem → FileSystem × Except LoadFailure Object

/-- Requests to a kernel for which no file is a pinned object and no content is an object. -/
def Bpf.plain (reason : OsError) : Bpf where
  openMap _ _ := .error (.openFailed reason)
  openLink _ _ := .error (.openFailed reason)
  load _ files := (files, .error .malformed)

/-- The map of sockets in a map. -/
def SocketMap.ofData (data : MapData) : Except SteerError SocketMap := do
  data.duplicate.mapError (.io "failed to duplicate socket map fd")
  data.sockets.mapError .map

/-- Opens the map of sockets that is pinned at a path. -/
def Bpf.openSockets (bpf : Bpf) (files : FileSystem) (path : Path) :
    Except SteerError SocketMap := do
  let data ← (bpf.openMap files path).mapError .map
  SocketMap.ofData data

namespace Object

/-- The steering program of an object. -/
def steering (object : Object) : Except SteerError XdpProgram :=
  match object.program programName with
  | none =>
    .error (.internal ("ebpf program '" ++ programName ++ "' not found in loaded object"))
  | some program => program.mapError .program

/-- Takes the map of sockets out of an object. -/
def socketMap (object : Object) : Except SteerError SocketMap :=
  match object.map socketMapName with
  | some (.sockets data) => SocketMap.ofData data
  | some .other => .error (.internal ("ebpf map '" ++ socketMapName ++ "' is not an XSKMAP"))
  | none => .error (.internal ("ebpf map '" ++ socketMapName ++ "' not found in loaded object"))

end Object

end XdpSteering
