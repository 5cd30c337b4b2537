import Std.Time.DateTime.Timestamp
import XdpSteering.Log.Time
import XdpSteering.Program

/-!
# The command

Looks at the machine, runs the program on what was found, writes what it wrote, and makes its
changes to the files. What is behind the kernel's own objects is out of reach, so that every file
counts as a plain one.
-/

namespace XdpSteering.Main

open XdpSteering.Text

/-! ## Looking -/

/-- The octets of the file of this name, or nothing if it cannot be read. -/
def contentOf (name : String) : IO Octets := do
  try return (← IO.FS.readBinFile name).toList
  catch _ => return []

/-- The pieces of a string of octets in front of each zero. -/
def piecesOf (octets : Octets) : List Octets :=
  (octets.splitOn 0).filter fun piece => !piece.isEmpty

def environment : IO Environment := do
  let pieces := piecesOf (← contentOf "/proc/self/environ")
  return Environment.ofList (pieces.map fun piece =>
    let name := piece.takeWhile (· ≠ CommandLine.equals)
    (name, piece.drop (name.length + 1)))

def namesIn (directory : String) : IO (List String) := do
  try
    let entries ← ((← IO.currentDir) / directory).readDir
    return (entries.map fun entry => entry.fileName).toList
  catch _ => return []

/-- The version of the kernel that a text begins with. -/
def kernelOf (release : String) : KernelVersion :=
  let number := fun (digits : List Char) =>
    (Numeral.readUnsigned 10 Numeral.max32 digits).toOption.getD 0
  let numbers := (release.toList.splitOn '.').map fun piece => number (piece.takeWhile Char.isDigit)
  { major := numbers[0]?.getD 0, minor := numbers[1]?.getD 0, patch := numbers[2]?.getD 0 }

/-- What the program finds on this machine and cannot change. -/
def host : IO Host := do
  let status := Utf8.lossy (← contentOf "/proc/self/status")
  let release := Utf8.lossy (← contentOf "/proc/sys/kernel/osrelease")
  return { status := .ok status,
           interfaces := ← namesIn "/sys/class/net",
           kernel := kernelOf release }

/-- The names that lead from the root to the working directory. -/
def workingDirectory : IO Location := do
  return (Path.ofString (← IO.currentDir).toString).names

/-- The path of a place as the machine takes it. -/
def nameOf (location : Location) : String := (Path.ofComponents true location).display

/-- The entry at a place of the machine. -/
def entryAt (location : Location) : IO (Option FileSystem.Node) := do
  let name := nameOf location
  try
    match (← ((← IO.currentDir) / name).symlinkMetadata).type with
    | .dir => return some .directory
    | .file => return some (.file (← contentOf name))
    | .symlink => return some (.link (Path.ofString (← IO.FS.realPath name).toString))
    | .other => return some .device
  catch _ => return none

/-- Adds the entries on the way along names from a place, as far as the way goes. -/
def survey (files : FileSystem) (location : Location) : List Octets → IO FileSystem
  | [] => return files
  | name :: rest => do
    if name = Path.here then survey files location rest
    else if name = Path.above then survey files location.dropLast rest
    else
      let next := location ++ [name]
      match ← entryAt next with
      | none => return files
      | some (.link target) =>
        let surveyed ← surveyTarget (files.put next (.link target)) [] target.names
        survey surveyed target.names rest
      | some node => survey (files.put next node) next rest
where
  /-- Adds the entries on the way to where a link leads. -/
  surveyTarget (files : FileSystem) (location : Location) : List Octets → IO FileSystem
    | [] => return files
    | name :: rest => do
      let next := location ++ [name]
      match ← entryAt next with
      | none => return files
      | some node => surveyTarget (files.put next node) next rest

def surveyPath (files : FileSystem) (path : Path) : IO FileSystem :=
  survey files (files.origin path) path.names

/-- The paths that a configuration tells the program to look at. -/
def pathsOf (conf : Conf) : List Path :=
  [conf.objectPath, conf.socketMap.mapPath, conf.linkPinPath, Diagnosis.scratchPath conf]

/-- The files that a run on a command line will look at. -/
def filesFor (environment : Environment) (arguments : List Octets) : IO FileSystem := do
  let working ← workingDirectory
  let files ← survey { entries := [], workingDirectory := working } [] working
  match CommandLine.parse environment arguments with
  | .error _ => return files
  | .ok cli =>
    let files ← cli.config.toList.foldlM surveyPath files
    match Conf.load files environment cli with
    | .error _ => return files
    | .ok conf => (pathsOf conf).foldlM surveyPath files

/-! ## Acting -/

/-- Removes from the machine what a run removed, and makes the directories that it made. -/
def applyChanges (before after : FileSystem) : IO Unit := do
  for (location, node) in before.entries do
    if (after.node? location).isNone then
      if node = .directory then IO.FS.removeDirAll (nameOf location)
      else IO.FS.removeFile (nameOf location)
  -- A directory is listed behind the one in which it was made.
  for (location, node) in after.entries do
    if (before.node? location).isNone && node = .directory then
      IO.FS.createDir (nameOf location)

def now : IO String := do
  let time ← Std.Time.Timestamp.now
  return Log.timeText time.val.second.val.toNat time.val.nano.val.toNat

end XdpSteering.Main

open XdpSteering in
def main (arguments : List String) : IO UInt32 := do
  let arguments := arguments.map Text.Utf8.encode
  let environment ← XdpSteering.Main.environment
  let files ← XdpSteering.Main.filesFor environment arguments
  let outcome := Program.run
    { host := ← XdpSteering.Main.host, files, environment, arguments,
      time := ← XdpSteering.Main.now }
  XdpSteering.Main.applyChanges files outcome.files
  IO.print outcome.stdout
  IO.eprint outcome.stderr
  return UInt32.ofNat outcome.exitCode
