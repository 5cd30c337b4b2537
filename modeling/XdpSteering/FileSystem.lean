import XdpSteering.OsError
import XdpSteering.Path

/-!
# File systems

A file system is the list of its entries by their place. A path is resolved name by name from the
root or the working directory, through symbolic links; every operation is said in terms of where its
path leads.
-/

namespace XdpSteering

open XdpSteering.Text

/-- The names that lead from the root to an entry. -/
abbrev Location := List Octets

/-- What a directory entry is. -/
inductive FileSystem.Node where
  | directory
  | file (content : Octets)
  /-- A symbolic link and the path it stands for. -/
  | link (target : Path)
  | device
  deriving DecidableEq, Repr

/-- A tree of directory entries, and the directory in which relative paths start. -/
structure FileSystem where
  /-- The entries other than the root. -/
  entries : List (Location × FileSystem.Node)
  workingDirectory : Location
  deriving DecidableEq, Repr

namespace FileSystem

/-- The entry at a place. The root is a directory. -/
def node? (fs : FileSystem) (location : Location) : Option Node :=
  if location.isEmpty then some .directory
  else (fs.entries.find? fun entry => entry.1 = location).map (·.2)

def put (fs : FileSystem) (location : Location) (node : Node) : FileSystem :=
  { fs with entries := fs.entries.filter (fun entry => entry.1 ≠ location) ++ [(location, node)] }

def remove (fs : FileSystem) (location : Location) : FileSystem :=
  { fs with entries := fs.entries.filter fun entry => entry.1 ≠ location }

/-- Whether a place lies below a directory. -/
def isBelow (directory location : Location) : Bool :=
  directory.isPrefixOf location && directory.length < location.length

def clear (fs : FileSystem) (directory : Location) : FileSystem :=
  { fs with entries := fs.entries.filter fun entry => !isBelow directory entry.1 }

def hasBelow (fs : FileSystem) (directory : Location) : Bool :=
  fs.entries.any fun entry => isBelow directory entry.1

/-! ### What is found after a change -/

private theorem find?_filter_of_imp (entries : List (Location × Node)) (location : Location)
    (keep : Location × Node → Bool)
    (h : ∀ entry, entry.1 = location → keep entry = true) :
    (entries.filter keep).find? (fun entry => entry.1 = location)
      = entries.find? (fun entry => entry.1 = location) := by
  induction entries with
  | nil => rfl
  | cons entry rest ih =>
    by_cases hl : entry.1 = location
    · simp [List.filter, h entry hl, hl]
    · cases hk : keep entry <;> simp [List.filter, hk, hl, ih]

private theorem find?_filter_of_not (entries : List (Location × Node)) (location : Location)
    (keep : Location × Node → Bool)
    (h : ∀ entry, entry.1 = location → keep entry = false) :
    (entries.filter keep).find? (fun entry => entry.1 = location) = none := by
  rw [List.find?_eq_none]
  intro entry hmem
  obtain ⟨_, hkeep⟩ := List.mem_filter.mp hmem
  intro heq
  have hloc : entry.1 = location := by simpa using heq
  rw [h entry hloc] at hkeep
  exact absurd hkeep (by simp)

theorem node?_put_self (fs : FileSystem) (location : Location) (node : Node)
    (h : location ≠ []) : (fs.put location node).node? location = some node := by
  have hempty : location.isEmpty = false := by simpa using h
  have hnone := find?_filter_of_not fs.entries location (fun entry => entry.1 ≠ location)
    (by intro entry heq; simp [heq])
  simp only [node?, put, hempty, List.find?_append]
  rw [hnone]
  simp

theorem node?_put_of_ne (fs : FileSystem) {location other : Location} (node : Node)
    (h : other ≠ location) : (fs.put location node).node? other = fs.node? other := by
  have hsame := find?_filter_of_imp fs.entries other (fun entry => entry.1 ≠ location)
    (by intro entry heq; simp [heq, h])
  simp only [node?, put, List.find?_append]
  rw [hsame]
  simp [h.symm]

theorem node?_remove_self (fs : FileSystem) (location : Location) (h : location ≠ []) :
    (fs.remove location).node? location = none := by
  have hempty : location.isEmpty = false := by simpa using h
  have hnone := find?_filter_of_not fs.entries location (fun entry => entry.1 ≠ location)
    (by intro entry heq; simp [heq])
  simp only [node?, remove, hempty]
  rw [hnone]
  simp

theorem node?_remove_of_ne (fs : FileSystem) {location other : Location} (h : other ≠ location) :
    (fs.remove location).node? other = fs.node? other := by
  have hsame := find?_filter_of_imp fs.entries other (fun entry => entry.1 ≠ location)
    (by intro entry heq; simp [heq, h])
  simp only [node?, remove]
  rw [hsame]

theorem node?_clear_of_below (fs : FileSystem) {directory location : Location}
    (h : isBelow directory location = true) : (fs.clear directory).node? location = none := by
  have hempty : location.isEmpty = false := by
    cases location with
    | nil => simp [isBelow] at h
    | cons => rfl
  have hnone := find?_filter_of_not fs.entries location (fun entry => !isBelow directory entry.1)
    (by intro entry heq; simp [heq, h])
  simp only [node?, clear, hempty]
  rw [hnone]
  simp

theorem node?_clear_of_not_below (fs : FileSystem) {directory location : Location}
    (h : isBelow directory location = false) :
    (fs.clear directory).node? location = fs.node? location := by
  have hsame := find?_filter_of_imp fs.entries location (fun entry => !isBelow directory entry.1)
    (by intro entry heq; simp [heq, h])
  simp only [node?, clear]
  rw [hsame]

/-! ## Resolution -/

/-- Where a path leads. -/
inductive Place where
  | found (location : Location) (node : Node)
  /-- To a name that its directory does not hold. -/
  | vacant (directory : Location) (name : Octets)
  deriving DecidableEq, Repr

/-- How many links one resolution may follow. -/
def maxLinks : Nat := 40

/-- The longest name of an entry. -/
def maxName : Nat := 255

def maxPath : Nat := 4095

/-- The names of a path. A closing slash asks for a directory, as a closing `.` does. -/
def steps (path : Path) : List Octets :=
  if path.endsInSlash then path.names ++ [Path.here] else path.names

/-- Goes on from a place along names, following at most `links` links; a link that the last name
names is followed only if `follow` is set. -/
def walk (fs : FileSystem) (follow : Bool) (links : Nat) (location : Location)
    (names : List Octets) : Except OsError Place :=
  match names with
  | [] =>
    match fs.node? location with
    | some node => .ok (.found location node)
    | none => .error .noEntry
  | name :: rest =>
    if fs.node? location ≠ some .directory then .error .notDirectory
    else if name = Path.here then walk fs follow links location rest
    else if name = Path.above then walk fs follow links location.dropLast rest
    else if maxName < name.length then .error .nameTooLong
    else
      match fs.node? (location ++ [name]) with
      -- Only the last name may be missing: an entry may yet be made there.
      | none => if rest.isEmpty then .ok (.vacant location name) else .error .noEntry
      | some (.link target) =>
        if rest.isEmpty && !follow then .ok (.found (location ++ [name]) (.link target))
        else
          match links with
          | 0 => .error .tooManyLinks
          | links + 1 =>
            -- The names of the link come first, then those that are left.
            walk fs follow links (if target.isAbsolute then [] else location) (steps target ++ rest)
      | some _ => walk fs follow links (location ++ [name]) rest
termination_by (links, names.length)

/-- Refuses the paths that cannot be looked up at all. -/
def checkPath (path : Path) : Except OsError Unit :=
  if path.octets.contains 0 then .error .zeroInPath
  else if path.octets.isEmpty then .error .noEntry
  else if maxPath < path.octets.length then .error .nameTooLong
  else .ok ()

/-- Where relative or absolute paths start. -/
def origin (fs : FileSystem) (path : Path) : Location :=
  if path.isAbsolute then [] else fs.workingDirectory

def locate (fs : FileSystem) (follow : Bool) (path : Path) : Except OsError Place := do
  checkPath path
  fs.walk follow maxLinks (fs.origin path) (steps path)

/-- The entry that a path leads to, links followed. -/
def status (fs : FileSystem) (path : Path) : Except OsError (Location × Node) := do
  match ← fs.locate true path with
  | .found location node => .ok (location, node)
  | .vacant .. => .error .noEntry

/-- The entry that a path names, itself a link or not. -/
def linkStatus (fs : FileSystem) (path : Path) : Except OsError (Location × Node) := do
  match ← fs.locate false path with
  | .found location node => .ok (location, node)
  | .vacant .. => .error .noEntry

def pathExists (fs : FileSystem) (path : Path) : Bool :=
  match fs.status path with
  | .ok _ => true
  | .error _ => false

def isFile (fs : FileSystem) (path : Path) : Bool :=
  match fs.status path with
  | .ok (_, .file _) => true
  | _ => false

def isDirectory (fs : FileSystem) (path : Path) : Bool :=
  match fs.status path with
  | .ok (_, .directory) => true
  | _ => false

/-- The content of the file that a path leads to. A device reads as empty. -/
def read (fs : FileSystem) (path : Path) : Except OsError Octets := do
  match ← fs.status path with
  | (_, .file content) => .ok content
  | (_, .directory) => .error .isDirectory
  | _ => .ok []

/-! ## Changes -/

/-- The entry that an operation on a single directory entry is about. -/
structure Slot where
  directory : Location
  name : Octets
  node : Option Node

inductive LastName where
  /-- The path has no name: it is the root. -/
  | root
  | here
  | above
  | entry (slot : Slot)

/-- The directory entry that a path names, its directory resolved. -/
def slot (fs : FileSystem) (path : Path) : Except OsError LastName := do
  checkPath path
  match path.names.getLast? with
  | none => .ok .root
  | some name =>
    -- The last name is looked up in its directory alone: a link there is not followed.
    match ← fs.walk true maxLinks (fs.origin path) (path.names.dropLast) with
    | .vacant .. => .error .noEntry
    | .found directory node =>
      if node ≠ .directory then .error .notDirectory
      else if name = Path.here then .ok .here
      else if name = Path.above then .ok .above
      else if maxName < name.length then .error .nameTooLong
      else .ok (.entry { directory, name, node := fs.node? (directory ++ [name]) })

/-- Removes the directory entry that a path names, which must not be a directory. -/
def unlink (fs : FileSystem) (path : Path) : Except OsError FileSystem := do
  match ← fs.slot path with
  | .entry { directory, name, node } =>
    match node with
    | none => .error .noEntry
    | some .directory => .error .isDirectory
    | some _ =>
      -- With a closing slash the path asks for a directory.
      if path.endsInSlash then .error .notDirectory else .ok (fs.remove (directory ++ [name]))
  | _ => .error .isDirectory

/-- Makes a directory in an existing one. -/
def makeDirectory (fs : FileSystem) (path : Path) : Except OsError FileSystem := do
  match ← fs.slot path with
  | .entry { directory, name, node } =>
    match node with
    | none => .ok (fs.put (directory ++ [name]) .directory)
    | some _ => .error .nameTaken
  | _ => .error .nameTaken

/-- Makes a directory, or finds it made already. -/
def ensureDirectory (fs : FileSystem) (path : Path) : Except OsError FileSystem :=
  match fs.makeDirectory path with
  | .ok fs => .ok fs
  | .error error => if fs.isDirectory path then .ok fs else .error error

/-- Makes a directory and those above it, which are tried as often as `fuel` allows. -/
def makeDirectoriesWithin (fs : FileSystem) (path : Path) : Nat → FileSystem × Except OsError Unit
  | 0 => (fs, .ok ())
  | fuel + 1 =>
    if path.octets.isEmpty then (fs, .ok ())
    else
      match fs.makeDirectory path with
      | .ok fs => (fs, .ok ())
      | .error error =>
        if error = .noEntry then
          match makeDirectoriesWithin fs (path.parent?.getD ⟨[]⟩) fuel with
          | (fs, .error error) => (fs, .error error)
          | (fs, .ok ()) =>
            match fs.ensureDirectory path with
            | .ok fs => (fs, .ok ())
            | .error error => (fs, .error error)
        -- Whatever else went wrong, a directory that is there will do.
        else if fs.isDirectory path then (fs, .ok ())
        else (fs, .error error)

/-- Makes a directory and those above it that are missing. What was made before a failure stays. -/
def makeDirectories (fs : FileSystem) (path : Path) : FileSystem × Except OsError Unit :=
  fs.makeDirectoriesWithin path (path.components.length + 1)

def removeDirectory (fs : FileSystem) (path : Path) : Except OsError FileSystem := do
  match ← fs.slot path with
  | .root => .error .busy
  | .here => .error .invalid
  | .above => .error .notEmpty
  | .entry { directory, name, node } =>
    match node with
    | none => .error .noEntry
    | some .directory =>
      if fs.hasBelow (directory ++ [name]) then .error .notEmpty
      else .ok (fs.remove (directory ++ [name]))
    | some _ => .error .notDirectory

/-- Removes a directory and everything below it; of a link, the link alone. What was removed before
a failure stays removed. -/
def removeTree (fs : FileSystem) (path : Path) : FileSystem × Except OsError Unit :=
  match fs.linkStatus path with
  | .error error => (fs, .error error)
  | .ok (_, .link _) =>
    match fs.unlink path with
    | .ok fs => (fs, .ok ())
    | .error error => (fs, .error error)
  | .ok (location, .directory) =>
    let emptied := fs.clear location
    match emptied.removeDirectory path with
    | .ok fs => (fs, .ok ())
    -- The path may have led through what was removed; then it counts as removed itself.
    | .error error => (emptied, if error = .noEntry then .ok () else .error error)
  | .ok _ => (fs, .error .notDirectory)

def write (fs : FileSystem) (path : Path) (content : Octets) : Except OsError FileSystem := do
  match ← fs.locate true path with
  | .found location (.file _) => .ok (fs.put location (.file content))
  | .found _ .directory => .error .isDirectory
  -- A device keeps nothing of what it is given.
  | .found .. => .ok fs
  | .vacant directory name => .ok (fs.put (directory ++ [name]) (.file content))

def symlink (fs : FileSystem) (path target : Path) : Except OsError FileSystem := do
  match ← fs.slot path with
  | .entry { directory, name, node := none } => .ok (fs.put (directory ++ [name]) (.link target))
  | _ => .error .nameTaken

/-! ## Listing -/

/-- The mark behind the name of an entry that is no regular file. -/
def mark : Node → String
  | .directory => "/"
  | .link _ => "@"
  | _ => ""

/-- Everything below the working directory, in order. -/
def listing (fs : FileSystem) : List String :=
  let below := fs.entries.filter fun entry => isBelow fs.workingDirectory entry.1
  let lines := below.map fun (location, node) =>
    (Path.ofComponents false (location.drop fs.workingDirectory.length)).display ++ mark node
  lines.mergeSort fun a b => !(b < a)

end FileSystem

end XdpSteering
