import XdpSteering.Text.Utf8

/-!
# Paths

A path is a string of octets in which slashes separate the names of directory entries.
-/

namespace XdpSteering

open XdpSteering.Text

/-- A path, absolute or relative to a working directory. -/
structure Path where
  octets : Octets
  deriving DecidableEq, Repr, Inhabited

namespace Path

def slash : UInt8 := 0x2F

/-- The octet in front of an extension. -/
def dot : UInt8 := 0x2E

/-- The name of the directory itself. -/
def here : Octets := [dot]

/-- The name of the directory above. -/
def above : Octets := [dot, dot]

def ofString (text : String) : Path := ⟨Utf8.encode text⟩

/-- The path as text, with what is no text replaced. -/
def display (path : Path) : String := Utf8.lossy path.octets

def isAbsolute (path : Path) : Bool := path.octets.head? = some slash

/-- Whether the path ends in a slash, so that it can only name a directory. -/
def endsInSlash (path : Path) : Bool := path.octets.getLast? = some slash

/-- The pieces between the slashes. -/
def pieces : Octets → List Octets
  | [] => [[]]
  | octet :: rest =>
    if octet = slash then [] :: pieces rest
    else
      match pieces rest with
      | [] => [[octet]]
      | piece :: others => (octet :: piece) :: others

/-- The names in the path, from the left. -/
def names (path : Path) : List Octets :=
  (pieces path.octets).filter fun name => !name.isEmpty

/-- The path of an entry below this one. An absolute second path stands for itself. -/
def join (path name : Path) : Path :=
  if name.isAbsolute || path.octets.isEmpty then name
  else if path.endsInSlash then ⟨path.octets ++ name.octets⟩
  else ⟨path.octets ++ slash :: name.octets⟩

/-- The names that count when two paths are compared: a name of the directory itself does so only at
the start of a relative path. -/
def components (path : Path) : List Octets :=
  match path.names with
  | [] => []
  | first :: rest =>
    let rest := rest.filter (· ≠ here)
    if first = here && path.isAbsolute then rest else first :: rest

def ofComponents (absolute : Bool) (components : List Octets) : Path :=
  ⟨(if absolute then [slash] else []) ++ [slash].intercalate components⟩

/-- The path without its last component; neither the root nor the empty path has one. -/
def parent? (path : Path) : Option Path :=
  if path.components.isEmpty then none
  else some (ofComponents path.isAbsolute path.components.dropLast)

/-- The last component, unless it leads upwards. -/
def fileName? (path : Path) : Option Octets :=
  (path.components.getLast?).filter fun name => name ≠ above && name ≠ here

/-- What follows the last dot of a name, if that dot is not the first octet. -/
def extensionOf (name : Octets) : Option Octets :=
  if name.drop 1 |>.contains dot then
    some (name.reverse.takeWhile (· ≠ dot)).reverse
  else none

def extension? (path : Path) : Option Octets :=
  path.fileName?.bind extensionOf

end Path

end XdpSteering
