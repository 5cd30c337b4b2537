import XdpSteering.Conf.InlineValue
import XdpSteering.Text.Utf8

/-!
# Environments

The variables a process is given. Those whose names begin like the program's own are settings: the
rest of the name is a path of keys, and the value is read in the notation of one line.
-/

namespace XdpSteering

open XdpSteering.Text

/-- Variables and their values, in the order in which they are listed. -/
abbrev Environment := List (Octets × Octets)

namespace Environment

/-- Gives a variable a value: in its place if it is there, and at the end otherwise. -/
def set (environment : Environment) (name value : Octets) : Environment :=
  if environment.any fun entry => entry.1 = name then
    environment.map fun entry => if entry.1 = name then (name, value) else entry
  else environment ++ [(name, value)]

/-- The environment in which variables were set in order. -/
def ofList (entries : List (Octets × Octets)) : Environment :=
  entries.foldl (fun environment entry => environment.set entry.1 entry.2) []

/-- The variables in the order of their names. -/
def sorted (environment : Environment) : Environment :=
  environment.mergeSort fun a b => !(decide (b.1 < a.1))

def get? (environment : Environment) (name : String) : Option Octets :=
  (environment.find? fun entry => entry.1 = Utf8.encode name).map (·.2)

/-! ## Settings -/

/-- What the names of settings begin with. -/
def settingStart : String := "XSKSTEER_"

/-- The setting that cannot be made in the environment. -/
def ignoredSetting : String := "config_path"

def lowerCase (text : List Char) : List Char := text.map Char.toLower

/-- Puts a dot for each pair of underscores. -/
def dotted : List Char → List Char
  | '_' :: '_' :: rest => '.' :: dotted rest
  | char :: rest => char :: dotted rest
  | [] => []

/-- The path of keys that the name of a variable spells, if it is the name of a setting. -/
def settingPath? (name : Octets) : Option (List String) :=
  let text := trim (Utf8.lossy name).toList
  let start := settingStart.toList
  if lowerCase (text.take start.length) ≠ lowerCase start then none
  else
    let path := dotted (text.drop start.length)
    -- The path of the file is for a request to give.
    if lowerCase path = ignoredSetting.toList then none
    else
      let segments := (trim path).splitOn '.'
      if segments.any List.isEmpty then none
      else some (segments.map fun segment => String.ofList (lowerCase segment))

/-- The layer of settings in an environment. A later variable is laid over the earlier ones. -/
def settings (environment : Environment) : Value :=
  environment.foldl (fun layer entry =>
    match settingPath? entry.1 with
    | none => layer
    | some path => layer.merge (.nest path (Conf.InlineValue.ofText (Utf8.lossy entry.2))))
    (.dict [])

end Environment

end XdpSteering
