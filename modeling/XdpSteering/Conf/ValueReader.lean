import XdpSteering.Conf.Reader
import XdpSteering.Value

/-!
# Configurations in value trees

A configuration is read from the merged layers of settings or from a document in JSON notation. Both
are value trees; they differ in how a mode may be written as a dictionary and in whether a list may
go on after the last field.
-/

namespace XdpSteering.Conf

/-- What a value is, for a report. -/
def foundValue : Value → Found
  | .null => .unit
  | .flag value => .flag value
  | .number (.unsigned value) => .unsigned value
  | .number (.signed value) => .signed value
  | .number (.wideUnsigned value) => .other ("integer `" ++ toString value ++ "` as u128")
  | .number (.wideSigned value) => .other ("integer `" ++ toString value ++ "` as i128")
  | .number (.float value) => .float value
  | .char value => .text value.toString
  | .text value => .text value
  | .list _ => .list
  | .dict _ => .map

/-- The fault of a value that is of another kind than expected. -/
def wrongValue (expected : String) (value : Value) : Fault :=
  { cause := .invalidType (foundValue value) expected }

def readCapacity (value : Value) : Except Fault UInt32 :=
  match value with
  | .number (.unsigned number) =>
    if number ≤ Text.Numeral.max32 then .ok (UInt32.ofNat number)
    else .error { cause := .invalidValue (.unsigned number) "u32" }
  | .number (.signed number) =>
    if 0 ≤ number ∧ number ≤ Text.Numeral.max32 then .ok (UInt32.ofNat number.toNat)
    else .error { cause := .invalidValue (.signed number) "u32" }
  | _ => .error (wrongValue "u32" value)

def readModeName (name : String) : Except Fault AttachMode :=
  match AttachMode.ofName? name with
  | some mode => .ok mode
  | none => .error { cause := .unknownVariant name (AttachMode.all.map AttachMode.name) }

/-- Reads the value that follows the name of a mode, which says nothing more. -/
def readUnit (value : Value) : Except Fault Unit :=
  match value with
  | .null => .ok ()
  | _ => .error (wrongValue "unit" value)

/-- Reads a mode from merged layers: a name, or a dictionary whose first key is a name. -/
def readLayeredMode (value : Value) : Except Fault AttachMode :=
  match value with
  | .text name => readModeName name
  -- What stands behind the first key is never looked at.
  | .dict ((name, content) :: _) =>
    (do
      let mode ← readModeName name
      readUnit content
      return mode).mapError (Fault.within (.key name))
  | .dict [] => .error (wrongValue "enum" value)
  | _ => .error (wrongValue "enum AttachMode" value)

/-- Reads a mode from a JSON document: a name, or a dictionary whose only key is a name. -/
def readJsonMode (value : Value) : Except Fault AttachMode :=
  match value with
  | .text name => readModeName name
  | .dict [(name, content)] => do
    let mode ← readModeName name
    readUnit content
    return mode
  | .dict _ => .error { cause := .invalidValue .map "map with a single key" }
  | _ => .error (wrongValue "string or map" value)

/-- How value trees are read, but for the mode and for lists that go on. -/
def valueReader (mode : Value → Except Fault AttachMode) (surplus : Nat → Nat → Option Fault) :
    Reader Value where
  wrong := wrongValue
  fault _ cause := { cause }
  within _ := Fault.within
  text expected value :=
    match value with
    | .text text => .ok text
    | .char char => .ok char.toString
    | _ => .error (wrongValue expected value)
  flag value :=
    match value with
    | .flag flag => .ok flag
    | _ => .error (wrongValue "a boolean" value)
  capacity := readCapacity
  mode
  isNull value :=
    match value with
    | .null => .ok true
    | _ => .ok false
  shape value :=
    match value with
    | .dict entries =>
      .keyed (entries.map fun (key, node) => { key := .ok key, label := .key key, node })
    | .list items => .listed items
    | _ => .other
  skip _ := .ok ()
  surplus _ := surplus
  mayRepeat := true

def layeredReader : Reader Value := valueReader readLayeredMode fun _ _ => none

/-- How a JSON document is read. -/
def jsonReader : Reader Value :=
  valueReader readJsonMode fun length fields =>
    if fields < length then some { cause := .invalidLength length "fewer elements in array" }
    else none

/-- The description of a fault in a JSON document, where the way to it is not told. -/
def Fault.jsonText (fault : Fault) : String := fault.cause.documentText .json

/-! ## Writing -/

/-- The value tree that a configuration is written as. -/
def toValue (conf : Conf) : Value :=
  .ofPairs [
    ("interface", .text conf.interface),
    ("log_level", .text conf.logLevel.name),
    ("attach_mode", .text conf.attachMode.name),
    ("program", .ofPairs (
      [("object_path", .text conf.program.objectPath), ("pin_link", .flag conf.program.pinLink)]
        ++ (conf.program.linkPinPath.toList.map fun path => ("link_pin_path", .text path)))),
    ("trace", .ofPairs [("enabled", .flag conf.trace.enabled)]),
    ("socket_map", .ofPairs [
      ("capacity", .number (.unsigned conf.socketMap.capacity.toNat)),
      ("pin_path", .text conf.socketMap.pinPath),
      ("persist", .flag conf.socketMap.persist)])]

end XdpSteering.Conf
