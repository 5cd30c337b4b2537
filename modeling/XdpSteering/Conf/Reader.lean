import XdpSteering.Conf
import XdpSteering.Conf.Fault

/-!
# Reading a configuration

A configuration is read in the same way from every notation. A notation says how its nodes are
taken for texts, flags, numbers and records; the sections and their fields are said here once. The
values of a record are visited in the order in which they are written, the first fault is reported,
and only then is a field missed.
-/

namespace XdpSteering.Conf

/-- A value of a record under its key. -/
structure Entry (N : Type) where
  /-- The text of the key, unless it is none. -/
  key : Except Fault String
  /-- What the key adds to the way to the value. -/
  label : Label
  node : N

/-- What a node is when it is taken for a record. -/
inductive Shape (N : Type) where
  /-- Values under keys, in the order in which they are visited. -/
  | keyed (entries : List (Entry N))
  /-- Values in the order of the fields. -/
  | listed (items : List N)
  | other

/-- How the nodes of a notation are read. -/
structure Reader (N : Type) where
  /-- The fault of a node that is of another kind than expected. -/
  wrong : String → N → Fault
  fault : N → Cause → Fault
  /-- The fault of a value under a label, as the record at a node reports it. -/
  within : N → Label → Fault → Fault
  text : String → N → Except Fault String
  flag : N → Except Fault Bool
  capacity : N → Except Fault UInt32
  mode : N → Except Fault AttachMode
  /-- Whether the node stands for a value that is not given. -/
  isNull : N → Except Fault Bool
  shape : N → Shape N
  /-- Passes over a value that no field takes. -/
  skip : N → Except Fault Unit
  /-- The fault of a list that goes on after the last field. -/
  surplus : N → (length fields : Nat) → Option Fault
  /-- Whether a field may be written again. -/
  mayRepeat : Bool

/-- The values of a record by field, and the fault when a field is missed. -/
structure Record (N : Type) where
  entries : List (String × N)
  missing : String → Fault

/-- The value of a field: the last one that is written. -/
def Record.get? {N : Type} (record : Record N) (name : String) : Option N :=
  (record.entries.reverse.find? fun entry => entry.1 = name).map (·.2)

/-- Reads a field that has to be there. -/
def Record.required {N A : Type} (record : Record N) (name : String)
    (read : N → Except Fault A) : Except Fault A :=
  match record.get? name with
  | some node => read node
  | none => .error (record.missing name)

/-- Reads a field that may be missing. -/
def Record.optional {N A : Type} (record : Record N) (name : String)
    (read : N → Except Fault A) (absent : A) : Except Fault A :=
  match record.get? name with
  | some node => read node
  | none => .ok absent

/-- A field of a record and the test of its values. -/
structure Field (N : Type) where
  name : String
  check : N → Except Fault Unit

/-- The field whose values a reader reads. -/
def Field.of {N A : Type} (name : String) (read : N → Except Fault A) : Field N where
  name
  check node := (read node).map fun _ => ()

namespace Reader

variable {N : Type} (reader : Reader N)

/-- Visits the values of a record under their keys, and gives them with the texts of the keys;
`seen` holds the fields that were there. -/
def visitKeyed (record : N) (fields : List (Field N)) (seen : List String) :
    List (Entry N) → Except Fault (List (String × N))
  | [] => .ok []
  | entry :: rest => do
    let key ← entry.key
    let field := fields.find? fun field => field.name = key
    -- A key that no field has may stand twice in any notation.
    if field.isSome && !reader.mayRepeat && seen.contains key then
      throw (reader.fault record (.duplicateField key))
    let visit := field.elim reader.skip Field.check
    (visit entry.node).mapError (reader.within record entry.label)
    let others ← visitKeyed record fields (key :: seen) rest
    return (key, entry.node) :: others

/-- Visits the values of a record that is written as a list. -/
def visitListed (record : N) (index : Nat) : List (Field N × N) → Except Fault Unit
  | [] => .ok ()
  | (field, node) :: rest => do
    (field.check node).mapError (reader.within record (.index index))
    visitListed record (index + 1) rest

/-- The description of a record that is written as a list. -/
def withElements (title : String) (count : Nat) : String :=
  title ++ " with " ++ toString count ++ (if count = 1 then " element" else " elements")

/-- Takes a node for a record and visits its values. -/
def record (title : String) (fields : List (Field N)) (node : N) : Except Fault (Record N) :=
  match reader.shape node with
  | .keyed entries => do
    let entries ← visitKeyed reader node fields [] entries
    return { entries, missing := fun name => reader.fault node (.missingField name) }
  | .listed items => do
    -- A wrong item is reported before an item too many.
    visitListed reader node 0 (fields.zip items)
    match reader.surplus node items.length fields.length with
    | some fault => throw fault
    | none =>
      return {
        entries := (fields.map (·.name)).zip items
        missing := fun _ =>
          reader.fault node (.invalidLength items.length (withElements title fields.length)) }
  | .other => .error (reader.wrong title node)

def path (node : N) : Except Fault String := reader.text "path string" node

def string (node : N) : Except Fault String := reader.text "a string" node

/-- Reads a path that may be left out. -/
def optionalPath (node : N) : Except Fault (Option String) := do
  if ← reader.isNull node then return none else return some (← reader.path node)

def level (node : N) : Except Fault Level := do
  let text ← reader.string node
  match Level.read? text with
  | some level => return level
  | none => throw { cause := .message Level.readError }

def program (node : N) : Except Fault ProgramConf := do
  let record ← reader.record "struct ProgramConf"
    [.of "object_path" reader.path, .of "pin_link" reader.flag,
      .of "link_pin_path" reader.optionalPath] node
  let objectPath ← record.required "object_path" reader.path
  let pinLink ← record.required "pin_link" reader.flag
  let linkPinPath ← record.optional "link_pin_path" reader.optionalPath none
  return { objectPath, pinLink, linkPinPath }

def trace (node : N) : Except Fault TraceConf := do
  let record ← reader.record "struct TraceConf" [.of "enabled" reader.flag] node
  let enabled ← record.required "enabled" reader.flag
  return { enabled }

def socketMap (node : N) : Except Fault SocketMapConf := do
  let record ← reader.record "struct SocketMapConf"
    [.of "capacity" reader.capacity, .of "pin_path" reader.path, .of "persist" reader.flag] node
  let capacity ← record.required "capacity" reader.capacity
  let pinPath ← record.required "pin_path" reader.path
  let persist ← record.required "persist" reader.flag
  return { capacity, pinPath, persist }

/-- Reads a configuration. The file that it comes from is no part of what is written. -/
def conf (node : N) : Except Fault Conf := do
  let record ← reader.record "struct Conf"
    [.of "interface" reader.string, .of "log_level" reader.level, .of "attach_mode" reader.mode,
      .of "program" reader.program, .of "trace" reader.trace, .of "socket_map" reader.socketMap]
    node
  let interface ← record.required "interface" reader.string
  let logLevel ← record.required "log_level" reader.level
  let attachMode ← record.optional "attach_mode" reader.mode .automatic
  let program ← record.optional "program" reader.program {}
  let trace ← record.optional "trace" reader.trace {}
  let socketMap ← record.optional "socket_map" reader.socketMap {}
  return { interface, logLevel, attachMode, program, trace, socketMap }

end Reader

end XdpSteering.Conf
