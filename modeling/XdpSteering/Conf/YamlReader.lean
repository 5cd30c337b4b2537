import XdpSteering.Conf.YamlFault

/-!
# Configurations in YAML documents

A YAML document is read directly as a configuration. Scalars are taken for what their field wants,
an alias is followed where a field wants its node, and what no field wants is passed over.
-/

namespace XdpSteering.Conf

open XdpSteering.Yaml
open XdpSteering.Text

/-- Whether a scalar can be taken for something other than text: it is plain, or its lines are
written out and it has the tag. -/
def isReadable (kind : String) (tag : Option Octets) (style : Style) : Bool :=
  style = .plain || (style = .literal && tag = some (coreTag kind))

/-- Whether a scalar stands for null or for nothing. -/
def spellsNothing (text : String) : Bool := text.isEmpty || isNullText text

def readNodeFlag (node : Node) : Except Fault Bool :=
  let wrong := Except.error (wrongNode "a boolean" node)
  match node with
  | .scalar _ tag text style =>
    if isReadable "bool" tag style then (flagOf? text).elim wrong .ok else wrong
  | _ => wrong

def readNodeCapacity (node : Node) : Except Fault UInt32 :=
  let wrong := Except.error (wrongNode "u32" node)
  match node with
  | .scalar mark tag text style =>
    match unsignedOf? Numeral.max64 text.toList with
    | some number =>
      if isReadable "int" tag style then
        (readCapacity (.number (.unsigned number))).mapError fun fault =>
          { fault with mark := some mark }
      else wrong
    | none => wrong
  | _ => wrong

/-- Whether a node stands for a value that is not given. A tag can ask for null in vain. -/
def readNodeIsNull (node : Node) : Except Fault Bool :=
  match node with
  | .scalar _ tag text .plain =>
    match tag with
    | none => .ok (spellsNothing text)
    | some tag =>
      if tag ≠ coreTag "null" then .ok false
      else if isNullText text then .ok true
      else .error { cause := .invalidValue (.text text) "null" }
  | .void _ => .ok true
  | _ => .ok false

/-- Refuses a node that says more than the name of a mode in its tag. -/
def readNodeUnit (node : Node) : Except Fault Unit :=
  match node with
  | .scalar mark _ text style =>
    if style = .plain && spellsNothing text then .ok () else .error (scalarFault mark text "null")
  | node => .error (wrongNode "unit" node)

def nodeTag? : Node → Option Octets
  | .scalar _ tag _ _ | .sequence _ tag _ | .mapping _ tag _ => tag
  | _ => none

/-- Reads a mode: a name, or a tag that is a name. -/
def readNodeMode (node : Node) : Except Fault AttachMode :=
  match tagName? (nodeTag? node), node with
  | some name, _ => do
    let mode ← readModeName name
    readNodeUnit node
    return mode
  | none, .scalar mark _ text _ =>
    (readModeName text).mapError fun fault => { fault with mark := some mark }
  | none, node => .error (wrongNode "a YAML tag starting with '!'" node)

def nodeEntries (document : Document) (entries : List (Node × Node)) : List (Entry Node) :=
  entries.map fun (key, node) => {
    key := nodeText "field identifier" (document.resolve key)
    label := keyLabel key
    node }

/-- How the nodes of a YAML document are read. -/
def yamlReader (document : Document) : Reader Node where
  wrong expected node := wrongNode expected (document.resolve node)
  fault node cause := { cause, mark := some (document.resolve node).mark }
  within node := Fault.inCollection (document.resolve node).mark
  text expected node := nodeText expected (document.resolve node)
  flag node := readNodeFlag (document.resolve node)
  capacity node := readNodeCapacity (document.resolve node)
  mode node := readNodeMode (document.resolve node)
  isNull node := readNodeIsNull (document.resolve node)
  shape node :=
    match document.resolve node with
    | .mapping _ _ entries => .keyed (nodeEntries document entries)
    | .scalar _ _ text style =>
      if text.isEmpty && style = .plain then .keyed [] else .other
    | .void _ => .keyed []
    | _ => .other
  skip node :=
    match node.broken? with
    | some words => .error (brokenFault words)
    | none => .ok ()
  surplus _ _ _ := none
  mayRepeat := false

def ofYaml (text : String) : Except Fault Conf :=
  let document := document text
  ofDocument document (yamlReader document).conf

end XdpSteering.Conf
