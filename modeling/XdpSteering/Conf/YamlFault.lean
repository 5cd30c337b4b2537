import XdpSteering.Conf.ValueReader
import XdpSteering.Yaml.Scalar

/-!
# Faults in YAML documents

Faults in a document tell their place and the way to it: keys with points between them, and indices
in brackets. A fault that has no place yet is given that of the collection around it.
-/

namespace XdpSteering.Conf

open XdpSteering.Yaml
open XdpSteering.Text

/-- How the way to a value goes on. -/
def extendWay (way : String) : Label → String
  | .index number => way ++ "[" ++ toString number ++ "]"
  | label => way ++ "." ++ label.text

def rootWay : String := "."

/-- The way along labels from the root, which is written in front of an index alone. -/
def wayAlong : List Label → String
  | [] => rootWay
  | .index number :: rest => rest.foldl extendWay (extendWay rootWay (.index number))
  | label :: rest => rest.foldl extendWay label.text

/-- The description of a fault in a YAML document: the way to it, what is wrong, and the place. -/
def Fault.yamlText (fault : Fault) : String :=
  let mark := fault.mark.getD {}
  match fault.cause with
  | .message text => placed text mark
  | cause =>
    let way := wayAlong fault.path
    let start := if way = rootWay then "" else way ++ ": "
    placed (start ++ cause.documentText .yaml) mark

/-- A fault seen from the collection at a mark, which places it if nothing has done so. -/
def Fault.inCollection (mark : Mark) (label : Label) (fault : Fault) : Fault :=
  if fault.mark.isNone then { fault with mark := some mark } else fault.within label

/-- The fault of a document that breaks off. -/
def brokenFault (words : String) : Fault := { cause := .message words, mark := some {} }

/-- The fault of a scalar that is no value of the kind that is asked for. -/
def scalarFault (mark : Mark) (text expected : String) : Fault :=
  { cause := .invalidValue (.text text) expected, mark := some mark }

/-- The fault of a node that is of another kind than expected. -/
def wrongNode (expected : String) (node : Node) : Fault :=
  let fault := fun (found : Found) =>
    { cause := .invalidType found expected, mark := some node.mark : Fault }
  match node with
  | .scalar mark tag text style =>
    match scalarValue tag text style with
    | .ok value => fault (foundValue value)
    | .error kind => scalarFault mark text kind
  | .sequence .. => fault .list
  | .mapping .. => fault .map
  | .broken words => brokenFault words
  | .reference _ | .void _ => fault .unit

def nodeText (expected : String) : Node → Except Fault String
  | .scalar _ _ text _ => .ok text
  | node => .error (wrongNode expected node)

/-- What the key of a value in a mapping adds to the way to it. -/
def keyLabel : Node → Label
  | .scalar _ _ text _ => .key text
  | _ => .unknown

/-- What reading a document gives, unless something is wrong behind its root. -/
def ofDocument {A : Type} (document : Document) (read : Node → Except Fault A) :
    Except Fault A := do
  let result ← read document.root
  match document.trailing with
  | some words => throw (brokenFault words)
  | none => return result

end XdpSteering.Conf
