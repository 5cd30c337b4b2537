import XdpSteering.Conf.YamlFault

/-!
# Value trees of YAML documents

A document is read as a value tree when it is one of several layers of settings. Aliases are
followed where they stand; how deep collections may be nested and how many aliases may be followed
is bounded. A value may name its source by a number.
-/

namespace XdpSteering.Conf

open XdpSteering.Yaml
open XdpSteering.Text

/-- How deep collections may be nested, the root included. -/
def maxDepth : Nat := 128

/-- How many aliases may be followed for each part of the document. -/
def maxJumps : Nat := 100

/-- What is read while the aliases that are followed are counted. -/
abbrev Counted (A : Type) := Nat → Except Fault (A × Nat)

/-- The same with every fault seen from the collection at a mark. -/
def Counted.inCollection {A : Type} (mark : Mark) (label : Label) (read : Counted A) : Counted A :=
  fun jumps => (read jumps).mapError (Fault.inCollection mark label)

/-- The node that a node stands for. -/
def follow (document : Document) (node : Node) : Counted Node := fun jumps =>
  match node with
  | .reference _ =>
    if maxJumps * document.size ≤ jumps then .error (brokenFault "repetition limit exceeded")
    else .ok (document.resolve node, jumps + 1)
  | node => .ok (node, jumps)

/-! ## Values and the sources that they name -/

/-- A value tree, and the numbers of the sources that values in it name, each with the way to the
value. -/
structure Sourced where
  value : Value
  sources : List (List Label × Nat) := []

namespace Sourced

/-- The sources that are named in a value, seen from the collection that holds it under a label. -/
def seenFrom (label : Label) (sourced : Sourced) : List (List Label × Nat) :=
  sourced.sources.map fun (way, number) => (label :: way, number)

def ofItems (items : List Sourced) : Sourced where
  value := .list (items.map Sourced.value)
  sources := items.zipIdx.flatMap fun (item, index) => item.seenFrom (.index index)

/-- The dictionary written as pairs, of which a later one replaces an earlier one. -/
def ofPairs (pairs : List (String × Sourced)) : Sourced where
  value := .ofPairs (pairs.map fun (name, item) => (name, item.value))
  sources := (KeyedList.ofList pairs).flatMap fun (name, item) => item.seenFrom (.key name)

/-- The dictionary in which a path of keys leads to a value. -/
def nest (keys : List String) (sourced : Sourced) : Sourced where
  value := .nest keys sourced.value
  sources := sourced.sources.map fun (way, number) => (keys.map Label.key ++ way, number)

/-- The value with a source of its own. Zero stands for the source of the whole layer. -/
def claim (number : Nat) (sourced : Sourced) : Sourced :=
  let inner := sourced.sources.filter fun (way, _) => !way.isEmpty
  { sourced with sources := if number = 0 then inner else ([], number) :: inner }

end Sourced

/-! ## Tags and keys with a meaning -/

/-- A value under the name in a tag, if there is one. Dots in the name separate keys; an empty key
ends them. -/
def tagged (tag : Option Octets) (sourced : Sourced) : Sourced :=
  match tagName? tag with
  | some name =>
    let keys := (name.toList.splitOn '.').takeWhile fun key => !key.isEmpty
    sourced.nest (keys.map String.ofList)
  | none => sourced

/-- The key of the number of a source. -/
def idKey : String := "___figment_value_id"

/-- The key of a value that stands for the dictionary it is in. -/
def valueKey : String := "___figment_value_value"

/-- The value that entries stand for. -/
def collapse (pairs : List (String × Sourced)) : Sourced :=
  match latest? valueKey pairs with
  | some sourced =>
    match (latest? idKey pairs).map Sourced.value with
    | some (.number (.unsigned number)) => sourced.claim number
    | _ => sourced
  | none => .ofPairs (pairs.filter fun pair => pair.1 ≠ idKey)

/-! ## Reading -/

/-- Reads the number of a source. -/
def readId (document : Document) (node : Node) : Counted Sourced := fun jumps => do
  let (node, jumps) ← follow document node jumps
  let wrong := wrongNode "a 64-bit metadata id integer" node
  match node with
  | .scalar _ tag text style =>
    match scalarValue tag text style with
    | .ok (.number (.unsigned number)) => return ({ value := .number (.unsigned number) }, jumps)
    | _ => throw wrong
  | _ => throw wrong

/-- Reads the items of a sequence at a mark, counting from an index. -/
def readItems (read : Node → Counted Sourced) (mark : Mark) (index : Nat) :
    List Node → Counted (List Sourced)
  | [], jumps => .ok ([], jumps)
  | item :: rest, jumps => do
    let (value, jumps) ← Counted.inCollection mark (.index index) (read item) jumps
    let (values, jumps) ← readItems read mark (index + 1) rest jumps
    return (value :: values, jumps)

/-- Reads the entries of a mapping at a mark, each under its key. -/
def readPairs (document : Document) (read : String → Node → Counted Sourced) (mark : Mark) :
    List (Node × Node) → Counted (List (String × Sourced))
  | [], jumps => .ok ([], jumps)
  | (key, node) :: rest, jumps => do
    let (followed, jumps) ← follow document key jumps
    let name ← nodeText "a string" followed
    let (value, jumps) ← Counted.inCollection mark (keyLabel key) (read name node) jumps
    let (pairs, jumps) ← readPairs document read mark rest jumps
    return ((name, value) :: pairs, jumps)

/-- Reads a value; `inside` reads the values in a collection, if one may be opened. -/
def readWith (document : Document) (inside : Option (Node → Counted Sourced)) (node : Node) :
    Counted Sourced := fun jumps => do
  let (node, jumps) ← follow document node jumps
  let tooDeep := brokenFault (placed "recursion limit exceeded" node.mark)
  match node, inside with
  | .scalar mark tag text style, _ =>
    match scalarValue tag text style with
    | .ok value => return (tagged tag { value }, jumps)
    | .error kind => throw (scalarFault mark text kind)
  | .sequence mark tag items, some inside => do
    let (values, jumps) ← readItems inside mark 0 items jumps
    return (tagged tag (.ofItems values), jumps)
  | .mapping mark tag entries, some inside => do
    let read := fun name node =>
      -- The number of a source can be nothing but a number.
      if name = idKey then readId document node else inside node
    let (pairs, jumps) ← readPairs document read mark entries jumps
    return (tagged tag (collapse pairs), jumps)
  | .sequence .., none | .mapping .., none => throw tooDeep
  | .broken words, _ => throw (brokenFault words)
  | .reference _, _ | .void _, _ => return ({ value := .null }, jumps)

/-- Reads a value in which collections are nested up to a depth. -/
def readValue (document : Document) : Nat → Node → Counted Sourced
  | 0 => readWith document none
  | depth + 1 => readWith document (some (readValue document depth))

/-- The value tree of the root of a document, which has to be a mapping; nothing at all is an empty
one. -/
def rootValue (document : Document) (root : Node) : Except Fault Sourced :=
  match root with
  | .mapping mark _ entries => do
    -- At the root the keys with a meaning are keys like any other.
    let read := fun _ => readValue document (maxDepth - 1)
    let (pairs, _) ← readPairs document read mark entries 0
    return .ofPairs pairs
  | .void _ => .ok { value := .dict [] }
  | .scalar _ _ text style =>
    if text.isEmpty && style = .plain then .ok { value := .dict [] }
    else .error (wrongNode "a map" root)
  | root => .error (wrongNode "a map" root)

/-- The layer of settings in a YAML text. -/
def layerOfYaml (text : String) : Except Fault Sourced :=
  let document := document text
  ofDocument document (rootValue document)

end XdpSteering.Conf
