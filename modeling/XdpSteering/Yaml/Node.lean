import XdpSteering.Yaml.Event

/-!
# Trees of YAML nodes

A document as a tree, in which an alias is a leaf with the number of an anchor. A document that
cannot be read to its end is a tree that breaks off: the first broken node, in the order of the
text, says why.
-/

namespace XdpSteering.Yaml

open XdpSteering.Text

inductive Node where
  | scalar (mark : Mark) (tag : Option Octets) (text : String) (style : Style)
  | sequence (mark : Mark) (tag : Option Octets) (items : List Node)
  | mapping (mark : Mark) (tag : Option Octets) (entries : List (Node × Node))
  /-- The node at the anchor with a number. -/
  | reference (number : Nat)
  /-- Nothing more can be read from here on; the words say why. -/
  | broken (words : String)
  /-- The text holds no document; it ends at the mark. -/
  | void (mark : Mark)
  deriving Repr

def Node.mark : Node → Mark
  | .scalar mark .. | .sequence mark .. | .mapping mark .. | .void mark => mark
  | .reference _ | .broken _ => {}

structure Document where
  root : Node
  /-- The nodes at the anchors, by number. -/
  anchored : List (Nat × Node)
  /-- How many leaves, starts and ends of collections it has. -/
  size : Nat
  /-- What is wrong behind its root. -/
  trailing : Option String

/-- The entry under a key of a list of pairs, the last one if there are several. -/
def latest? {A B : Type} [DecidableEq A] (key : A) (pairs : List (A × B)) : Option B :=
  (pairs.reverse.find? fun pair => pair.1 = key).map (·.2)

/-- The node that a node stands for. -/
def Document.resolve (document : Document) (node : Node) : Node :=
  match node with
  | .reference number => (latest? number document.anchored).getD node
  | node => node

/-! ## From events to nodes -/

/-- A part of a document: a leaf, or where a collection begins or ends. -/
inductive Part where
  | leaf (node : Node)
  | sequenceStart (mark : Mark) (tag : Option Octets)
  | mappingStart (mark : Mark) (tag : Option Octets)
  | stop

/-- The parts of a document with its anchors numbered. -/
structure Loaded where
  parts : List Part := []
  /-- The number given to each name of an anchor. -/
  numbers : List (String × Nat) := []
  /-- The place of the part that has an anchor's number. -/
  places : List (Nat × Nat) := []
  /-- Why the document breaks off behind its last part. -/
  failure : Option String := none

namespace Loaded

/-- Notes the anchor of the next part. Its number is how many names are known, so that a name which
is used again takes a number that another name may have. -/
def note (loaded : Loaded) (anchor : Option String) : Loaded :=
  match anchor with
  | none => loaded
  | some name =>
    let number := loaded.numbers.length
    { loaded with
      numbers := loaded.numbers.filter (fun known => known.1 ≠ name) ++ [(name, number)]
      places := loaded.places ++ [(number, loaded.parts.length)] }

def push (loaded : Loaded) (part : Part) : Loaded := { loaded with parts := loaded.parts ++ [part] }

/-- Adds an event of a node, if it can be read. -/
def add (loaded : Loaded) (event : Event) : Loaded :=
  let mark := event.mark
  match event.kind with
  | .alias name =>
    match latest? name loaded.numbers with
    | some number => loaded.push (.leaf (.reference number))
    | none => { loaded with failure := some (placed "unknown anchor" mark) }
  | .scalar properties text style =>
    (loaded.note properties.anchor).push (.leaf (.scalar mark properties.tag text style))
  | .sequenceStart properties =>
    (loaded.note properties.anchor).push (.sequenceStart mark properties.tag)
  | .mappingStart properties =>
    (loaded.note properties.anchor).push (.mappingStart mark properties.tag)
  | .sequenceEnd | .mappingEnd => loaded.push .stop
  | _ => loaded

/-- Loads the events of the first document; what follows it comes with it. -/
def load (loaded : Loaded) (problem : Option Problem) : List Event → Loaded × Option (List Event)
  | [] => ({ loaded with failure := problem.map Problem.text }, none)
  | event :: rest =>
    match event.kind with
    | .streamEnd => (loaded, none)
    | .documentEnd => (loaded, some rest)
    | _ =>
      let loaded := loaded.add event
      if loaded.failure.isSome then (loaded, none) else load loaded problem rest

end Loaded

mutual

/-- Builds the node that begins with the first part. The parts behind it come with it, unless it
breaks off; `ending` says why it does. -/
def Node.build (ending : String) : Nat → List Part → Node × Option (List Part)
  | 0, _ | _, [] => (.broken ending, none)
  | fuel + 1, part :: rest =>
    match part with
    | .leaf node => (node, some rest)
    | .sequenceStart mark tag =>
      let (items, rest) := buildItems ending fuel rest
      (.sequence mark tag items, rest)
    | .mappingStart mark tag =>
      let (entries, rest) := buildEntries ending fuel rest
      (.mapping mark tag entries, rest)
    | .stop => (.broken ending, none)

def Node.buildItems (ending : String) : Nat → List Part → List Node × Option (List Part)
  | 0, _ => ([.broken ending], none)
  | _, .stop :: rest => ([], some rest)
  | fuel + 1, parts =>
    match Node.build ending fuel parts with
    | (item, none) => ([item], none)
    | (item, some rest) =>
      let (others, rest) := buildItems ending fuel rest
      (item :: others, rest)

def Node.buildEntries (ending : String) :
    Nat → List Part → List (Node × Node) × Option (List Part)
  | 0, _ => ([(.broken ending, .broken ending)], none)
  | _, .stop :: rest => ([], some rest)
  | fuel + 1, parts =>
    match Node.build ending fuel parts with
    | (key, none) => ([(key, .broken ending)], none)
    | (key, some rest) =>
      match Node.build ending fuel rest with
      | (value, none) => ([(key, value)], none)
      | (value, some rest) =>
        let (others, rest) := buildEntries ending fuel rest
        ((key, value) :: others, rest)

end

/-- The node whose first part is at a place. -/
def Loaded.nodeAt (loaded : Loaded) (place : Nat) : Node :=
  let ending := loaded.failure.getD "EOF while parsing a value"
  (Node.build ending (2 * loaded.parts.length + 2) (loaded.parts.drop place)).1

/-- Whether there is another document, or something wrong, behind the first document. -/
def hasMore (problem : Option Problem) (rest : List Event) : Bool :=
  match rest with
  | event :: _ => event.kind ≠ .streamEnd
  | [] => problem.isSome

/-- The only document of a text. -/
def document (text : String) : Document :=
  let (events, problem) := events text
  let (loaded, rest) := Loaded.load {} problem events
  let root :=
    if loaded.parts.isEmpty && loaded.failure.isNone then
      .void ((events.find? fun event => event.kind = .streamEnd).elim {} (·.mark))
    else loaded.nodeAt 0
  let trailing :=
    match loaded.failure, rest with
    | some words, _ => some words
    | none, some rest =>
      if hasMore problem rest then
        some "deserializing from YAML containing more than one document is not supported"
      else none
    | none, none => none
  { root,
    anchored := loaded.places.map fun (number, place) => (number, loaded.nodeAt place),
    size := loaded.parts.length,
    trailing }

mutual

/-- Why a node cannot be read to its end, if it cannot. -/
def Node.broken? : Node → Option String
  | .broken words => some words
  | .sequence _ _ items => brokenItem? items
  | .mapping _ _ entries => brokenEntry? entries
  | .scalar .. | .reference _ | .void _ => none

def Node.brokenItem? : List Node → Option String
  | [] => none
  | item :: rest => (Node.broken? item).orElse fun _ => brokenItem? rest

def Node.brokenEntry? : List (Node × Node) → Option String
  | [] => none
  | (key, value) :: rest =>
    (Node.broken? key).orElse fun _ => (Node.broken? value).orElse fun _ => brokenEntry? rest

end

end XdpSteering.Yaml
