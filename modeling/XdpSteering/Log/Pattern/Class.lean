import XdpSteering.Log.Pattern.Depth
import XdpSteering.Log.Pattern.Escape

/-!
# Classes in patterns

A class is a set of characters between brackets: characters, stretches of them, classes with and
without names, and sets that are joined by operators.
-/

namespace XdpSteering.Log.Pattern

/-! ## Members -/

/-- Reads a member of a class: a character, or none if it stands for several. -/
def readMember? (mode : Mode) (text : List Char) : Option (Option Char × List Char) := do
  let (member, rest) ←
    match text with
    | [] => none
    | '\\' :: rest => readEscape? mode rest
    | char :: rest => some (.char char, rest)
  match member with
  | .char char => if mode.allowsMember char then some (some char, rest) else none
  | .place => none
  | .several => some (none, rest)

/-- Reads a member of a class, or the first and the last of several. -/
def readRange? (mode : Mode) (text : List Char) : Option (List Char) := do
  let (low, rest) ← readMember? mode text
  match mode.skip rest with
  | '-' :: rest =>
    if mode.peek? rest = some ']' || mode.peek? rest = some '-' then some ('-' :: rest)
    else do
      let (high, rest) ← readMember? mode (mode.skip rest)
      match low, high with
      | some low, some high => if low ≤ high then some rest else none
      | _, _ => none
  | rest => some rest

def classNames : List String :=
  ["alnum", "alpha", "ascii", "blank", "cntrl", "digit", "graph", "lower", "print", "punct",
    "space", "upper", "word", "xdigit"]

/-- Reads the name of a class behind its opening bracket. Tells also whether the class is what the
name excludes. -/
def readClassName? (text : List Char) : Option (Bool × List Char) :=
  classNames.findSome? fun name =>
    [(false, ":"), (true, ":^")].findSome? fun (excludes, start) =>
      let shown := (start ++ name ++ ":]").toList
      if shown.isPrefixOf text then some (excludes, text.drop shown.length) else none

/-! ## Whole classes -/

/-- A class whose closing bracket has not come yet. -/
structure OpenClass where
  /-- The depth of what stands in front of the last operator. -/
  operand? : Option Nat := none
  /-- The members behind the last operator. -/
  members : Row := {}
  /-- Whether nothing but dashes has come. -/
  isStart : Bool := true
  deriving DecidableEq, Repr

namespace OpenClass

def innerDepth (inner : OpenClass) : Nat :=
  match inner.operand? with
  | none => inner.members.depth
  | some operand => max operand inner.members.depth + 1

def depth (inner : OpenClass) : Nat := inner.innerDepth + 1

/-- The class with one more member of a depth. -/
def add (inner : OpenClass) (depth : Nat) : OpenClass :=
  { inner with members := inner.members.add depth, isStart := false }

/-- The class with one more dash at its start. -/
def addDash (inner : OpenClass) : OpenClass := { inner.add 0 with isStart := true }

/-- The class behind an operator. -/
def operate (inner : OpenClass) : OpenClass :=
  { operand? := some inner.innerDepth, isStart := false }

/-- Whether a closing bracket would stand for itself. -/
def isEmpty (inner : OpenClass) : Bool := inner.isStart && inner.members.count = 0

end OpenClass

/-- The text behind the sign that excludes the members of a class, if the sign is there. -/
def enterClass? (mode : Mode) (text : List Char) : Option (List Char) :=
  match mode.skip text with
  | '^' :: rest => if mode.allowsExclusion then some rest else none
  | rest => some rest

/-- Reads a class behind its opening bracket and the sign that excludes its members. Gives its depth
and the text behind it. -/
def readClass? (mode : Mode) (outer : List OpenClass) (inner : OpenClass) (text : List Char) :
    Nat → Option (Nat × List Char)
  | 0 => none
  | fuel + 1 =>
    match mode.skip text with
    | [] => none
    | ']' :: rest =>
      if inner.isEmpty then
        if mode.allowsMember ']' then readClass? mode outer (inner.add 0) rest fuel else none
      else
        match outer with
        | [] => some (inner.depth, rest)
        | next :: outer => readClass? mode outer (next.add inner.depth) rest fuel
    | '[' :: rest =>
      match readClassName? rest with
      | some (excludes, rest) =>
        if mode.allowsChar && (!excludes || mode.allowsExclusion) then
          readClass? mode outer (inner.add 0) rest fuel
        else none
      | none =>
        (enterClass? mode rest).bind fun rest => readClass? mode (inner :: outer) {} rest fuel
    | sign :: rest =>
      if inner.isStart && sign = '-' then
        if mode.allowsMember '-' then readClass? mode outer inner.addDash rest fuel else none
      else if ['&', '-', '~'].contains sign && rest.head? = some sign then
        readClass? mode outer inner.operate (rest.drop 1) fuel
      else
        (readRange? mode (sign :: rest)).bind fun rest =>
          readClass? mode outer (inner.add 0) rest fuel

end XdpSteering.Log.Pattern
