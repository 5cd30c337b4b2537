import XdpSteering.Log.Pattern.Class
import XdpSteering.Text.Alphanumeric

/-!
# Patterns

The notation of the patterns that a directive may ask the value of a field to match: alternatives,
groups, classes and repetitions. Values are never matched, since fields of spans alone have them,
but a directive whose pattern breaks the notation cannot be read.

A pattern stands between braces, behind an equals sign and between commas. None of these signs is
part of it, so that a number of repetitions cannot be given.
-/

namespace XdpSteering.Log.Pattern

open XdpSteering.Text

/-! ## Groups -/

/-- What an opening parenthesis begins. -/
inductive Opening where
  | group (options rest : List Char)
  | named (name rest : List Char)
  | options (options rest : List Char)

/-- Whether a text is the name of a group. -/
def isGroupName (name : List Char) : Bool :=
  let isPart := fun (char : Char) => isAlphanumeric char || "_.[]".toList.contains char
  name.all isPart && name.head?.any fun char => char = '_' || isAlphabetic char

def readGroupName? (text : List Char) : Option Opening :=
  let name := text.takeWhile (· ≠ '>')
  if isGroupName name && name.length < text.length then
    some (.named name (text.drop (name.length + 1)))
  else none

/-- Reads what follows an opening parenthesis. -/
def readOpening? : List Char → Option Opening
  | '?' :: 'P' :: '<' :: rest | '?' :: '<' :: rest => readGroupName? rest
  | '?' :: rest =>
    let options := rest.takeWhile fun char => char ≠ ')' && char ≠ ':'
    if Mode.areOptions options then
      match rest.drop options.length with
      | ')' :: rest => if options.isEmpty then none else some (.options options rest)
      | ':' :: rest => some (.group options rest)
      | _ => none
    else none
  | rest => some (.group [] rest)

/-- A group whose closing parenthesis has not come yet, or the whole pattern. -/
structure OpenGroup where
  mode : Mode := {}
  /-- The depth of the deepest alternative in front of the last bar. -/
  alternative? : Option Nat := none
  /-- The parts behind the last bar. -/
  parts : Row := {}
  /-- The depth of the last part, if it can be repeated. -/
  last? : Option Nat := none
  deriving DecidableEq, Repr

namespace OpenGroup

def innerDepth (inner : OpenGroup) : Nat :=
  match inner.alternative? with
  | none => inner.parts.depth
  | some alternative => max alternative inner.parts.depth + 1

def depth (inner : OpenGroup) : Nat := inner.innerDepth + 1

/-- The group with one more part of a depth. -/
def add (inner : OpenGroup) (depth : Nat := 0) : OpenGroup :=
  { inner with parts := inner.parts.add depth, last? := some depth }

/-- The group with its last part repeated. -/
def repeat? (inner : OpenGroup) : Option OpenGroup :=
  inner.last?.map fun depth =>
    { inner with parts := inner.parts.deepen (depth + 1), last? := some (depth + 1) }

/-- The group behind a bar. -/
def alternate (inner : OpenGroup) : OpenGroup :=
  { mode := inner.mode, alternative? := some (max (inner.alternative?.getD 0) inner.parts.depth) }

/-- The group behind options, which are a part that cannot be repeated. -/
def change (inner : OpenGroup) (options : List Char) : OpenGroup :=
  { inner.add with mode := inner.mode.change options, last? := none }

end OpenGroup

/-! ## Whole patterns -/

/-- The text behind the sign that makes a repetition as short as possible, if the sign is there. -/
def dropShortest (text : List Char) : List Char :=
  if text.head? = some '?' then text.drop 1 else text

/-- Reads a pattern to its end. `names` holds the names of groups. -/
def isValidFrom (names : List (List Char)) (outer : List OpenGroup) (inner : OpenGroup)
    (text : List Char) : Nat → Bool
  | 0 => false
  | fuel + 1 =>
    match inner.mode.skip text with
    | [] => outer.isEmpty && inner.innerDepth ≤ maxDepth
    | '(' :: rest =>
      match readOpening? (inner.mode.skip rest) with
      | none => false
      | some (.group options rest) =>
        isValidFrom names (inner :: outer) { mode := inner.mode.change options } rest fuel
      | some (.named name rest) =>
        !names.contains name
          && isValidFrom (name :: names) (inner :: outer) { mode := inner.mode } rest fuel
      | some (.options options rest) =>
        isValidFrom names outer (inner.change options) rest fuel
    | ')' :: rest =>
      match outer with
      | [] => false
      | next :: outer => isValidFrom names outer (next.add inner.depth) rest fuel
    | '|' :: rest => isValidFrom names outer inner.alternate rest fuel
    | '*' :: rest | '+' :: rest | '?' :: rest =>
      inner.repeat?.any fun inner => isValidFrom names outer inner (dropShortest rest) fuel
    -- A closing brace would end the directive, so that no number of repetitions is complete.
    | '\x7b' :: _ => false
    | '[' :: rest =>
      let read := (enterClass? inner.mode rest).bind fun rest =>
        readClass? inner.mode [] {} rest fuel
      read.any fun (depth, rest) => isValidFrom names outer (inner.add depth) rest fuel
    | '\\' :: rest =>
      (readEscape? inner.mode rest).any fun (escaped, rest) =>
        escaped.isAllowed inner.mode && isValidFrom names outer inner.add rest fuel
    | '.' :: rest => !inner.mode.inOctets && isValidFrom names outer inner.add rest fuel
    | '^' :: rest | '$' :: rest => isValidFrom names outer inner.add rest fuel
    | _ :: rest => inner.mode.allowsChar && isValidFrom names outer inner.add rest fuel

def isValid (text : List Char) : Bool := isValidFrom [] [] {} text (text.length + 1)

end XdpSteering.Log.Pattern
