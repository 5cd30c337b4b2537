import XdpSteering.Binary64
import XdpSteering.KeyedList

/-!
# Value trees

What a configuration is written in: scalars, lists and dictionaries, whatever the notation. Layers
of settings are merged as value trees.
-/

namespace XdpSteering

inductive Number where
  /-- A number without a sign, below `2 ^ 64`. -/
  | unsigned (value : Nat)
  | signed (value : Int)
  | wideUnsigned (value : Nat)
  /-- A number with a sign that needs more than 64 bits. -/
  | wideSigned (value : Int)
  /-- A number with a fraction or a power of ten. -/
  | float (value : Binary64)
  deriving DecidableEq, Repr

/-- A value tree. The keys of a dictionary are in ascending order. -/
inductive Value where
  | null
  | flag (value : Bool)
  | number (value : Number)
  | char (value : Char)
  | text (value : String)
  | list (items : List Value)
  | dict (entries : List (String × Value))
  deriving Repr

namespace Value

/-- A dictionary written as pairs, of which a later one replaces an earlier one. -/
def ofPairs (pairs : List (String × Value)) : Value :=
  .dict (KeyedList.ofList pairs)

def get? (key : String) : Value → Option Value
  | .dict entries => KeyedList.find? key entries
  | _ => none

/-- The value that a path of keys leads to. -/
def at? : List String → Value → Option Value
  | [], value => some value
  | key :: rest, value => (value.get? key).bind (at? rest)

mutual

/-- Lays a tree over another: dictionaries are merged key by key, and anything else replaces what is
below it. -/
def merge (lower : Value) : Value → Value
  | .dict upper =>
    match lower with
    | .dict entries => .dict (mergeEntries entries upper)
    | _ => .dict upper
  | upper => upper

/-- Lays the entries of a dictionary over those of another. -/
def mergeEntries (lower : List (String × Value)) : List (String × Value) → List (String × Value)
  | [] => lower
  | (key, upper) :: rest =>
    let value :=
      match KeyedList.find? key lower with
      | some below => merge below upper
      | none => upper
    mergeEntries (KeyedList.insert key value lower) rest

end

/-- The dictionary in which a path of keys leads to a value. -/
def nest : List String → Value → Value
  | [], value => value
  | key :: rest, value => .dict [(key, nest rest value)]

end Value

end XdpSteering
