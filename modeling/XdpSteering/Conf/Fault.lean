import XdpSteering.Binary64
import XdpSteering.Text.Cursor
import XdpSteering.Text.Quoted

/-!
# Faults in a written configuration

What is wrong with a value, and the way from the root of the configuration to it.
-/

namespace XdpSteering.Conf

/-- What was found where something else was expected. -/
inductive Found where
  | flag (value : Bool)
  | unsigned (value : Nat)
  | signed (value : Int)
  | float (value : Binary64)
  | text (value : String)
  | unit
  | list
  | map
  /-- A value that is described in words. -/
  | other (words : String)
  deriving DecidableEq, Repr

/-- What is wrong. -/
inductive Cause where
  | invalidType (found : Found) (expected : String)
  | invalidValue (found : Found) (expected : String)
  | invalidLength (length : Nat) (expected : String)
  | unknownVariant (name : String) (expected : List String)
  | missingField (name : String)
  | duplicateField (name : String)
  | message (text : String)
  deriving DecidableEq, Repr

/-- One step on the way to a value. -/
inductive Label where
  | key (name : String)
  | index (number : Nat)
  /-- A key whose text is not told. -/
  | unknown
  deriving DecidableEq, Repr

/-- A fault, the way to it from the value that was read, and the place where it is written, if that
is known. -/
structure Fault where
  path : List Label := []
  cause : Cause
  mark : Option Text.Mark := none
  deriving DecidableEq, Repr

/-- The same fault, seen from the value that holds its value under a label. -/
def Fault.within (label : Label) (fault : Fault) : Fault :=
  { fault with path := label :: fault.path }

def Label.text : Label → String
  | .key name => name
  | .index number => toString number
  | .unknown => "?"

/-- The words for what was found, which depend on the notation: a function around a flag, and what
stands in front of a number. -/
structure Wording where
  flag : String → String
  unsigned : String
  signed : String
  float : String
  layout : Binary64.Layout
  unit : String

def Wording.found (wording : Wording) : Found → String
  | .flag value => wording.flag (if value then "true" else "false")
  | .unsigned value => wording.unsigned ++ toString value ++ "`"
  | .signed value => wording.signed ++ toString value ++ "`"
  | .float value => wording.float ++ value.text wording.layout ++ "`"
  | .text value => "string " ++ Text.quoted value
  | .unit => wording.unit
  | .list => "sequence"
  | .map => "map"
  | .other words => words

/-- The names between back quotes, as a list of choices. -/
def choices (names : List String) : String :=
  let quotedNames := names.map fun name => "`" ++ name ++ "`"
  match quotedNames with
  | [] => "there are no variants"
  | [one] => one
  | [one, two] => one ++ " or " ++ two
  | _ => "one of " ++ ", ".intercalate quotedNames

/-- The description of a fault in a layer of settings. -/
def Cause.layeredText (wording : Wording) : Cause → String
  | .invalidType found expected =>
    "invalid type: found " ++ wording.found found ++ ", expected " ++ expected
  | .invalidValue found expected =>
    "invalid value " ++ wording.found found ++ ", expected " ++ expected
  | .invalidLength length expected =>
    "invalid length " ++ toString length ++ ", expected " ++ expected
  | .unknownVariant name expected =>
    "unknown variant: found `" ++ name ++ "`, expected `"
      ++ "one of " ++ ", ".intercalate (expected.map fun name => "`" ++ name ++ "`") ++ "`"
  | .missingField name => "missing field `" ++ name ++ "`"
  | .duplicateField name => "duplicate field `" ++ name ++ "`"
  | .message text => text

/-- The description of a fault in a document. -/
def Cause.documentText (wording : Wording) : Cause → String
  | .invalidType found expected =>
    "invalid type: " ++ wording.found found ++ ", expected " ++ expected
  | .invalidValue found expected =>
    "invalid value: " ++ wording.found found ++ ", expected " ++ expected
  | .invalidLength length expected =>
    "invalid length " ++ toString length ++ ", expected " ++ expected
  | .unknownVariant name expected =>
    "unknown variant `" ++ name ++ "`, expected " ++ choices expected
  | .missingField name => "missing field `" ++ name ++ "`"
  | .duplicateField name => "duplicate field `" ++ name ++ "`"
  | .message text => text

def Wording.layered : Wording where
  flag := fun value => "bool " ++ value
  unsigned := "unsigned int `"
  signed := "signed int `"
  float := "float `"
  layout := .plain
  unit := "unit"

def Wording.json : Wording where
  flag := fun value => "boolean `" ++ value ++ "`"
  unsigned := "integer `"
  signed := "integer `"
  float := "floating point `"
  layout := .scientific
  unit := "null"

def Wording.yaml : Wording where
  flag := fun value => "boolean `" ++ value ++ "`"
  unsigned := "integer `"
  signed := "integer `"
  float := "floating point `"
  layout := .pointed
  unit := "unit value"

end XdpSteering.Conf
