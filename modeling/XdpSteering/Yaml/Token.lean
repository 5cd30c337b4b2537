import XdpSteering.Text.Utf8
import XdpSteering.Yaml.Problem

/-!
# Tokens of YAML text

The marks of structure in a text and its scalars, each with the place where it begins and ends.
-/

namespace XdpSteering.Yaml

open XdpSteering.Text

/-- How a scalar is written. -/
inductive Style where
  | plain
  | singleQuoted
  | doubleQuoted
  | literal
  | folded
  deriving DecidableEq, Repr

inductive TokenKind where
  | versionDirective (major minor : Nat)
  | tagDirective (handle : String) (expansion : Octets)
  | documentStart
  | documentEnd
  | blockSequenceStart
  | blockMappingStart
  | blockEnd
  | flowSequenceStart
  | flowSequenceEnd
  | flowMappingStart
  | flowMappingEnd
  | blockEntry
  | flowEntry
  | key
  | value
  | anchor (name : String)
  | alias (name : String)
  | tag (handle : String) (suffix : Octets)
  | scalar (text : String) (style : Style)
  | streamEnd
  deriving DecidableEq, Repr

structure Token where
  kind : TokenKind
  start : Mark
  stop : Mark
  deriving DecidableEq, Repr

def isNameChar (char : Char) : Bool := char.isAlphanum || char = '_' || char = '-'

/-- A character of a tag that needs no escape. -/
def isTagChar (inDirective : Bool) (char : Char) : Bool :=
  isNameChar char || ";/?:@&=+$.%!~*'()".toList.contains char
    || (inDirective && ",[]".toList.contains char)

end XdpSteering.Yaml
