import XdpSteering.Log.Pattern.Mode
import XdpSteering.Text.Numeral

/-!
# Escapes in patterns

A backslash and the characters behind it.
-/

namespace XdpSteering.Log.Pattern

open XdpSteering.Text

/-- What a backslash and the characters behind it stand for. -/
inductive Escaped where
  | char (char : Char)
  /-- A place: the start or the end of the text or of a word, or none of a word. -/
  | place
  /-- The digits, the blanks or the characters of words. -/
  | several
  deriving DecidableEq, Repr

/-- Whether an escape may stand outside of classes. -/
def Escaped.isAllowed (mode : Mode) : Escaped → Bool
  | .char _ => mode.allowsChar
  | .place | .several => true

/-- Reads a code in a number of hexadecimal digits, behind the digits that spell `code`. -/
def readDigits? (mode : Mode) (code : Nat) : Nat → List Char → Option (Nat × List Char)
  | 0, text => some (code, text)
  | count + 1, text =>
    match mode.skip text with
    | [] => none
    | digit :: rest =>
      (digit? 16 digit).bind fun value => readDigits? mode (code * 16 + value) count rest

/-- Reads a character by its code in a number of hexadecimal digits. In octets, two digits are an
octet, which is a character in ASCII alone. -/
def readCode? (mode : Mode) (count : Nat) (text : List Char) : Option (Escaped × List Char) := do
  let (code, rest) ← readDigits? mode 0 count text
  if code.isValidChar && !(mode.inOctets && count = 2 && 0x80 ≤ code) then
    some (.char (Char.ofNat code), rest)
  else none

def control? : Char → Option Char
  | 'a' => some (Char.ofNat 7)
  | 'f' => some (Char.ofNat 12)
  | 't' => some '\t'
  | 'n' => some '\n'
  | 'r' => some '\r'
  | 'v' => some (Char.ofNat 11)
  | _ => none

/-- Whether a backslash in front of a sign makes it stand for itself. -/
def isSign (char : Char) : Bool :=
  char.toNat < 0x80 && !char.isAlphanum && char ≠ '<' && char ≠ '>'

/-- The characters that stand for an edge of a word, or for a place that is none. -/
def wordEdges : List Char := ['b', 'B', '<', '>']

def severalLetters : List Char := ['d', 's', 'w']

/-- Reads an escape behind its backslash. Words, digits and blanks are known in octets alone. -/
def readEscape? (mode : Mode) : List Char → Option (Escaped × List Char)
  | [] => none
  | letter :: rest =>
    if isSign letter then some (.char letter, rest)
    else if letter = 'x' then readCode? mode 2 rest
    else if letter = 'u' then readCode? mode 4 rest
    else if letter = 'U' then readCode? mode 8 rest
    else if letter = 'A' || letter = 'z' then some (.place, rest)
    else if wordEdges.contains letter then if mode.inOctets then some (.place, rest) else none
    else if severalLetters.contains letter then
      if mode.inOctets then some (.several, rest) else none
    else (control? letter).map fun char => (.char char, rest)

end XdpSteering.Log.Pattern
