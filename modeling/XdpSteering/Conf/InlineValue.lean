import XdpSteering.Text.Blank
import XdpSteering.Value

/-!
# Values on one line

The notation in which an environment variable holds a value: a flag, a number, a list in brackets,
a dictionary in braces, a character or a text in quotes, or else plain text. A text that does not
follow the notation to its end stands for itself.
-/

namespace XdpSteering.Conf.InlineValue

open XdpSteering.Text

def singleQuote : Char := Char.ofNat 39

/-- Leaves out blanks at the start. -/
def skipBlank (text : List Char) : List Char := text.dropWhile isAsciiBlank

/-- A character that plain text goes on with. -/
def isPlain (char : Char) : Bool := !",\x7b\x7d[]".toList.contains char

/-- A character of a bare key. -/
def isKeyChar (char : Char) : Bool := char.isAlphanum || char = '_' || char = '-'

/-- A control character that must be escaped between quotes. -/
def isForbidden (char : Char) : Bool :=
  (char.toNat < 0x20 && char ≠ '\t') || char.toNat = 0x7F

def charOfHex? (digits : List Char) : Option Char := do
  let code ← digits.foldlM (fun code char => (digit? 16 char).map (code * 16 + ·)) 0
  if code < 0xD800 || (0xE000 ≤ code && code < 0x110000) then some (Char.ofNat code) else none

/-- The character that a single letter after a backslash stands for. -/
def simpleEscape? (letter : Char) : Option Char :=
  if letter = 'b' then some (Char.ofNat 8)
  else if letter = 't' then some '\t'
  else if letter = 'n' then some '\n'
  else if letter = 'f' then some (Char.ofNat 12)
  else if letter = 'r' then some '\r'
  else if letter = '"' then some '"'
  else if letter = '\\' then some '\\'
  else none

/-- Reads text up to a closing quote. -/
def readQuoted (acc : List Char) : List Char → Option (String × List Char)
  | [] => none
  | '"' :: rest => some (String.ofList acc.reverse, rest)
  | '\\' :: 'u' :: a :: b :: c :: d :: rest => do
    readQuoted ((← charOfHex? [a, b, c, d]) :: acc) rest
  | '\\' :: 'U' :: a :: b :: c :: d :: e :: f :: g :: h :: rest => do
    readQuoted ((← charOfHex? [a, b, c, d, e, f, g, h]) :: acc) rest
  | '\\' :: letter :: rest => do
    readQuoted ((← simpleEscape? letter) :: acc) rest
  | char :: rest =>
    if char = '\\' || isForbidden char then none else readQuoted (char :: acc) rest

def readChar : List Char → Option (Value × List Char)
  | char :: quote :: rest => if quote = singleQuote then some (.char char, rest) else none
  | _ => none

/-- The value of plain text: a number if it is one, and otherwise text. -/
def plainValue (text : List Char) : Value :=
  if text.contains '.' then
    match Binary64.read? text with
    | some number => .number (.float number)
    | none => .text (String.ofList text)
  else
    match Numeral.readUnsigned 10 Numeral.max64 text with
    | .ok number => .number (.unsigned number)
    | .error _ =>
      match Numeral.readSigned 10 Numeral.signedMin64 Numeral.signedMax64 text with
      | .ok number => .number (.signed number)
      | .error _ => .text (String.ofList text)

/-- Reads the key of an entry and the sign behind it. -/
def readKey (text : List Char) : Option (String × List Char) := do
  let (key, rest) ←
    match skipBlank text with
    | '"' :: rest => readQuoted [] rest
    | text =>
      let key := text.takeWhile isKeyChar
      if key.isEmpty then none else some (String.ofList key, text.dropWhile isKeyChar)
  match skipBlank rest with
  | '=' :: rest => some (key, rest)
  | _ => none

mutual

/-- Reads a value. The fuel bounds the depth of values within values. -/
def readValue (fuel : Nat) (text : List Char) : Option (Value × List Char) :=
  match fuel with
  | 0 => none
  | fuel + 1 => do
    let (value, rest) ←
      match skipBlank text with
      | 't' :: 'r' :: 'u' :: 'e' :: rest => some (Value.flag true, rest)
      | 'f' :: 'a' :: 'l' :: 's' :: 'e' :: rest => some (Value.flag false, rest)
      | '\x7b' :: rest => (readEntries fuel [] rest).map fun (pairs, rest) => (.ofPairs pairs, rest)
      | '[' :: rest => (readItems fuel [] rest).map fun (items, rest) => (.list items, rest)
      | '"' :: rest => (readQuoted [] rest).map fun (text, rest) => (.text text, rest)
      | text =>
        if text.head? = some singleQuote then readChar (text.drop 1)
        else some (plainValue (trim (text.takeWhile isPlain)), text.dropWhile isPlain)
    return (value, skipBlank rest)

/-- Reads the items of a list up to its closing bracket. -/
def readItems (fuel : Nat) (acc : List Value) (text : List Char) :
    Option (List Value × List Char) :=
  match fuel with
  | 0 => none
  | fuel + 1 =>
    match text with
    | ']' :: rest => some (acc.reverse, rest)
    | text => do
      let (value, rest) ← readValue fuel text
      match rest with
      | ',' :: rest => readItems fuel (value :: acc) rest
      | ']' :: rest => some ((value :: acc).reverse, rest)
      | _ => none

/-- Reads the entries of a dictionary up to its closing brace. -/
def readEntries (fuel : Nat) (acc : List (String × Value)) (text : List Char) :
    Option (List (String × Value) × List Char) :=
  match fuel with
  | 0 => none
  | fuel + 1 =>
    match text with
    | '\x7d' :: rest => some (acc.reverse, rest)
    | text => do
      let (key, rest) ← readKey text
      let (value, rest) ← readValue fuel rest
      match rest with
      | ',' :: rest => readEntries fuel ((key, value) :: acc) rest
      | '\x7d' :: rest => some (((key, value) :: acc).reverse, rest)
      | _ => none

end

/-- The value that a text writes. -/
def ofText (text : String) : Value :=
  -- Enough fuel for any text: a character takes two steps at most.
  match readValue (2 * text.length + 2) text.toList with
  | some (value, []) => value
  | _ => .text text

end XdpSteering.Conf.InlineValue
