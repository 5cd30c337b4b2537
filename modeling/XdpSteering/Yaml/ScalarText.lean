import XdpSteering.Yaml.Scalar

/-!
# Texts as YAML scalars

How a text is written so that it reads back as itself: plainly where that is possible, and otherwise
between single quotes, line by line, or with escapes between double quotes.
-/

namespace XdpSteering.Yaml

open XdpSteering.Text

/-! ## What stands in the way of a style -/

/-- Whether a character is written as itself between double quotes or outside of quotes. -/
def isShown (char : Char) : Bool :=
  let code := char.toNat
  char = '\n' || (0x20 ≤ code && code ≤ 0x7E)
    || (0xA0 ≤ code && code ≠ 0xFEFF && code ≠ 0xFFFE && code ≠ 0xFFFF)

/-- Whether somewhere a character of one kind stands in front of one of another kind. -/
def hasPair (first second : Char → Bool) (text : List Char) : Bool :=
  (text.zip (text.drop 1)).any fun (a, b) => first a && second b

def isBlankChar (char : Char) : Bool := char = ' '

/-- The apostrophe, which is doubled between single quotes. -/
def apostrophe : Char := Char.ofNat 39

/-- The characters with which no plain scalar begins. -/
def indicators : List Char :=
  ['#', ',', '[', ']', '\x7b', '\x7d', '&', '*', '!', '|', '>', apostrophe, '"', '%', '@',
    Char.ofNat 96]

/-- Whether a text begins like something other than a plain scalar. -/
def beginsWithMark (text : List Char) : Bool :=
  match text with
  | [] => false
  | first :: rest =>
    indicators.contains first
      || ((first = '?' || first = '-') && rest.head?.all isBlankChar)
      || text.take 3 = ['-', '-', '-'] || text.take 3 = ['.', '.', '.']

/-- Whether a text holds something that ends a plain scalar. -/
def holdsMark (text : List Char) : Bool :=
  hasPair (· = ':') isBlankChar text || text.getLast? = some ':'
    || hasPair isBlankChar (· = '#') text

/-- Whether a text begins or ends with a blank or a line end. -/
def hasBareEnds (text : List Char) : Bool :=
  let isBare := fun (char : Char) => isBlankChar char || isBreak char
  text.head?.any isBare || text.getLast?.any isBare

/-- Whether a text can be written plainly. -/
def plainAllowed (text : List Char) : Bool :=
  text.all isShown && !text.any isBreak && !hasBareEnds text && !beginsWithMark text
    && !holdsMark text

/-- Whether a text can be written between single quotes. -/
def singleQuotedAllowed (text : List Char) : Bool :=
  text.all isShown && !hasPair isBlankChar isBreak text && !hasPair isBreak isBlankChar text

/-- Whether a text can be written line by line. -/
def literalAllowed (text : List Char) : Bool :=
  text.all isShown && !hasPair isBlankChar isBreak text && !text.getLast?.any isBlankChar

/-! ## The choice of a style -/

/-- Whether a text written plainly might be taken for something else. Digits behind a needless zero
are no number here, but elsewhere they may be one. -/
def isAmbiguous (text : String) : Bool :=
  match plainValue text with
  | .text _ => hasLeadingZero text.toList
  | _ => true

def styleFor (text : String) : Style :=
  let chars := text.toList
  if chars.contains '\n' then
    if literalAllowed chars then .literal else .doubleQuoted
  else if !isAmbiguous text && plainAllowed chars then .plain
  else if singleQuotedAllowed chars then .singleQuoted
  else .doubleQuoted

/-! ## Writing -/

def indent (depth : Nat) : String := String.ofList (List.replicate depth ' ')

/-- A text as it stands between single quotes. What follows a line end is indented. -/
def singleQuotedBody (depth : Nat) : List Char → String
  | [] => ""
  | char :: rest =>
    let shown :=
      if char = apostrophe then String.ofList [apostrophe, apostrophe]
      else if isBreak char && !rest.head?.any isBreak then char.toString ++ indent depth
      else char.toString
    shown ++ singleQuotedBody depth rest

/-- The escapes with a letter of their own. -/
def letterEscapes : List (Nat × String) :=
  [(0x00, "0"), (0x07, "a"), (0x08, "b"), (0x09, "t"), (0x0A, "n"), (0x0B, "v"), (0x0C, "f"),
    (0x0D, "r"), (0x1B, "e"), (0x22, "\""), (0x5C, "\\"), (0x85, "N"), (0xA0, "_"),
    (0x2028, "L"), (0x2029, "P")]

/-- The escape that stands for a character. -/
def escapeOf (char : Char) : String :=
  let code := char.toNat
  let digits := fun (width : Nat) =>
    padLeft width '0' ((hexDigits code).map Char.toUpper)
  match letterEscapes.lookup code with
  | some letter => "\\" ++ letter
  | none =>
    if code ≤ 0xFF then "\\x" ++ digits 2
    else if code ≤ 0xFFFF then "\\u" ++ digits 4
    else "\\U" ++ digits 8

/-- A character as it stands between double quotes. -/
def doubleQuotedChar (char : Char) : String :=
  if !isShown char || isBreak char || char = '"' || char = '\\' then escapeOf char
  else char.toString

/-- What is said in front of the lines of a text: that the first of them is indented on its own, and
what becomes of the line ends at the end. -/
def literalHeader (text : List Char) : String :=
  -- Blanks at the start would otherwise count as indentation.
  let hint := if text.head?.any fun char => isBlankChar char || isBreak char then "2" else ""
  let ends := text.reverse.takeWhile isBreak
  let chomp :=
    if ends.isEmpty then "-"
    else if ends.length = 1 && 1 < text.length then ""
    else "+"
  "|" ++ hint ++ chomp ++ "\n"

/-- The lines of a text, each of them indented unless it is empty. -/
def literalBody (depth : Nat) (atStart : Bool) : List Char → String
  | [] => ""
  | char :: rest =>
    let space := if atStart && !isBreak char then indent depth else ""
    space ++ char.toString ++ literalBody depth (isBreak char) rest

/-- The text as a scalar whose further lines are indented. -/
def scalarText (depth : Nat) (text : String) : String :=
  let chars := text.toList
  match styleFor text with
  | .literal => literalHeader chars ++ literalBody depth true chars
  | .singleQuoted =>
    let quote := apostrophe.toString
    quote ++ singleQuotedBody depth chars ++ quote
  | .doubleQuoted => "\"" ++ String.join (chars.map doubleQuotedChar) ++ "\""
  | _ => text

/-! ## Entries of mappings -/

/-- How much deeper a mapping stands than the one around it. -/
def indentStep : Nat := 2

/-- An entry with its line end. The lines of a text end with the text if that ends with a line end.
-/
def entryLine (depth : Nat) (key scalar : String) : String :=
  let line := indent depth ++ key ++ ": " ++ scalar
  if line.toList.getLast?.any isBreak then line else line ++ "\n"

def textEntry (depth : Nat) (key text : String) : String :=
  entryLine depth key (scalarText (depth + indentStep) text)

def flagEntry (depth : Nat) (key : String) (value : Bool) : String :=
  entryLine depth key (if value then "true" else "false")

def numberEntry (depth : Nat) (key : String) (value : Nat) : String :=
  entryLine depth key (toString value)

def mappingEntry (depth : Nat) (key entries : String) : String :=
  indent depth ++ key ++ ":\n" ++ entries

end XdpSteering.Yaml
