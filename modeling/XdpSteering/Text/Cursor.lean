/-!
# Reading positions

A cursor is the rest of a text and the place where that rest begins. Line ends are the line feed,
the carriage return, the pair of both, and the three line ends beyond ASCII.
-/

namespace XdpSteering.Text

/-- A place in a text, all counts from zero. -/
structure Mark where
  /-- The number of octets in front of it. -/
  index : Nat := 0
  line : Nat := 0
  column : Nat := 0
  deriving DecidableEq, Repr

def Mark.isStart (mark : Mark) : Bool := mark.line = 0 && mark.column = 0

/-- The place in words, lines and columns counted from one. -/
def Mark.text (mark : Mark) : String :=
  if mark.isStart then "position " ++ toString mark.index
  else "line " ++ toString (mark.line + 1) ++ " column " ++ toString (mark.column + 1)

structure Cursor where
  rest : List Char
  mark : Mark := {}
  deriving Repr

/-- Whether a line ends with this character. -/
def isBreak (char : Char) : Bool :=
  char = '\n' || char = '\r' || char.toNat = 0x85 || char.toNat = 0x2028 || char.toNat = 0x2029

/-- A blank or a tab. -/
def isSpacing (char : Char) : Bool := char = ' ' || char = '\t'

namespace Cursor

/-- The character that comes after `offset` others. -/
def peek (cursor : Cursor) (offset : Nat) : Option Char := cursor.rest[offset]?

def head (cursor : Cursor) : Option Char := cursor.rest.head?

def atEnd (cursor : Cursor) : Bool := cursor.rest.isEmpty

def isAt (cursor : Cursor) (char : Char) : Bool := cursor.head = some char

/-- Whether the character after `offset` others has a property. -/
def test (cursor : Cursor) (offset : Nat) (property : Char → Bool) : Bool :=
  (cursor.peek offset).any property

def atBreak (cursor : Cursor) : Bool := cursor.test 0 isBreak

def atSpacing (cursor : Cursor) : Bool := cursor.test 0 isSpacing

def atLineEnd (cursor : Cursor) : Bool := cursor.atEnd || cursor.atBreak

/-- Whether a blank, a tab or an end comes after `offset` characters. -/
def isGap (cursor : Cursor) (offset : Nat) : Bool :=
  (cursor.peek offset).all fun char => isSpacing char || isBreak char

/-- Goes on by one character of a line. -/
def advance (cursor : Cursor) : Cursor where
  rest := cursor.rest.tail
  mark := { cursor.mark with
    index := cursor.mark.index + (cursor.head.map Char.utf8Size).getD 1
    column := cursor.mark.column + 1 }

def skip (cursor : Cursor) : Nat → Cursor
  | 0 => cursor
  | count + 1 => cursor.advance.skip count

/-- Goes on to the next line, if a line ends here; what the line end stands for comes with it. -/
def nextLine (cursor : Cursor) : List Char × Cursor :=
  match cursor.rest with
  | '\r' :: '\n' :: rest =>
    (['\n'], { rest, mark := ⟨cursor.mark.index + 2, cursor.mark.line + 1, 0⟩ })
  | char :: rest =>
    if isBreak char then
      let kept := if char.toNat = 0x2028 || char.toNat = 0x2029 then char else '\n'
      ([kept], { rest, mark := ⟨cursor.mark.index + char.utf8Size, cursor.mark.line + 1, 0⟩ })
    else ([], cursor)
  | [] => ([], cursor)

/-- The characters of the line up to the first one without a property, and the place behind them. -/
def spanLine (cursor : Cursor) (property : Char → Bool) : List Char × Cursor :=
  let taken := cursor.rest.takeWhile property
  (taken, cursor.skip taken.length)

/-- The place behind the characters with a property. -/
def skipWhile (cursor : Cursor) (property : Char → Bool) : Cursor :=
  (cursor.spanLine property).2

/-- Whether the line begins here with the three characters of a document marker. -/
def atDocumentMarker (cursor : Cursor) : Bool :=
  cursor.mark.column = 0 && cursor.isGap 3
    && (cursor.rest.take 3 = ['-', '-', '-'] || cursor.rest.take 3 = ['.', '.', '.'])

end Cursor

end XdpSteering.Text
