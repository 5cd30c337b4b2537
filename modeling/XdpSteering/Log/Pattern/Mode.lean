import XdpSteering.Text.Blank

/-!
# Modes of patterns

Options in a pattern say how what follows them is read. Sets of characters beyond ASCII are known by
their codes alone: what depends on the cases of letters, on digits, blanks or words can only be
asked for in octets, that is, in ASCII.
-/

namespace XdpSteering.Log.Pattern

open XdpSteering.Text

/-- How a part of a pattern is read. -/
structure Mode where
  /-- Letters stand for both of their cases. -/
  foldsCase : Bool := false
  /-- Values are read in octets. -/
  inOctets : Bool := false
  /-- Blanks and comments are passed over. -/
  spaced : Bool := false
  deriving DecidableEq, Repr

namespace Mode

/-! ## Options -/

def optionLetters : List Char := ['i', 'm', 's', 'U', 'u', 'x', 'R']

/-- Whether options are well formed: no letter twice, and one minus sign at most, in front of
letters. -/
def areOptions (options : List Char) : Bool :=
  options.all (fun char => char = '-' || optionLetters.contains char)
    && options.eraseDups = options && options.getLast? ≠ some '-'

/-- The mode with one option turned on or off. -/
def turn (value : Bool) (mode : Mode) (letter : Char) : Mode :=
  if letter = 'i' then { mode with foldsCase := value }
  else if letter = 'u' then { mode with inOctets := !value }
  else if letter = 'x' then { mode with spaced := value }
  else mode

/-- The mode behind options: those behind a minus sign are turned off. -/
def change (mode : Mode) (options : List Char) : Mode :=
  let on := options.takeWhile (· ≠ '-')
  (options.drop on.length).foldl (turn false) (on.foldl (turn true) mode)

/-! ## What a mode lets through -/

/-- Whether a character may stand for itself: the cases of letters are known in octets alone. -/
def allowsChar (mode : Mode) : Bool := mode.inOctets || !mode.foldsCase

def allowsMember (mode : Mode) (char : Char) : Bool :=
  mode.allowsChar && (!mode.inOctets || char.toNat < 0x80)

/-- Whether a set may be all but some characters: in octets it would hold parts of characters. -/
def allowsExclusion (mode : Mode) : Bool := !mode.inOctets

/-! ## Blanks -/

/-- The text behind blanks and comments. A comment goes from a number sign to the end of its
line. -/
def skipBlanks (isComment : Bool) : List Char → List Char
  | [] => []
  | char :: rest =>
    if isComment then skipBlanks (char ≠ '\n') rest
    else if char = '#' then skipBlanks true rest
    else if isBlank char then skipBlanks false rest
    else char :: rest

/-- The text behind what is passed over. -/
def skip (mode : Mode) (text : List Char) : List Char :=
  if mode.spaced then skipBlanks false text else text

/-- The character that decides what a dash in front of the text means. Of a comment, no more than
its number sign is passed over. -/
def peek? (mode : Mode) (text : List Char) : Option Char :=
  if mode.spaced then
    let text := text.dropWhile isBlank
    (if text.head? = some '#' then (text.drop 1).dropWhile isBlank else text).head?
  else text.head?

end Mode

end XdpSteering.Log.Pattern
