import XdpSteering.Yaml.Token.Property
import XdpSteering.Yaml.Token.Scalar

/-!
# The tokens of a text

Tokens are read one after the other. A scalar, a collection or an alias on one line may turn out to
be a key when a colon follows it; until then the tokens from it on are held back, and when the
colon comes the mark of the key is put in front of it. Indentation opens and closes block
collections.
-/

namespace XdpSteering.Yaml

open XdpSteering.Text

/-- A place at which a key may have begun. -/
structure KeyStart where
  /-- Whether what begins here must be a key. -/
  required : Bool
  /-- The number of the token that began here. -/
  number : Nat
  mark : Mark
  deriving Repr

/-- The longest key. -/
def maxKey : Nat := 1024

/-- Whether a key that began here would be too long or on another line. -/
def KeyStart.isStale (key : KeyStart) (mark : Mark) : Bool :=
  key.mark.line < mark.line || key.mark.index + maxKey < mark.index

/-- What a reader of tokens knows. -/
structure Lexer where
  cursor : Cursor
  tokens : List Token := []
  /-- The column of the open block collection, and of those around it. -/
  indent : Int := -1
  indents : List Int := []
  /-- Whether a key may begin here. -/
  keyAllowed : Bool := true
  /-- The key that may have begun in the collection, and in those around it. The list has one entry
  more than there are open flow collections. -/
  keys : List (Option KeyStart) := [none]
  /-- Whether the text was read to its end. -/
  done : Bool := false

namespace Lexer

def inFlow (lexer : Lexer) : Bool := 1 < lexer.keys.length

def push (lexer : Lexer) (kind : TokenKind) (start stop : Mark) : Lexer :=
  { lexer with tokens := lexer.tokens ++ [⟨kind, start, stop⟩] }

/-- Adds a token in front of the one with a number. -/
def pushAt (lexer : Lexer) (number : Nat) (kind : TokenKind) (mark : Mark) : Lexer :=
  { lexer with
    tokens := lexer.tokens.take number ++ ⟨kind, mark, mark⟩ :: lexer.tokens.drop number }

/-- Adds a token for the next `width` characters. -/
def pushSign (lexer : Lexer) (kind : TokenKind) (width : Nat) : Lexer :=
  let cursor := lexer.cursor.skip width
  { lexer.push kind lexer.cursor.mark cursor.mark with cursor }

/-! ## Keys -/

/-- The problem that a key was left without its colon. -/
def missingColon (lexer : Lexer) (key : KeyStart) : Problem :=
  ⟨"could not find expected ':'", lexer.cursor.mark, some ("while scanning a simple key", key.mark)⟩

/-- Gives up the key that may have begun in the open collection. -/
def dropKey (lexer : Lexer) : Except Problem Lexer :=
  match lexer.keys with
  | some key :: others =>
    if key.required then .error (lexer.missingColon key)
    else .ok { lexer with keys := none :: others }
  | _ => .ok lexer

/-- Notes that a key may begin here. -/
def noteKey (lexer : Lexer) : Except Problem Lexer := do
  if lexer.keyAllowed then
    let key : KeyStart := {
      -- In the column of an open block mapping only a key can begin.
      required := !lexer.inFlow && lexer.indent = lexer.cursor.mark.column
      number := lexer.tokens.length
      mark := lexer.cursor.mark }
    let lexer ← lexer.dropKey
    return { lexer with keys := some key :: lexer.keys.drop 1 }
  else return lexer

/-- Gives up the keys that cannot be keys any more, the outermost first. -/
def dropStaleKeys (lexer : Lexer) : Except Problem Lexer := do
  let check := fun (key : Option KeyStart) =>
    match key with
    | none => Except.ok none
    | some start =>
      if start.isStale lexer.cursor.mark then
        if start.required then Except.error (lexer.missingColon start) else .ok none
      else .ok (some start)
  let keys ← lexer.keys.reverse.mapM check
  return { lexer with keys := keys.reverse }

/-- The number of the first token that is held back. -/
def heldFrom (lexer : Lexer) : Nat :=
  (lexer.keys.filterMap fun key => key.map (·.number)).foldl min lexer.tokens.length

/-! ## Indentation -/

/-- Opens a block collection at a column, if it is further in than the open one. -/
def openBlock (lexer : Lexer) (column : Nat) (number : Option Nat) (kind : TokenKind)
    (mark : Mark) : Lexer :=
  if lexer.inFlow || (column : Int) ≤ lexer.indent then lexer
  else
    let lexer := { lexer with indents := lexer.indent :: lexer.indents, indent := column }
    match number with
    | none => lexer.push kind mark mark
    | some number => lexer.pushAt number kind mark

/-- Closes the block collections that are further in than a column. -/
def closeBlocksWithin (lexer : Lexer) (column : Int) : List Int → Lexer
  | [] => lexer
  | outer :: indents =>
    if column < lexer.indent then
      let mark := lexer.cursor.mark
      closeBlocksWithin { lexer.push .blockEnd mark mark with indent := outer, indents } column
        indents
    else lexer

def closeBlocks (lexer : Lexer) (column : Int) : Lexer :=
  if lexer.inFlow then lexer else lexer.closeBlocksWithin column lexer.indents

/-! ## Single tokens -/

/-- Passes over blanks, comments and line ends. -/
def toNextToken (lexer : Lexer) : Nat → Lexer
  | 0 => lexer
  | fuel + 1 =>
    let cursor := lexer.cursor
    let cursor :=
      -- A byte order mark may stand in front of any line.
      if cursor.mark.column = 0 && cursor.head = some (Char.ofNat 0xFEFF) then cursor.advance
      else cursor
    -- A tab is no indentation: where a key may begin it is not passed over.
    let tabs := lexer.inFlow || !lexer.keyAllowed
    let cursor := cursor.skipWhile fun char => char = ' ' || (tabs && char = '\t')
    let cursor := if cursor.isAt '#' then cursor.skipWhile fun char => !isBreak char else cursor
    if cursor.atBreak then
      toNextToken { lexer with
        cursor := cursor.nextLine.2
        keyAllowed := lexer.keyAllowed || !lexer.inFlow } fuel
    else { lexer with cursor }

def readEnd (lexer : Lexer) : Except Problem Lexer := do
  let mark := lexer.cursor.mark
  let mark := if mark.column = 0 then mark else { mark with line := mark.line + 1, column := 0 }
  let lexer := { lexer with cursor := { lexer.cursor with mark } }
  let lexer ← (lexer.closeBlocks (-1)).dropKey
  return { lexer.push .streamEnd mark mark with keyAllowed := false, done := true }

def readDirectiveToken (lexer : Lexer) : Except Problem Lexer := do
  let lexer ← (lexer.closeBlocks (-1)).dropKey
  let (token, cursor) ← readDirective lexer.cursor
  return { lexer with tokens := lexer.tokens ++ [token], cursor, keyAllowed := false }

/-- Reads the marker of a document's start or end. -/
def readMarker (lexer : Lexer) (kind : TokenKind) : Except Problem Lexer := do
  let lexer ← (lexer.closeBlocks (-1)).dropKey
  return { lexer with keyAllowed := false }.pushSign kind 3

def openFlow (lexer : Lexer) (kind : TokenKind) : Except Problem Lexer := do
  let lexer ← lexer.noteKey
  return { lexer with keys := none :: lexer.keys, keyAllowed := true }.pushSign kind 1

def closeFlow (lexer : Lexer) (kind : TokenKind) : Except Problem Lexer := do
  let lexer ← lexer.dropKey
  -- A closing sign too many closes nothing.
  let keys := if lexer.inFlow then lexer.keys.drop 1 else lexer.keys
  return { lexer with keys, keyAllowed := false }.pushSign kind 1

def readComma (lexer : Lexer) : Except Problem Lexer := do
  let lexer ← lexer.dropKey
  return { lexer with keyAllowed := true }.pushSign .flowEntry 1

/-- Reads a sign that opens a block collection where there is none. -/
def readBlockSign (lexer : Lexer) (opens kind : TokenKind) (problem : String) (keyAllowed : Bool) :
    Except Problem Lexer := do
  if !lexer.inFlow && !lexer.keyAllowed then
    throw ⟨problem, lexer.cursor.mark, none⟩
  let mark := lexer.cursor.mark
  let lexer ← (lexer.openBlock mark.column none opens mark).dropKey
  return { lexer with keyAllowed }.pushSign kind 1

/-- Reads the dash of a block sequence. -/
def readDash (lexer : Lexer) : Except Problem Lexer :=
  lexer.readBlockSign .blockSequenceStart .blockEntry
    "block sequence entries are not allowed in this context" true

/-- Reads the question mark of a key. -/
def readQuestion (lexer : Lexer) : Except Problem Lexer :=
  lexer.readBlockSign .blockMappingStart .key "mapping keys are not allowed in this context"
    (!lexer.inFlow)

/-- Reads the colon of a value. -/
def readColon (lexer : Lexer) : Except Problem Lexer := do
  match lexer.keys with
  | some key :: others =>
    -- What was held back turns out to be a key.
    let lexer := lexer.pushAt key.number .key key.mark
    let lexer :=
      lexer.openBlock key.mark.column (some key.number) .blockMappingStart key.mark
    return { lexer with keys := none :: others, keyAllowed := false }.pushSign .value 1
  | _ =>
    if !lexer.inFlow && !lexer.keyAllowed then
      throw ⟨"mapping values are not allowed in this context", lexer.cursor.mark, none⟩
    let mark := lexer.cursor.mark
    let opened := lexer.openBlock mark.column none .blockMappingStart mark
    return { opened with keyAllowed := !lexer.inFlow }.pushSign .value 1

def readNameToken (lexer : Lexer) (context : String) (kind : String → TokenKind) :
    Except Problem Lexer := do
  let lexer ← lexer.noteKey
  let (name, cursor) ← readName context lexer.cursor
  return { lexer.push (kind name) lexer.cursor.mark cursor.mark with cursor, keyAllowed := false }

def readTagToken (lexer : Lexer) : Except Problem Lexer := do
  let lexer ← lexer.noteKey
  let (handle, suffix, cursor) ← readTag lexer.inFlow lexer.cursor
  return { lexer.push (.tag handle suffix) lexer.cursor.mark cursor.mark with
    cursor, keyAllowed := false }

def pushScalar (lexer : Lexer) (style : Style) (scalar : ReadScalar) : Lexer :=
  { lexer.push (.scalar (String.ofList scalar.text) style) lexer.cursor.mark scalar.stop with
    cursor := scalar.cursor }

def readBlockToken (lexer : Lexer) (style : Style) : Except Problem Lexer := do
  let lexer ← lexer.dropKey
  let scalar ← readBlock (style = .literal) lexer.indent lexer.cursor
  return { lexer.pushScalar style scalar with keyAllowed := true }

def readQuotedToken (lexer : Lexer) (style : Style) : Except Problem Lexer := do
  let lexer ← lexer.noteKey
  let scalar ← readQuoted (style = .singleQuoted) lexer.cursor
  return { lexer.pushScalar style scalar with keyAllowed := false }

def readPlainToken (lexer : Lexer) : Except Problem Lexer := do
  let lexer ← lexer.noteKey
  let (scalar, broken) ← readPlain lexer.inFlow (lexer.indent + 1) lexer.cursor
  return { lexer.pushScalar .plain scalar with keyAllowed := broken }

/-- Whether a plain scalar can begin at the cursor. -/
def beginsPlain (lexer : Lexer) : Bool :=
  let cursor := lexer.cursor
  let indicators := "-?:,[]\x7b\x7d#&*!|>\"%@`".toList ++ [Char.ofNat 39]
  let isIndicator := cursor.test 0 fun char => indicators.contains char
  (!cursor.isGap 0 && !isIndicator)
    || (cursor.isAt '-' && !cursor.test 1 isSpacing)
    || (!lexer.inFlow && (cursor.isAt '?' || cursor.isAt ':') && !cursor.isGap 1)

/-- Reads the token at the cursor. -/
def readToken (lexer : Lexer) : Except Problem Lexer :=
  let cursor := lexer.cursor
  let first := cursor.head.getD ' '
  if cursor.atEnd then lexer.readEnd
  else if cursor.mark.column = 0 && first = '%' then lexer.readDirectiveToken
  else if cursor.atDocumentMarker then
    lexer.readMarker (if first = '-' then .documentStart else .documentEnd)
  else if first = '[' then lexer.openFlow .flowSequenceStart
  else if first = '\x7b' then lexer.openFlow .flowMappingStart
  else if first = ']' then lexer.closeFlow .flowSequenceEnd
  else if first = '\x7d' then lexer.closeFlow .flowMappingEnd
  else if first = ',' then lexer.readComma
  else if first = '-' && cursor.isGap 1 then lexer.readDash
  else if first = '?' && (lexer.inFlow || cursor.isGap 1) then lexer.readQuestion
  else if first = ':' && (lexer.inFlow || cursor.isGap 1) then lexer.readColon
  else if first = '*' then lexer.readNameToken "while scanning an alias" .alias
  else if first = '&' then lexer.readNameToken "while scanning an anchor" .anchor
  else if first = '!' then lexer.readTagToken
  else if first = '|' && !lexer.inFlow then lexer.readBlockToken .literal
  else if first = '>' && !lexer.inFlow then lexer.readBlockToken .folded
  else if first = quoteOf true then lexer.readQuotedToken .singleQuoted
  else if first = '"' then lexer.readQuotedToken .doubleQuoted
  else if lexer.beginsPlain then lexer.readPlainToken
  else
    .error ⟨"found character that cannot start any token", cursor.mark,
      some ("while scanning for the next token", cursor.mark)⟩

/-- Goes on to the next token and reads it. -/
def next (lexer : Lexer) : Except Problem Lexer := do
  let lexer ← (lexer.toNextToken (lexer.cursor.rest.length + 1)).dropStaleKeys
  (lexer.closeBlocks lexer.cursor.mark.column).readToken

/-- A stretch of the text that cannot be read: how many octets are in front of it, and why. -/
structure Wall where
  start : Nat
  problem : Problem

/-- Goes on to the next token and reads it, unless it reaches into the wall. -/
def nextBefore (wall : Option Wall) (lexer : Lexer) : Except Problem Lexer :=
  let result := lexer.next.bind dropStaleKeys
  let reached :=
    match result with
    | .ok lexer => lexer.cursor.mark.index
    | .error problem => problem.mark.index
  -- A stretch is searched as soon as reading comes to its start.
  match wall.filter fun wall => wall.start ≤ reached with
  | some wall => .error wall.problem
  | none => result

/-- Reads tokens to the end of the text or to a problem. The tokens that were held back when a
problem came up are lost. -/
def run (wall : Option Wall) (lexer : Lexer) : Nat → List Token × Option Problem
  | 0 => (lexer.tokens, none)
  | fuel + 1 =>
    if lexer.done then (lexer.tokens, none)
    else
      match lexer.nextBefore wall with
      | .ok lexer => run wall lexer fuel
      | .error problem => (lexer.tokens.take lexer.heldFrom, some problem)

end Lexer

/-- Whether a text may hold a character. -/
def isAllowed (char : Char) : Bool :=
  let code := char.toNat
  code = 0x9 || code = 0xA || code = 0xD || (0x20 ≤ code && code ≤ 0x7E) || code = 0x85
    || (0xA0 ≤ code && code ≤ 0xFFFD) || 0x10000 ≤ code

/-- The number of octets in front of the first character that a text may not hold. -/
def findForbidden (offset : Nat) : List Char → Option Nat
  | [] => none
  | char :: rest =>
    if isAllowed char then findForbidden (offset + char.utf8Size) rest else some offset

/-- The number of octets that are taken in at a time and searched for forbidden characters. -/
def stretchSize : Nat := 16384

/-- The stretch of a text that cannot be read because it holds a forbidden character. -/
def forbiddenWall (text : List Char) : Option Lexer.Wall :=
  (findForbidden 0 text).map fun offset => {
    start := offset / stretchSize * stretchSize
    problem := ⟨"control characters are not allowed", { index := offset }, none⟩ }

def tokens (text : String) : List Token × Option Problem :=
  let chars := text.toList
  Lexer.run (forbiddenWall chars) { cursor := { rest := chars } } (2 * chars.length + 4)

end XdpSteering.Yaml
