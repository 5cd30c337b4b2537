import XdpSteering.Text.Numeral
import XdpSteering.Yaml.Token

/-!
# Scalars in YAML text

A scalar is written plainly, between quotes, or as a block of indented lines. Line ends inside are
folded: a single one becomes a blank, and of several the first is dropped.
-/

namespace XdpSteering.Yaml

open XdpSteering.Text

/-- A scalar that was read: its characters, the place behind it, and where reading goes on. -/
structure ReadScalar where
  text : List Char
  stop : Mark
  cursor : Cursor

/-- The line ends between two parts of a scalar. -/
structure Gap where
  /-- Blanks that are kept if no line ends. -/
  blanks : List Char := []
  broken : Bool := false
  first : List Char := []
  /-- The line ends after it. -/
  others : List Char := []

/-- What the gap stands for in the scalar. -/
def Gap.fold (gap : Gap) : List Char :=
  if gap.broken then
    if gap.first = ['\n'] then (if gap.others.isEmpty then [' '] else gap.others)
    else gap.first ++ gap.others
  else gap.blanks

/-- The gap with the line end at the cursor, and the place behind it. -/
def Gap.addBreak (gap : Gap) (cursor : Cursor) : Gap × Cursor :=
  let (lineEnd, cursor) := cursor.nextLine
  if gap.broken then ({ gap with others := gap.others ++ lineEnd }, cursor)
  else ({ gap with blanks := [], broken := true, first := lineEnd }, cursor)

def Gap.addBlank (gap : Gap) (cursor : Cursor) : Gap :=
  if gap.broken then gap else { gap with blanks := gap.blanks ++ cursor.head.toList }

/-! ## Plain scalars -/

/-- What is being read. -/
def whilePlain (start : Mark) : Option (String × Mark) :=
  some ("while scanning a plain scalar", start)

/-- Reads the blanks and line ends behind a part of a plain scalar. -/
def plainGap (start : Mark) (indent : Int) (gap : Gap) (cursor : Cursor) :
    Nat → Except Problem (Gap × Cursor)
  | 0 => .ok (gap, cursor)
  | fuel + 1 =>
    if cursor.atSpacing then
      if gap.broken && (cursor.mark.column : Int) < indent && cursor.isAt '\t' then
        .error ⟨"found a tab character that violates indentation", cursor.mark, whilePlain start⟩
      else plainGap start indent (gap.addBlank cursor) cursor.advance fuel
    else if cursor.atBreak then
      let (gap, cursor) := gap.addBreak cursor
      plainGap start indent gap cursor fuel
    else .ok (gap, cursor)

/-- Whether a plain scalar ends in front of the cursor. -/
def endsPlain (inFlow : Bool) (cursor : Cursor) : Bool :=
  cursor.isGap 0 || (cursor.isAt ':' && cursor.isGap 1)
    || (inFlow && cursor.test 0 fun char => ",[]\x7b\x7d".toList.contains char)

/-- Whether a colon stands at a place where a flow collection cannot have it. -/
def strayColon (inFlow : Bool) (cursor : Cursor) : Bool :=
  inFlow && cursor.isAt ':' && cursor.test 1 fun char => ",?[]\x7b\x7d".toList.contains char

/-- Reads the characters of a plain scalar up to a gap or its end, the last one first. -/
def plainPart (start : Mark) (inFlow : Bool) (text : List Char) (cursor : Cursor) :
    Nat → Except Problem (List Char × Cursor)
  | 0 => .ok (text, cursor)
  | fuel + 1 =>
    if !cursor.isGap 0 && strayColon inFlow cursor then
      .error ⟨"found unexpected ':'", cursor.mark, whilePlain start⟩
    else if endsPlain inFlow cursor then .ok (text, cursor)
    else plainPart start inFlow (cursor.head.toList ++ text) cursor.advance fuel

/-- Reads a plain scalar on from a gap. The characters so far are in reverse; `stop` is the place
behind them. Tells also whether the scalar was followed by a line end. -/
def plainFrom (start : Mark) (inFlow : Bool) (indent : Int) (text : List Char) (stop : Mark)
    (gap : Gap) (cursor : Cursor) : Nat → Except Problem (ReadScalar × Bool)
  | 0 => .ok (⟨text.reverse, stop, cursor⟩, gap.broken)
  | fuel + 1 => do
    let done := (⟨text.reverse, stop, cursor⟩, gap.broken)
    if cursor.atDocumentMarker || cursor.isAt '#' then return done
    let (part, next) ← plainPart start inFlow [] cursor cursor.rest.length
    let (text, stop, gap) :=
      if part.isEmpty then (text, stop, gap)
      else (part ++ gap.fold.reverse ++ text, next.mark, {})
    if !(next.atSpacing || next.atBreak) then
      return (⟨text.reverse, stop, next⟩, gap.broken)
    let (gap, cursor) ← plainGap start indent gap next next.rest.length
    if !inFlow && (cursor.mark.column : Int) < indent then
      return (⟨text.reverse, stop, cursor⟩, gap.broken)
    plainFrom start inFlow indent text stop gap cursor fuel

/-- Reads a plain scalar in a collection whose entries are indented by `indent`. -/
def readPlain (inFlow : Bool) (indent : Int) (cursor : Cursor) :
    Except Problem (ReadScalar × Bool) :=
  plainFrom cursor.mark inFlow indent [] cursor.mark {} cursor (cursor.rest.length + 1)

/-! ## Quoted scalars -/

/-- The character that a letter after a backslash stands for. -/
def escape? (letter : Char) : Option Nat :=
  match letter with
  | '0' => some 0
  | 'a' => some 7
  | 'b' => some 8
  | 't' | '\t' => some 9
  | 'n' => some 10
  | 'v' => some 11
  | 'f' => some 12
  | 'r' => some 13
  | 'e' => some 27
  | ' ' => some 32
  | '"' => some 34
  | '/' => some 47
  | '\\' => some 92
  | 'N' => some 0x85
  | '_' => some 0xA0
  | 'L' => some 0x2028
  | 'P' => some 0x2029
  | _ => none

/-- The number of hexadecimal digits after the letter of an escape. -/
def escapeDigits? (letter : Char) : Option Nat :=
  match letter with
  | 'x' => some 2
  | 'u' => some 4
  | 'U' => some 8
  | _ => none

/-- Reads an escape, whose backslash is at the cursor. -/
def readEscape (start : Mark) (cursor : Cursor) : Except Problem (Char × Cursor) :=
  let fail := fun (problem : String) (mark : Mark) =>
    Except.error (Problem.mk problem mark (some ("while parsing a quoted scalar", start)))
  let letter := (cursor.peek 1).getD ' '
  match if (cursor.peek 1).isNone then none else escape? letter with
  | some code => .ok (Char.ofNat code, cursor.skip 2)
  | none =>
    match if (cursor.peek 1).isNone then none else escapeDigits? letter with
    | none => fail "found unknown escape character" cursor.mark
    | some count =>
      let cursor := cursor.skip 2
      let digits := cursor.rest.take count
      match digits.mapM (digit? 16) with
      | none => fail "did not find expected hexadecimal number" cursor.mark
      | some values =>
        let code := values.foldl (fun code value => code * 16 + value) 0
        if digits.length < count then fail "did not find expected hexadecimal number" cursor.mark
        else if (0xD800 ≤ code && code ≤ 0xDFFF) || 0x10FFFF < code then
          fail "found invalid Unicode character escape code" cursor.mark
        else .ok (Char.ofNat code, cursor.skip count)

/-- The quote around a scalar. -/
def quoteOf (single : Bool) : Char := if single then Char.ofNat 39 else '"'

/-- Reads the characters of a quoted scalar up to a gap or the quote, the last one first. Tells also
whether the part ended with an escaped line end. -/
def quotedPart (start : Mark) (single : Bool) (text : List Char) (cursor : Cursor) :
    Nat → Except Problem (List Char × Cursor × Bool)
  | 0 => .ok (text, cursor, false)
  | fuel + 1 =>
    let quote := quoteOf single
    if cursor.isGap 0 then .ok (text, cursor, false)
    else if single && cursor.isAt quote && cursor.peek 1 = some quote then
      quotedPart start single (quote :: text) (cursor.skip 2) fuel
    else if cursor.isAt quote then .ok (text, cursor, false)
    else if !single && cursor.isAt '\\' && cursor.test 1 isBreak then
      .ok (text, cursor.advance.nextLine.2, true)
    else if !single && cursor.isAt '\\' then do
      let (char, cursor) ← readEscape start cursor
      quotedPart start single (char :: text) cursor fuel
    else quotedPart start single (cursor.head.toList ++ text) cursor.advance fuel

/-- Reads the blanks and line ends behind a part of a quoted scalar. -/
def quotedGap (gap : Gap) (cursor : Cursor) : Nat → Gap × Cursor
  | 0 => (gap, cursor)
  | fuel + 1 =>
    if cursor.atSpacing then quotedGap (gap.addBlank cursor) cursor.advance fuel
    else if cursor.atBreak then
      let (gap, cursor) := gap.addBreak cursor
      quotedGap gap cursor fuel
    else (gap, cursor)

/-- Reads a quoted scalar on from a place behind its opening quote. -/
def quotedFrom (start : Mark) (single : Bool) (text : List Char) (cursor : Cursor) :
    Nat → Except Problem ReadScalar
  | 0 => .ok ⟨text.reverse, cursor.mark, cursor⟩
  | fuel + 1 => do
    let context := some ("while scanning a quoted scalar", start)
    if cursor.atDocumentMarker then
      throw ⟨"found unexpected document indicator", cursor.mark, context⟩
    if cursor.atEnd then throw ⟨"found unexpected end of stream", cursor.mark, context⟩
    let (text, cursor, escaped) ← quotedPart start single text cursor cursor.rest.length
    if cursor.isAt (quoteOf single) then
      let cursor := cursor.advance
      return ⟨text.reverse, cursor.mark, cursor⟩
    let (gap, cursor) := quotedGap { broken := escaped } cursor cursor.rest.length
    quotedFrom start single (gap.fold.reverse ++ text) cursor fuel

def readQuoted (single : Bool) (cursor : Cursor) : Except Problem ReadScalar :=
  quotedFrom cursor.mark single [] cursor.advance (cursor.rest.length + 1)

/-! ## Block scalars -/

/-- What becomes of the line ends at the end of a block. -/
inductive Chomping where
  | strip
  | clip
  | keep
  deriving DecidableEq

def whileBlock (start : Mark) : Option (String × Mark) :=
  some ("while scanning a block scalar", start)

/-- Reads the sign that says what becomes of the last line ends. -/
def readChomping (cursor : Cursor) : Option (Chomping × Cursor) :=
  if cursor.isAt '+' then some (.keep, cursor.advance)
  else if cursor.isAt '-' then some (.strip, cursor.advance)
  else none

/-- Reads the digit that says how far a block is indented. -/
def readIncrement (start : Mark) (cursor : Cursor) : Except Problem (Option Nat × Cursor) :=
  if cursor.isAt '0' then
    .error ⟨"found an indentation indicator equal to 0", cursor.mark, whileBlock start⟩
  else
    match cursor.head.filter Char.isDigit with
    | some digit => .ok (some (digit.toNat - 48), cursor.advance)
    | none => .ok (none, cursor)

/-- Reads the signs behind the one that opens a block. -/
def readBlockHeader (start : Mark) (cursor : Cursor) :
    Except Problem (Chomping × Option Nat × Cursor) :=
  match readChomping cursor with
  | some (chomping, cursor) => do
    let (increment, cursor) ← readIncrement start cursor
    return (chomping, increment, cursor)
  | none => do
    let (increment, cursor) ← readIncrement start cursor
    match increment with
    | none => return (.clip, none, cursor)
    | some _ =>
      match readChomping cursor with
      | some (chomping, cursor) => return (chomping, increment, cursor)
      | none => return (.clip, increment, cursor)

/-- The empty lines in a block: their line ends, the place behind the last of them, and the widest
indentation seen. -/
structure BlockBreaks where
  breaks : List Char
  stop : Mark
  widest : Nat
  cursor : Cursor

/-- Passes over indentation of at most `indent` blanks, or of any number. -/
def skipIndent (indent : Option Nat) (cursor : Cursor) : Nat → Cursor
  | 0 => cursor
  | fuel + 1 =>
    if cursor.isAt ' ' && indent.all (cursor.mark.column < ·) then
      skipIndent indent cursor.advance fuel
    else cursor

/-- Reads empty lines and the indentation of the line after them. -/
def blockBreaks (start : Mark) (indent : Option Nat) (breaks : List Char) (stop : Mark)
    (widest : Nat) (cursor : Cursor) : Nat → Except Problem BlockBreaks
  | 0 => .ok ⟨breaks, stop, widest, cursor⟩
  | fuel + 1 =>
    let cursor := skipIndent indent cursor cursor.rest.length
    let widest := max widest cursor.mark.column
    if cursor.isAt '\t' && indent.all (cursor.mark.column < ·) then
      .error ⟨"found a tab character where an indentation space is expected", cursor.mark,
        whileBlock start⟩
    else if cursor.atBreak then
      let (lineEnd, cursor) := cursor.nextLine
      blockBreaks start indent (breaks ++ lineEnd) cursor.mark widest cursor fuel
    else .ok ⟨breaks, stop, widest, cursor⟩

/-- The lines of a block that were read so far. -/
structure BlockLines where
  /-- The characters, the last one first. -/
  text : List Char
  /-- The line end behind the last line. -/
  leading : List Char
  /-- The empty lines behind it. -/
  trailing : List Char
  /-- Whether the last line began with a blank. -/
  blankLine : Bool
  stop : Mark
  cursor : Cursor

/-- Reads the lines of a block that are indented by `indent`. -/
def blockLines (start : Mark) (isLiteral : Bool) (indent : Nat) (lines : BlockLines) :
    Nat → Except Problem BlockLines
  | 0 => .ok lines
  | fuel + 1 => do
    let cursor := lines.cursor
    if cursor.mark.column ≠ indent || cursor.atEnd then return lines
    let blank := cursor.atSpacing
    let joined :=
      -- Lines are only folded if neither of the two begins with a blank.
      if !isLiteral && lines.leading.head? = some '\n' && !lines.blankLine && !blank then
        (if lines.trailing.isEmpty then [' '] else []) ++ lines.trailing
      else lines.leading ++ lines.trailing
    let (line, next) := cursor.spanLine fun char => !isBreak char
    let (lineEnd, next) := next.nextLine
    let breaks ← blockBreaks start (some indent) [] next.mark 0 next (next.rest.length + 1)
    blockLines start isLiteral indent {
      text := line.reverse ++ joined.reverse ++ lines.text
      leading := lineEnd
      trailing := breaks.breaks
      blankLine := blank
      stop := breaks.stop
      cursor := breaks.cursor } fuel

/-- Reads a block inside a collection indented by `parent`. -/
def readBlock (isLiteral : Bool) (parent : Int) (cursor : Cursor) : Except Problem ReadScalar := do
  let start := cursor.mark
  let (chomping, increment, cursor) ← readBlockHeader start cursor.advance
  let cursor := cursor.skipWhile isSpacing
  let cursor := if cursor.isAt '#' then cursor.skipWhile fun char => !isBreak char else cursor
  if !cursor.atLineEnd then
    throw ⟨"did not find expected comment or line break", cursor.mark, whileBlock start⟩
  let cursor := cursor.nextLine.2
  let given := increment.map fun increment => (max parent 0).toNat + increment
  let breaks ← blockBreaks start given [] cursor.mark 0 cursor (cursor.rest.length + 1)
  -- Without a digit the first lines say how far the block is indented.
  let indent := given.getD (max breaks.widest (max (parent + 1) 1).toNat)
  let lines ← blockLines start isLiteral indent
    ⟨[], [], breaks.breaks, false, breaks.stop, breaks.cursor⟩ (cursor.rest.length + 1)
  let ending :=
    match chomping with
    | .strip => []
    | .clip => lines.leading
    | .keep => lines.leading ++ lines.trailing
  return ⟨lines.text.reverse ++ ending, lines.stop, lines.cursor⟩

end XdpSteering.Yaml
