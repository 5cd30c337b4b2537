import XdpSteering.Yaml.Token.Stream

/-!
# The structure of YAML text

The documents, collections and scalars of a text as a run of events. Places where a node may stand
but none is written yield empty scalars.
-/

namespace XdpSteering.Yaml

open XdpSteering.Text

/-- The anchor and the tag in front of a node. -/
structure Properties where
  anchor : Option String := none
  tag : Option Octets := none
  deriving DecidableEq, Repr

/-- What happens in a text. -/
inductive EventKind where
  | documentStart
  | documentEnd
  | streamEnd
  | alias (name : String)
  | scalar (properties : Properties) (text : String) (style : Style)
  | sequenceStart (properties : Properties)
  | sequenceEnd
  | mappingStart (properties : Properties)
  | mappingEnd
  deriving DecidableEq, Repr

structure Event where
  kind : EventKind
  mark : Mark
  deriving DecidableEq, Repr

/-- What is expected next. -/
inductive Expected where
  /-- A document, which may begin without a marker if it is the first one. -/
  | document (first : Bool)
  | documentContent
  | documentEnd
  | blockNode
  | blockSequence (first : Bool)
  | indentlessSequence
  | blockMappingKey (first : Bool)
  | blockMappingValue
  | flowSequence (first : Bool)
  | flowPairKey
  | flowPairValue
  | flowPairEnd
  | flowMapping (first : Bool)
  | flowMappingValue
  | flowMappingEmptyValue
  | nothing
  deriving DecidableEq, Repr

/-- What a reader of events knows. -/
structure Parser where
  tokens : List Token
  /-- The problem behind the last token. -/
  failure : Option Problem
  expected : Expected := .document true
  /-- What is expected when the open node is complete, the innermost first. -/
  pending : List Expected := []
  /-- Where the open collections began, the innermost first. -/
  starts : List Mark := []
  /-- The expansions of the handles of tags. -/
  handles : List (String × Octets) := []

namespace Parser

def endOfText : Problem := ⟨"unexpected end of stream", {}, none⟩

def peek (parser : Parser) : Except Problem Token :=
  match parser.tokens with
  | token :: _ => .ok token
  | [] => .error (parser.failure.getD endOfText)

/-- The parser behind the next token. -/
def skip (parser : Parser) : Parser := { parser with tokens := parser.tokens.tail }

/-- The parser when the open node is complete. -/
def resume (parser : Parser) : Parser :=
  { parser with expected := parser.pending.headD .nothing, pending := parser.pending.tail }

/-- The parser when a collection is complete. -/
def close (parser : Parser) : Parser := { parser.resume with starts := parser.starts.tail }

/-- The parser when a node is to be read, and `after` is expected behind it. -/
def await (parser : Parser) (after : Expected) : Parser :=
  { parser with pending := after :: parser.pending }

/-- The event of a node that is not written. -/
def missingNode (mark : Mark) : Event := ⟨.scalar {} "" .plain, mark⟩

/-- The event of a missing node, with what is expected behind it. -/
def missing (parser : Parser) (after : Expected) (mark : Mark) : Event × Parser :=
  (missingNode mark, { parser with expected := after })

/-- The problem of a collection that is not continued or closed. -/
def broken (parser : Parser) (context problem : String) (mark : Mark) : Problem :=
  ⟨problem, mark, some (context, parser.starts.headD {})⟩

/-! ## Nodes -/

/-- Reads the anchor and the tag in front of a node: the parser behind them, the anchor, and the
handle and the rest of the tag with its place. -/
def readProperties (parser : Parser) :
    Except Problem (Parser × Option String × Option (String × Octets × Mark)) := do
  let first ← parser.peek
  match first.kind with
  | .anchor name =>
    let parser := parser.skip
    let second ← parser.peek
    match second.kind with
    | .tag handle suffix => return (parser.skip, some name, some (handle, suffix, second.start))
    | _ => return (parser, some name, none)
  | .tag handle suffix =>
    let parser := parser.skip
    let second ← parser.peek
    match second.kind with
    | .anchor name => return (parser.skip, some name, some (handle, suffix, first.start))
    | _ => return (parser, none, some (handle, suffix, first.start))
  | _ => return (parser, none, none)

/-- The tag with its handle expanded. -/
def resolveTag (parser : Parser) (start : Mark) :
    Option (String × Octets × Mark) → Except Problem (Option Octets)
  | none => .ok none
  | some (handle, suffix, mark) =>
    if handle.isEmpty then .ok (some suffix)
    else
      match parser.handles.find? fun known => known.1 = handle with
      | some (_, expansion) => .ok (some (expansion ++ suffix))
      | none =>
        .error ⟨"found undefined tag handle", mark, some ("while parsing a node", start)⟩

/-- Reads a node, in a block or in a flow collection. -/
def readNode (parser : Parser) (block indentless : Bool) : Except Problem (Event × Parser) := do
  let first ← parser.peek
  if let .alias name := first.kind then
    return (⟨.alias name, first.start⟩, parser.skip.resume)
  let start := first.start
  let (parser, anchor, written) ← parser.readProperties
  let token ← parser.peek
  let tag ← parser.resolveTag start written
  let properties : Properties := { anchor, tag }
  match token.kind with
  | .scalar text style => return (⟨.scalar properties text style, start⟩, parser.skip.resume)
  | .flowSequenceStart =>
    return (⟨.sequenceStart properties, start⟩, { parser with expected := .flowSequence true })
  | .flowMappingStart =>
    return (⟨.mappingStart properties, start⟩, { parser with expected := .flowMapping true })
  | kind =>
    if indentless && kind = .blockEntry then
      return (⟨.sequenceStart properties, start⟩, { parser with expected := .indentlessSequence })
    else if block && kind = .blockSequenceStart then
      return (⟨.sequenceStart properties, start⟩, { parser with expected := .blockSequence true })
    else if block && kind = .blockMappingStart then
      return (⟨.mappingStart properties, start⟩, { parser with expected := .blockMappingKey true })
    -- An anchor or a tag with nothing behind it stands in front of an empty scalar.
    else if anchor.isSome || tag.isSome then
      return (⟨.scalar properties "" .plain, start⟩, parser.resume)
    else
      let what := if block then "while parsing a block node" else "while parsing a flow node"
      throw ⟨"did not find expected node content", token.start, some (what, start)⟩

/-! ## Documents -/

def commonHandles : List (String × Octets) :=
  [("!", bareTag), ("!!", Utf8.encode "tag:yaml.org,2002:")]

/-- Reads the directives in front of a document. -/
def readDirectives (parser : Parser) (version : Bool) (handles : List (String × Octets)) :
    Nat → Except Problem Parser
  | 0 => .ok parser
  | fuel + 1 => do
    let token ← parser.peek
    match token.kind with
    | .versionDirective major minor =>
      if version then throw ⟨"found duplicate %YAML directive", token.start, none⟩
      if major ≠ 1 || (minor ≠ 1 && minor ≠ 2) then
        throw ⟨"found incompatible YAML document", token.start, none⟩
      readDirectives parser.skip true handles fuel
    | .tagDirective handle expansion =>
      if handles.any fun known => known.1 = handle then
        throw ⟨"found duplicate %TAG directive", token.start, none⟩
      readDirectives parser.skip version (handles ++ [(handle, expansion)]) fuel
    | _ =>
      return { parser with
        handles := handles ++ commonHandles.filter fun known =>
          !handles.any fun other => other.1 = known.1 }

def skipDocumentEnds (parser : Parser) : Nat → Except Problem Parser
  | 0 => .ok parser
  | fuel + 1 => do
    let token ← parser.peek
    if token.kind = .documentEnd then skipDocumentEnds parser.skip fuel else return parser

/-- Whether a token opens a document by its marker or by a directive, or ends the text. -/
def isOutside : TokenKind → Bool
  | .versionDirective .. | .tagDirective .. | .documentStart | .streamEnd => true
  | _ => false

/-- Reads the start of a document or the end of the text. -/
def readDocumentStart (parser : Parser) (first : Bool) : Except Problem (Event × Parser) := do
  let parser ← if first then pure parser else parser.skipDocumentEnds parser.tokens.length
  let token ← parser.peek
  if first && !isOutside token.kind then
    let parser ← parser.readDirectives false [] (parser.tokens.length + 1)
    return (⟨.documentStart, token.start⟩,
      { parser.await .documentEnd with expected := .blockNode })
  else if token.kind = .streamEnd then
    return (⟨.streamEnd, token.start⟩, { parser.skip with expected := .nothing })
  else
    let parser ← parser.readDirectives false [] (parser.tokens.length + 1)
    let marker ← parser.peek
    if marker.kind ≠ .documentStart then
      throw ⟨"did not find expected <document start>", marker.start, none⟩
    return (⟨.documentStart, token.start⟩,
      { parser.skip.await .documentEnd with expected := .documentContent })

/-- Reads the content of a document behind its marker. -/
def readDocumentContent (parser : Parser) : Except Problem (Event × Parser) := do
  let token ← parser.peek
  if isOutside token.kind || token.kind = .documentEnd then
    return (missingNode token.start, parser.resume)
  else parser.readNode true false

def readDocumentEnd (parser : Parser) : Except Problem (Event × Parser) := do
  let token ← parser.peek
  let parser := if token.kind = .documentEnd then parser.skip else parser
  return (⟨.documentEnd, token.start⟩, { parser with expected := .document false, handles := [] })

/-! ## Block collections -/

/-- The parser inside a collection whose opening token comes next. -/
def enter (parser : Parser) (first : Bool) : Except Problem Parser :=
  if first then do
    let token ← parser.peek
    return { parser.skip with starts := token.start :: parser.starts }
  else return parser

/-- Reads the node behind a sign, unless one of the tokens in `ends` comes next; then the node is
missing. -/
def nodeOrMissing (parser : Parser) (ends : List TokenKind) (mark : Mark) (after : Expected)
    (block indentless : Bool) : Except Problem (Event × Parser) := do
  let token ← parser.peek
  if ends.contains token.kind then return parser.missing after mark
  else (parser.await after).readNode block indentless

def readBlockSequence (parser : Parser) (first : Bool) : Except Problem (Event × Parser) := do
  let parser ← parser.enter first
  let token ← parser.peek
  match token.kind with
  | .blockEntry =>
    parser.skip.nodeOrMissing [.blockEntry, .blockEnd] token.stop (.blockSequence false) true false
  | .blockEnd => return (⟨.sequenceEnd, token.start⟩, parser.skip.close)
  | _ =>
    throw (parser.broken "while parsing a block collection" "did not find expected '-' indicator"
      token.start)

def readIndentlessSequence (parser : Parser) : Except Problem (Event × Parser) := do
  let token ← parser.peek
  match token.kind with
  | .blockEntry =>
    parser.skip.nodeOrMissing [.blockEntry, .key, .value, .blockEnd] token.stop .indentlessSequence
      true false
  | _ => return (⟨.sequenceEnd, token.start⟩, parser.resume)

def readBlockMappingKey (parser : Parser) (first : Bool) : Except Problem (Event × Parser) := do
  let parser ← parser.enter first
  let token ← parser.peek
  match token.kind with
  | .key =>
    parser.skip.nodeOrMissing [.key, .value, .blockEnd] token.stop .blockMappingValue true true
  | .blockEnd => return (⟨.mappingEnd, token.start⟩, parser.skip.close)
  | _ =>
    throw (parser.broken "while parsing a block mapping" "did not find expected key" token.start)

def readBlockMappingValue (parser : Parser) : Except Problem (Event × Parser) := do
  let token ← parser.peek
  match token.kind with
  | .value =>
    let next := .blockMappingKey false
    parser.skip.nodeOrMissing [.key, .value, .blockEnd] token.stop next true true
  | _ => return parser.missing (.blockMappingKey false) token.start

/-! ## Flow collections -/

/-- Reads the comma between two entries of a flow collection. -/
def readSeparator (parser : Parser) (first : Bool) (context problem : String) :
    Except Problem Parser := do
  if first then return parser
  let token ← parser.peek
  if token.kind = .flowEntry then return parser.skip
  else throw (parser.broken context problem token.start)

def readFlowSequence (parser : Parser) (first : Bool) : Except Problem (Event × Parser) := do
  let parser ← parser.enter first
  let token ← parser.peek
  if token.kind = .flowSequenceEnd then
    return (⟨.sequenceEnd, token.start⟩, parser.skip.close)
  let parser ← parser.readSeparator first "while parsing a flow sequence"
    "did not find expected ',' or ']'"
  let token ← parser.peek
  if token.kind = .key then
    return (⟨.mappingStart {}, token.start⟩, { parser.skip with expected := .flowPairKey })
  else if token.kind = .flowSequenceEnd then
    return (⟨.sequenceEnd, token.start⟩, parser.skip.close)
  else (parser.await (.flowSequence false)).readNode false false

/-- Reads the key of a single pair in a flow sequence. -/
def readFlowPairKey (parser : Parser) : Except Problem (Event × Parser) := do
  let token ← parser.peek
  if [TokenKind.value, .flowEntry, .flowSequenceEnd].contains token.kind then
    -- The sign behind the missing key is passed over with it.
    return parser.skip.missing .flowPairValue token.stop
  else (parser.await .flowPairValue).readNode false false

def readFlowPairValue (parser : Parser) : Except Problem (Event × Parser) := do
  let token ← parser.peek
  if token.kind = .value then
    let parser := parser.skip
    let token ← parser.peek
    parser.nodeOrMissing [.flowEntry, .flowSequenceEnd] token.start .flowPairEnd false false
  else return parser.missing .flowPairEnd token.start

def readFlowPairEnd (parser : Parser) : Except Problem (Event × Parser) := do
  let token ← parser.peek
  return (⟨.mappingEnd, token.start⟩, { parser with expected := .flowSequence false })

def readFlowMapping (parser : Parser) (first : Bool) : Except Problem (Event × Parser) := do
  let parser ← parser.enter first
  let token ← parser.peek
  if token.kind = .flowMappingEnd then
    return (⟨.mappingEnd, token.start⟩, parser.skip.close)
  let parser ← parser.readSeparator first "while parsing a flow mapping"
    "did not find expected ',' or '\x7d'"
  let token ← parser.peek
  if token.kind = .key then
    let parser := parser.skip
    let token ← parser.peek
    parser.nodeOrMissing [.value, .flowEntry, .flowMappingEnd] token.start .flowMappingValue false
      false
  else if token.kind = .flowMappingEnd then
    return (⟨.mappingEnd, token.start⟩, parser.skip.close)
  else (parser.await .flowMappingEmptyValue).readNode false false

def readFlowMappingValue (parser : Parser) : Except Problem (Event × Parser) := do
  let token ← parser.peek
  if token.kind = .value then
    let parser := parser.skip
    let token ← parser.peek
    parser.nodeOrMissing [.flowEntry, .flowMappingEnd] token.start (.flowMapping false) false false
  else return parser.missing (.flowMapping false) token.start

/-! ## The run of events -/

def next (parser : Parser) : Except Problem (Event × Parser) :=
  match parser.expected with
  | .document first => parser.readDocumentStart first
  | .documentContent => parser.readDocumentContent
  | .documentEnd => parser.readDocumentEnd
  | .blockNode => parser.readNode true false
  | .blockSequence first => parser.readBlockSequence first
  | .indentlessSequence => parser.readIndentlessSequence
  | .blockMappingKey first => parser.readBlockMappingKey first
  | .blockMappingValue => parser.readBlockMappingValue
  | .flowSequence first => parser.readFlowSequence first
  | .flowPairKey => parser.readFlowPairKey
  | .flowPairValue => parser.readFlowPairValue
  | .flowPairEnd => parser.readFlowPairEnd
  | .flowMapping first => parser.readFlowMapping first
  | .flowMappingValue => parser.readFlowMappingValue
  | .flowMappingEmptyValue => do
    return parser.missing (.flowMapping false) (← parser.peek).start
  | .nothing => .error endOfText

/-- Reads events up to the end of the text or to a problem. -/
def run (parser : Parser) : Nat → List Event × Option Problem
  | 0 => ([], none)
  | fuel + 1 =>
    if parser.expected = .nothing then ([], none)
    else
      match parser.next with
      | .error problem => ([], some problem)
      | .ok (event, parser) =>
        let (events, problem) := run parser fuel
        (event :: events, problem)

end Parser

def events (text : String) : List Event × Option Problem :=
  let (tokens, failure) := tokens text
  Parser.run { tokens, failure } (4 * tokens.length + 8)

end XdpSteering.Yaml
