import XdpSteering.Binary64
import XdpSteering.Event
import XdpSteering.Log.Pattern
import XdpSteering.Text.Blank
import XdpSteering.Text.Utf8

/-!
# Directives of the log

A directive says how much some events may log: those from parts whose names have a common start, or
those of them that have a certain field.
-/

namespace XdpSteering.Log

open XdpSteering.Text

/-- How much the events that a directive is about may log. -/
structure Directive where
  /-- What the names of their parts begin with. -/
  target : String := ""
  /-- The name of a field that they have. -/
  field? : Option String := none
  /-- Whether the directive is about events within a span, or about the value of a field of one. No
  event is within a span. -/
  withinSpan : Bool := false
  /-- The level down to which they are logged; without one, none are. -/
  level : Option Level
  deriving DecidableEq, Repr

/-! ## What a directive lets through -/

def fieldNames (event : Event) : List String :=
  ["message", "event.name"] ++ event.fields.map (·.1)

namespace Directive

def applies (directive : Directive) (event : Event) : Bool :=
  !directive.withinSpan && directive.target.toList.isPrefixOf event.target.path.toList
    && directive.field?.all fun name => (fieldNames event).contains name

/-- Whether the directive lets an event of a level through. -/
def allows (directive : Directive) (level : Level) : Bool :=
  directive.level.any fun limit => level.rank ≤ limit.rank

/-- Whether a field makes a directive less special than another: no field before one, and of two
names the lesser one. -/
def fieldBelow : Option String → Option String → Bool
  | none, other => other.isSome
  | some _, none => false
  | some name, some other => name < other

/-- The more special one of two directives that are about the same event: the one with the longer
start of a name, then the one with the field. The later one counts if there is no difference. -/
def moreSpecial (earlier later : Directive) : Directive :=
  if earlier.target.length ≠ later.target.length then
    if earlier.target.length < later.target.length then later else earlier
  else if fieldBelow later.field? earlier.field? then earlier else later

end Directive

/-! ## Levels in a directive -/

/-- Reads how much is logged from a number up to five or a name in any case of its letters. -/
def readLimit? (text : List Char) : Option (Option Level) :=
  let byNumber :=
    match Numeral.readUnsigned 10 Numeral.max64 text with
    | .ok 0 => some none
    | .ok number => (Level.all.find? fun (level : Level) => level.rank = number).map some
    | .error _ => none
  let name := text.map Char.toUpper
  byNumber.orElse fun _ =>
    if text.isEmpty then some (some .error)
    else if name = "OFF".toList then some none
    else (Level.all.find? fun (level : Level) => level.name.toList = name).map some

/-- Reads how much is logged from what follows an equals sign. Nothing stands for everything. -/
def readGivenLimit? (text : List Char) : Option (Option Level) :=
  if text.isEmpty then some (some .trace) else readLimit? text

/-! ## Reading -/

/-- Whether a text is a value that a field can be asked for: a flag, a number or a pattern. -/
def isFieldValue (text : List Char) : Bool := (Binary64.read? text).isSome || Pattern.isValid text

/-- Reads what is said about a field: its name, and a value behind an equals sign. Tells also
whether there is a value. -/
def readField? (text : List Char) : Option (String × Bool) :=
  match text.splitOn '=' with
  | [name] => if name.isEmpty then none else some (String.ofList name, false)
  | name :: value :: _ => if isFieldValue value then some (String.ofList name, true) else none
  | [] => none

/-- The text of a directive. The parts are looked for in the text without the blanks around it, and
cut out of the whole text at the places found, so that blanks in front put them out of place. Places
are counted in octets. -/
structure DirectiveText where
  whole : List Char

namespace DirectiveText

def octets (text : DirectiveText) : Octets := Utf8.encode (String.ofList text.whole)

/-- The octets in which the parts are looked for. -/
def bare (text : DirectiveText) : Octets := Utf8.encode (String.ofList (trim text.whole))

/-- The part between two places. A part that splits a character is none. -/
def part? (text : DirectiveText) (start stop : Nat) : Option String :=
  Utf8.decode? ((text.octets.take stop).drop start)

/-- The part from a place on. -/
def partFrom? (text : DirectiveText) (start : Nat) : Option String :=
  text.part? start text.octets.length

def signOctet (sign : Char) : UInt8 := UInt8.ofNat sign.toNat

/-- How many octets from a place on come before one of the ends. -/
def span (text : DirectiveText) (start : Nat) (ends : List Char) : Nat :=
  ((text.bare.drop start).takeWhile fun octet => !(ends.map signOctet).contains octet).length

def hasSign (text : DirectiveText) (place : Nat) (sign : Char) : Bool :=
  text.bare[place]? = some (signOctet sign)

/-- Whether a directive may begin with a character. -/
def startsDirective (char : Char) : Bool :=
  char = '[' || char = '-' || char = ':' || char = '_' || isAlphanumeric char

/-- Reads how much is logged from a place behind all else. -/
def readEnd? (text : DirectiveText) (place : Nat) (directive : Directive) : Option Directive :=
  if text.bare.length ≤ place then some directive
  else if text.hasSign place '=' then do
    let shown ← text.partFrom? (place + 1)
    let level ← readGivenLimit? shown.toList
    return { directive with level }
  else none

/-- Reads what is said about a field, from a place behind the opening brace. -/
def readFieldAt? (text : DirectiveText) (start : Nat) (directive : Directive) :
    Option Directive := do
  let stop := start + text.span start ['\x7d']
  if text.hasSign stop '\x7d' && text.hasSign (stop + 1) ']' then
    let shown ← text.part? start stop
    let (name, hasValue) ← readField? shown.toList
    text.readEnd? (stop + 2)
      { directive with field? := some name, withinSpan := directive.withinSpan || hasValue }
  else none

/-- Reads the name of a span and a field, from a place behind the opening bracket. -/
def readSpanAt? (text : DirectiveText) (start : Nat) (directive : Directive) :
    Option Directive := do
  let stop := start + text.span start [']', '\x7b']
  let name ← text.part? start stop
  if text.hasSign stop ']' then text.readEnd? (stop + 1) { directive with withinSpan := true }
  else if text.hasSign stop '\x7b' then
    text.readFieldAt? (stop + 1) { directive with withinSpan := !name.isEmpty }
  else none

end DirectiveText

/-- Reads a directive: how much is logged, the name of a part, or a name, a span and a field with an
equals sign and how much is logged behind them. -/
def Directive.read? (whole : List Char) : Option Directive :=
  let text : DirectiveText := ⟨whole⟩
  let stop := text.span 0 ['=', '[']
  if !(trim whole).head?.any DirectiveText.startsDirective then none
  else if stop < text.bare.length then do
    let target ← text.part? 0 stop
    if text.hasSign stop '=' then text.readEnd? stop { target, level := some .trace }
    else text.readSpanAt? (stop + 1) { target, level := some .trace }
  else
    match readLimit? whole with
    | some level => some { level }
    | none => some { target := String.ofList whole, level := some .trace }

end XdpSteering.Log
