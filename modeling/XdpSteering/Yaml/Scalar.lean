import XdpSteering.Value
import XdpSteering.Yaml.Node

/-!
# The values of YAML scalars

A plain scalar is null, a flag or a number if it is spelled like one, and text otherwise. A tag can
ask for one of these or name something of the document's own.
-/

namespace XdpSteering.Yaml

open XdpSteering.Text

/-- Whether a plain scalar stands for null. -/
def isNullText (text : String) : Bool := ["null", "Null", "NULL", "~"].contains text

/-- The flag that a plain scalar stands for. -/
def flagOf? (text : String) : Option Bool :=
  if ["true", "True", "TRUE"].contains text then some true
  else if ["false", "False", "FALSE"].contains text then some false
  else none

/-- The characters behind a start, if a text begins with it. -/
def after? (start : String) (text : List Char) : Option (List Char) :=
  if start.toList.isPrefixOf text then some (text.drop start.length) else none

def signed (text : List Char) : Bool := text.head? = some '+' || text.head? = some '-'

/-- Whether a text is a run of digits that begins with a needless zero; such a text is no number. -/
def hasLeadingZero (text : List Char) : Bool :=
  let digits := if signed text then text.drop 1 else text
  1 < digits.length && digits.head? = some '0' && digits.all Char.isDigit

/-- The starts that announce digits of another radix. -/
def radixMarks : List (String × Nat) := [("0x", 16), ("0o", 8), ("0b", 2)]

/-- A number in text, up to a limit, that needs no minus sign. -/
def unsignedOf? (limit : Nat) (text : List Char) : Option Nat :=
  let bare := if text.head? = some '+' then text.drop 1 else text
  let marked := radixMarks.findSome? fun (start, radix) =>
    (after? start bare).map fun digits => (digits, radix)
  let decimal :=
    if signed bare || hasLeadingZero text then none
    else (Numeral.readUnsigned 10 limit bare).toOption
  match marked with
  | some (digits, radix) =>
    if signed digits then none
    else ((Numeral.readUnsigned radix limit digits).toOption).orElse fun _ => decimal
  | none => decimal

/-- A number in text, down to a limit, that has a minus sign. -/
def negativeOf? (limit : Nat) (text : List Char) : Option Int :=
  let marked := radixMarks.findSome? fun (start, radix) =>
    (after? ("-" ++ start) text).map fun digits => (digits, radix)
  let decimal :=
    if hasLeadingZero text then none
    else (Numeral.readSigned 10 limit (limit - 1) text).toOption
  match marked with
  | some (digits, radix) =>
    if signed digits then decimal
    else
      let read := Numeral.readSigned radix limit (limit - 1) ('-' :: digits)
      read.toOption.orElse fun _ => decimal
  | none => decimal

/-- The integer that a text spells. -/
def integerOf? (text : List Char) : Option Number :=
  ((unsignedOf? Numeral.max64 text).map Number.unsigned).orElse fun _ =>
  ((negativeOf? Numeral.signedMin64 text).map Number.signed).orElse fun _ =>
  ((unsignedOf? Numeral.max128 text).map Number.wideUnsigned).orElse fun _ =>
  (negativeOf? Numeral.signedMin128 text).map Number.wideSigned

/-- The number with a fraction that a text spells. -/
def floatOf? (text : List Char) : Option Binary64 :=
  let bare := if text.head? = some '+' then text.drop 1 else text
  if text.head? = some '+' && signed bare then none
  else
    let name := String.ofList bare
    let whole := String.ofList text
    if [".inf", ".Inf", ".INF"].contains name then some (.infinite false)
    else if ["-.inf", "-.Inf", "-.INF"].contains whole then some (.infinite true)
    else if [".nan", ".NaN", ".NAN"].contains whole then some .nan
    else (Binary64.read? bare).filter Binary64.isFinite

/-- The value of a plain scalar without a tag. -/
def plainValue (text : String) : Value :=
  if text.isEmpty || isNullText text then .null
  else
    match flagOf? text with
    | some flag => .flag flag
    | none =>
      match integerOf? text.toList with
      | some number => .number number
      | none =>
        if hasLeadingZero text.toList then .text text
        else
          match floatOf? text.toList with
          | some float => .number (.float float)
          | none => .text text

/-- The name in a tag of the document's own, if it is text. -/
def tagName? (tag : Option Octets) : Option String :=
  match tag with
  | some (sign :: name) =>
    if [sign] ≠ bareTag then none else if name.isEmpty then some "!" else Utf8.decode? name
  | _ => none

/-- A tag that asks for a kind of scalar. -/
def coreTag (name : String) : Octets := Utf8.encode ("tag:yaml.org,2002:" ++ name)

/-- The value of a scalar whose tag is no name of the document's own, or the kind that the tag asks
for in vain. -/
def scalarValue (tag : Option Octets) (text : String) (style : Style) : Except String Value :=
  let untagged := if style = .plain then plainValue text else .text text
  match tag with
  | none => .ok untagged
  | some tag =>
    if tag = coreTag "bool" then
      match flagOf? text with
      | some flag => .ok (.flag flag)
      | none => .error "a boolean"
    else if tag = coreTag "int" then
      match integerOf? text.toList with
      | some number => .ok (.number number)
      | none => .error "an integer"
    else if tag = coreTag "float" then
      match floatOf? text.toList with
      | some float => .ok (.number (.float float))
      | none => .error "a float"
    else if tag = coreTag "null" then
      if isNullText text then .ok .null else .error "null"
    else if tag.take 1 = bareTag then .ok untagged
    else .ok (.text text)

end XdpSteering.Yaml
