/-!
# Integers in text

An optional sign and digits of one radix, with a value in a range. The digits are read from the
left, and the first one that is no digit or that takes the value out of the range is the fault.
-/

namespace XdpSteering.Text

/-- Why a text is no integer of a range. -/
inductive NumeralFault where
  | empty
  | invalidDigit
  | tooLarge
  | tooSmall
  deriving DecidableEq, Repr

def NumeralFault.message : NumeralFault → String
  | .empty => "cannot parse integer from empty string"
  | .invalidDigit => "invalid digit found in string"
  | .tooLarge => "number too large to fit in target type"
  | .tooSmall => "number too small to fit in target type"

/-- The value of a digit of the radix, letters counting on from ten in either case. -/
def digit? (radix : Nat) (char : Char) : Option Nat :=
  let code := char.toNat
  let value :=
    if 48 ≤ code && code ≤ 57 then some (code - 48)
    else if 97 ≤ code && code ≤ 122 then some (code - 87)
    else if 65 ≤ code && code ≤ 90 then some (code - 55)
    else none
  value.filter (· < radix)

namespace Numeral

def max32 : Nat := 0xFFFFFFFF

def max64 : Nat := 0xFFFFFFFFFFFFFFFF

def signedMax64 : Nat := 0x7FFFFFFFFFFFFFFF

/-- The magnitude of the least integer of 64 bits with a sign. -/
def signedMin64 : Nat := 0x8000000000000000

def max128 : Nat := 0xFFFFFFFFFFFFFFFFFFFFFFFFFFFFFFFF

/-- The magnitude of the least integer of 128 bits with a sign. -/
def signedMin128 : Nat := 0x80000000000000000000000000000000

/-- Reads digits on from the value `acc`, which must not grow beyond `limit`. -/
def readDigits (radix limit : Nat) (overflow : NumeralFault) (acc : Nat) :
    List Char → Except NumeralFault Nat
  | [] => .ok acc
  | char :: rest =>
    match digit? radix char with
    | none => .error .invalidDigit
    | some digit =>
      let value := acc * radix + digit
      if value > limit then .error overflow else readDigits radix limit overflow value rest

def readSome (radix limit : Nat) (overflow : NumeralFault) :
    List Char → Except NumeralFault Nat
  -- What comes in front was a sign, so that the text is not empty.
  | [] => .error .invalidDigit
  | digits => readDigits radix limit overflow 0 digits

/-- Reads an integer without a minus sign, up to `high`. -/
def readUnsigned (radix high : Nat) : List Char → Except NumeralFault Nat
  | [] => .error .empty
  | '+' :: digits => readSome radix high .tooLarge digits
  | digits => readSome radix high .tooLarge digits

/-- Reads an integer with an optional sign, from `-low` up to `high`. -/
def readSigned (radix low high : Nat) : List Char → Except NumeralFault Int
  | [] => .error .empty
  | '+' :: digits => (readSome radix high .tooLarge digits).map Int.ofNat
  | '-' :: digits => (readSome radix low .tooSmall digits).map fun value => - Int.ofNat value
  | digits => (readSome radix high .tooLarge digits).map Int.ofNat

end Numeral

/-- The lower-case digits of a number in hexadecimal notation. -/
def hexDigits (number : Nat) : String :=
  String.ofList (Nat.toDigits 16 number)

/-- The text in front filled up to a width. -/
def padLeft (width : Nat) (fill : Char) (text : String) : String :=
  String.ofList (List.replicate (width - text.length) fill) ++ text

end XdpSteering.Text
