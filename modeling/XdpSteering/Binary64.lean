import XdpSteering.Text.Numeral

/-!
# Binary floating-point numbers of 64 bits

A number is read from decimal text by rounding the exact value to the nearest representable one, a
tie to the even neighbour. It is written with the fewest digits that read back as the same number.
All arithmetic is exact.
-/

namespace XdpSteering

inductive Binary64 where
  | nan
  | infinite (negative : Bool)
  /-- The number `mantissa · 2 ^ exponent` with its sign, where `mantissa` is below `2 ^ 53`
  and is at least `2 ^ 52` unless `exponent` is the least exponent. -/
  | finite (negative : Bool) (mantissa : Nat) (exponent : Int)
  deriving DecidableEq, Repr

namespace Binary64

/-- The least mantissa off the finest grid. -/
def hiddenBit : Nat := 0x10000000000000

/-- The exponent of the finest grid. -/
def leastExponent : Int := -1074

/-- The exponent of the coarsest grid. -/
def greatestExponent : Int := 971

/-- The quotient rounded to the nearest integer, a tie to the even one. -/
def roundHalfEven (numerator denominator : Nat) : Nat :=
  let quotient := numerator / denominator
  let twice := 2 * (numerator % denominator)
  if twice < denominator then quotient
  else if denominator < twice then quotient + 1
  else quotient + quotient % 2

/-- `numerator / denominator · 2 ^ (-exponent)` as a fraction. -/
def scaled (numerator denominator : Nat) (exponent : Int) : Nat × Nat :=
  if 0 ≤ exponent then (numerator, denominator * Nat.pow 2 exponent.toNat)
  else (numerator * Nat.pow 2 (-exponent).toNat, denominator)

/-- The number nearest to a positive fraction. -/
def ofFraction (negative : Bool) (numerator denominator : Nat) : Binary64 :=
  let guess : Int := (Nat.log2 numerator : Int) - (Nat.log2 denominator : Int) - 52
  let (n, d) := scaled numerator denominator guess
  -- The guess is the right grid or the one above it.
  let grid := if n < d * hiddenBit then guess - 1 else guess
  let exponent := max grid leastExponent
  let (n, d) := scaled numerator denominator exponent
  let mantissa := roundHalfEven n d
  let (mantissa, exponent) :=
    -- Rounding may lead up to the next grid.
    if mantissa = 2 * hiddenBit then (hiddenBit, exponent + 1) else (mantissa, exponent)
  if greatestExponent < exponent then .infinite negative else .finite negative mantissa exponent

/-- The number nearest to `digits · 10 ^ power`. -/
def ofDecimal (negative : Bool) (digits : Nat) (power : Int) : Binary64 :=
  let magnitude := (Nat.log2 digits : Int) * 3 / 10 + power
  -- Far out of range the power of ten is not worked out.
  if digits = 0 || magnitude < -400 then .finite negative 0 leastExponent
  else if 400 < magnitude then .infinite negative
  else if 0 ≤ power then ofFraction negative (digits * Nat.pow 10 power.toNat) 1
  else ofFraction negative digits (Nat.pow 10 (-power).toNat)

/-! ## Reading -/

def spanDigits (text : List Char) : List Char × List Char :=
  text.span Char.isDigit

def digitsValue (digits : List Char) : Nat :=
  digits.foldl (fun value digit => value * 10 + (digit.toNat - 48)) 0

/-- The power of ten after a mantissa: nothing, or `e` and a signed run of digits. -/
def readPower : List Char → Option Int
  | [] => some 0
  | mark :: rest =>
    if mark = 'e' || mark = 'E' then
      let (negative, digits) :=
        match rest with
        | '-' :: digits => (true, digits)
        | '+' :: digits => (false, digits)
        | digits => (false, digits)
      if digits.isEmpty || !digits.all Char.isDigit then none
      else some (if negative then - (digitsValue digits : Int) else digitsValue digits)
    else none

/-- Reads a number without its sign: a name of infinity or of no number, or digits with an optional
point among them and an optional power of ten. -/
def readUnsigned (negative : Bool) (text : List Char) : Option Binary64 :=
  let name := String.ofList (text.map Char.toLower)
  if name = "inf" || name = "infinity" then some (.infinite negative)
  else if name = "nan" then some .nan
  else
    let (whole, rest) := spanDigits text
    let (fraction, rest) :=
      match rest with
      | '.' :: rest => spanDigits rest
      | rest => ([], rest)
    if whole.isEmpty && fraction.isEmpty then none
    else
      (readPower rest).map fun power =>
        ofDecimal negative (digitsValue (whole ++ fraction)) (power - fraction.length)

def read? : List Char → Option Binary64
  | '-' :: text => readUnsigned true text
  | '+' :: text => readUnsigned false text
  | text => readUnsigned false text

def isFinite : Binary64 → Bool
  | .finite .. => true
  | _ => false

/-! ## Writing -/

/-- The interval of the reals that round to a number, all ends as multiples of
`2 ^ (exponent - 2)`, and whether the ends belong to it. -/
structure Cell where
  low : Nat
  centre : Nat
  high : Nat
  closed : Bool
  exponent : Int

def cell (mantissa : Nat) (exponent : Int) : Cell where
  low :=
    -- Below a power of two the neighbour is half as far away.
    if mantissa = hiddenBit && leastExponent < exponent then 4 * mantissa - 1
    else 4 * mantissa - 2
  centre := 4 * mantissa
  high := 4 * mantissa + 2
  closed := mantissa % 2 = 0
  exponent := exponent - 2

/-- Whether `digits · 10 ^ power` lies in the cell, given the common scale of both: a unit of the
cell is `unit` and a unit of the grid is `step`. -/
def Cell.contains (cell : Cell) (unit step digits : Nat) : Bool :=
  let point := digits * step
  if cell.closed then cell.low * unit ≤ point && point ≤ cell.high * unit
  else cell.low * unit < point && point < cell.high * unit

/-- The units of the cell and of the decimal grid `10 ^ power`, over a common denominator. -/
def commonUnits (exponent power : Int) : Nat × Nat :=
  let binary := Nat.pow 2 exponent.natAbs
  let decimal := Nat.pow 10 power.natAbs
  if 0 ≤ exponent then
    if 0 ≤ power then (binary, decimal) else (binary * decimal, 1)
  else
    if 0 ≤ power then (1, decimal * binary) else (decimal, binary)

/-- The point of the grid `10 ^ power` in the cell that is nearest to its centre, if a neighbour of
the centre on that grid lies in the cell. -/
def Cell.onGrid? (cell : Cell) (power : Int) : Option Nat :=
  let (unit, step) := commonUnits cell.exponent power
  let centre := cell.centre * unit
  let below := centre / step
  let above := below + 1
  let lower := 0 < below && cell.contains unit step below
  let upper := cell.contains unit step above
  if lower && upper then
    let down := centre - below * step
    let up := above * step - centre
    if down < up || (down = up && below % 2 = 0) then some below else some above
  else if lower then some below
  else if upper then some above
  else none

/-- The first grid from `power` downwards that has a point in the cell. -/
def Cell.search (cell : Cell) (power : Int) : Nat → Nat × Int
  | 0 => (cell.centre, power)
  | fuel + 1 =>
    match cell.onGrid? power with
    | some digits => (digits, power)
    | none => cell.search (power - 1) fuel

/-- A number without the zeros at its end, and their count. -/
def stripZeros (digits : Nat) (power : Int) : Nat → Nat × Int
  | 0 => (digits, power)
  | fuel + 1 =>
    if digits % 10 = 0 && digits ≠ 0 then stripZeros (digits / 10) (power + 1) fuel
    else (digits, power)

/-- The fewest digits that read back as `mantissa · 2 ^ exponent`, and the power of ten that they
stand with. -/
def shortest (mantissa : Nat) (exponent : Int) : Nat × Int :=
  if mantissa = 0 then (0, 0)
  else
    -- The search begins above the place of the first digit.
    let magnitude := ((Nat.log2 mantissa : Int) + exponent) * 30103 / 100000 + 2
    let (digits, power) := (cell mantissa exponent).search magnitude 24
    stripZeros digits power 400

structure Layout where
  /-- A number without a fraction keeps `.0`. -/
  keepPoint : Bool
  /-- The most places in front of the point that are written without a power of ten. -/
  maxPlaces : Option Nat
  /-- The most zeros behind the point that are written without a power of ten. -/
  maxZeros : Option Nat

def Layout.plain : Layout := ⟨false, none, none⟩

def Layout.pointed : Layout := ⟨true, none, none⟩

/-- The layout with a point, and with a signed power of ten above 16 places and below 5 zeros. -/
def Layout.scientific : Layout := ⟨true, some 16, some 4⟩

def zeros (count : Nat) : String := String.ofList (List.replicate count '0')

def Layout.write (layout : Layout) (digits : Nat) (power : Int) : String :=
  let text := (toString digits).toList
  let places : Int := text.length + power
  if (layout.maxPlaces.any fun most => (most : Int) < places)
      || (layout.maxZeros.any fun most => places < - (most : Int)) then
    let fraction := text.drop 1
    String.ofList (text.take 1) ++ (if fraction.isEmpty then "" else "." ++ String.ofList fraction)
      ++ (if 0 < places then "e+" else "e") ++ toString (places - 1)
  else if 0 ≤ power then
    String.ofList text ++ zeros power.toNat ++ (if layout.keepPoint then ".0" else "")
  else if 0 < places then
    String.ofList (text.take places.toNat) ++ "." ++ String.ofList (text.drop places.toNat)
  else "0." ++ zeros (-places).toNat ++ String.ofList text

def text (layout : Layout) : Binary64 → String
  | .nan => "NaN"
  | .infinite negative => if negative then "-inf" else "inf"
  | .finite negative mantissa exponent =>
    let sign := if negative then "-" else ""
    if mantissa = 0 then sign ++ (if layout.keepPoint then "0.0" else "0")
    else
      let (digits, power) := shortest mantissa exponent
      sign ++ layout.write digits power

end Binary64

end XdpSteering
