/-!
# UTF-8

Octets that stand for text. A reader of octets marks each stretch that is no character: the longest
start of a character that then goes wrong, or else a single octet. Lossy reading writes a
replacement character for each mark, strict reading refuses them.
-/

namespace XdpSteering.Text

/-- A string of octets, such as a file's content or an argument. -/
abbrev Octets := List UInt8

namespace Utf8

/-- The character written in the place of a stretch that is no character. -/
def replacement : Char := Char.ofNat 0xFFFD

/-- Where a reader stands between two octets. -/
inductive State where
  | start
  /-- Inside a character: `owed + 1` octets are missing, the next of them lies in
  `low ..= high`, and `value` is what the octets so far spell. -/
  | inside (owed : Nat) (low high : UInt8) (value : Nat)
  deriving DecidableEq, Repr

/-- Reads an octet between characters: what is complete with it, and the state after it. -/
def first (octet : UInt8) : List (Option Char) × State :=
  if octet < 0x80 then ([some (Char.ofNat octet.toNat)], .start)
  -- Octets that go on with a character, and two that could only begin an overlong form.
  else if octet < 0xC2 then ([none], .start)
  else if octet < 0xE0 then ([], .inside 0 0x80 0xBF (octet.toNat - 0xC0))
  else if octet < 0xF0 then
    -- Neither an overlong form nor half of a surrogate pair.
    let low := if octet = 0xE0 then 0xA0 else 0x80
    let high := if octet = 0xED then 0x9F else 0xBF
    ([], .inside 1 low high (octet.toNat - 0xE0))
  else if octet < 0xF5 then
    -- Neither an overlong form nor a code beyond the last one.
    let low := if octet = 0xF0 then 0x90 else 0x80
    let high := if octet = 0xF4 then 0x8F else 0xBF
    ([], .inside 2 low high (octet.toNat - 0xF0))
  else ([none], .start)

/-- Reads one octet. An octet that a character cannot go on with ends a faulty stretch and is read
again as the first of the next character. -/
def step (state : State) (octet : UInt8) : List (Option Char) × State :=
  match state with
  | .start => first octet
  | .inside owed low high value =>
    if low ≤ octet && octet ≤ high then
      let value := value * 64 + (octet.toNat - 0x80)
      match owed with
      | 0 => ([some (Char.ofNat value)], .start)
      | owed + 1 => ([], .inside owed 0x80 0xBF value)
    else
      let (characters, next) := first octet
      (none :: characters, next)

def scanFrom : State → Octets → List (Option Char)
  | .start, [] => []
  | .inside .., [] => [none]
  | state, octet :: rest =>
    let (characters, next) := step state octet
    characters ++ scanFrom next rest

/-- The characters of a string of octets, with `none` for each stretch that is no character. -/
def scan (octets : Octets) : List (Option Char) := scanFrom .start octets

/-- The text with each faulty stretch replaced. -/
def lossy (octets : Octets) : String :=
  String.ofList ((scan octets).map fun char => char.getD replacement)

def decode? (octets : Octets) : Option String :=
  ((scan octets).mapM id).map String.ofList

def encode (text : String) : Octets :=
  text.toList.flatMap String.utf8EncodeChar

end Utf8

end XdpSteering.Text
