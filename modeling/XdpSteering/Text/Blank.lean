/-!
# White space

The characters that Unicode counts as white space, and their removal from the ends of a text.
-/

namespace XdpSteering.Text

/-- A character with the property White_Space. -/
def isBlank (char : Char) : Bool :=
  let code := char.toNat
  (0x9 ≤ code && code ≤ 0xD) || code = 0x20 || code = 0x85 || code = 0xA0 || code = 0x1680
    || (0x2000 ≤ code && code ≤ 0x200A) || code = 0x2028 || code = 0x2029 || code = 0x202F
    || code = 0x205F || code = 0x3000

def trimEnd (text : List Char) : List Char :=
  (text.reverse.dropWhile isBlank).reverse

def trim (text : List Char) : List Char :=
  trimEnd (text.dropWhile isBlank)

def isBlankText (text : String) : Bool :=
  text.toList.all isBlank

/-- One of the characters that end a word in ASCII text: blank, tab, line feed, form feed, carriage
return. -/
def isAsciiBlank (char : Char) : Bool :=
  char = ' ' || char = '\t' || char = '\n' || char.toNat = 0xC || char = '\r'

end XdpSteering.Text
