import XdpSteering.Text.Numeral
import XdpSteering.Text.Printable

/-!
# Quoted text

Text between double quotes, in which a quote, a backslash and every character that is not shown as
itself is escaped.
-/

namespace XdpSteering.Text

/-- The form of one character between quotes. -/
def quotedChar (char : Char) : String :=
  if char.toNat = 0 then "\\0"
  else if char = '\t' then "\\t"
  else if char = '\r' then "\\r"
  else if char = '\n' then "\\n"
  else if char = '"' then "\\\""
  else if char = '\\' then "\\\\"
  else if isPrintable char then char.toString
  else "\\u\x7b" ++ hexDigits char.toNat ++ "\x7d"

/-- The text between quotes. -/
def quoted (text : String) : String :=
  "\"" ++ String.join (text.toList.map quotedChar) ++ "\""

end XdpSteering.Text
