import XdpSteering.Event
import XdpSteering.Text.Numeral
import XdpSteering.Text.Quoted

/-!
# Lines of the log

An event is one line: the time, the level, the part that reports, the message, and the named values.
On a terminal the parts of a line are set off by colours.
-/

namespace XdpSteering.Log

open XdpSteering.Text

/-- The text in a style of the terminal, if there are styles. -/
def styled (colored : Bool) (style text : String) : String :=
  let escape := (Char.ofNat 0x1B).toString ++ "["
  if colored then escape ++ style ++ "m" ++ text ++ escape ++ "0m" else text

/-- The style of what stands back. -/
def dim : String := "2"

/-- The style of names. -/
def italic : String := "3"

def levelStyle : Level → String
  | .error => "31"
  | .warn => "33"
  | .info => "32"
  | .debug => "34"
  | .trace => "35"

def valueText : FieldValue → String
  | .text value => quoted value
  | .shown value => value
  | .number value => toString value
  | .flag value => if value then "true" else "false"

def fieldText (colored : Bool) (field : String × FieldValue) : String :=
  styled colored italic field.1 ++ styled colored dim "=" ++ valueText field.2

def line (colored : Bool) (time : String) (event : Event) : String :=
  let fields := ("event.name", FieldValue.text event.name) :: event.fields
  styled colored dim time ++ " "
    ++ styled colored (levelStyle event.level) (padLeft 5 ' ' event.level.name) ++ " "
    ++ styled colored dim event.target.path ++ styled colored dim ":" ++ " "
    ++ " ".intercalate (event.message :: fields.map (fieldText colored)) ++ "\n"

end XdpSteering.Log
