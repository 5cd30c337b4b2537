import XdpSteering.Log.Directive

/-!
# Filters of the log

A filter is a list of directives. Of those that are about an event, the most special one says
whether the event is logged; an event that no directive is about is not logged.
-/

namespace XdpSteering.Log

open XdpSteering.Text

/-- What is logged. -/
abbrev Filter := List Directive

namespace Filter

/-- The directive that counts for an event. -/
def directiveFor? (filter : Filter) (event : Event) : Option Directive :=
  match filter.filter fun directive => directive.applies event with
  | [] => none
  | first :: rest => some (rest.foldl Directive.moreSpecial first)

def allows (filter : Filter) (event : Event) : Bool :=
  (filter.directiveFor? event).any fun directive => directive.allows event.level

/-- Reads a filter: directives with commas between them. Without any, nothing is logged. -/
def read? (text : String) : Option Filter :=
  ((text.toList.splitOn ',').filter fun piece => !piece.isEmpty).mapM Directive.read?

end Filter

end XdpSteering.Log
