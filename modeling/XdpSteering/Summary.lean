/-!
# Summaries

What the summaries that commands print have in common.
-/

namespace XdpSteering.Summary

/-- The line that sets off the parts of a summary. -/
def rule : String := String.ofList (List.replicate 56 '━') ++ "\n"

/-- A title between two rules. -/
def heading (title : String) : String := rule ++ title ++ "\n" ++ rule

def line (label value : String) : String := label ++ value ++ "\n"

end XdpSteering.Summary
