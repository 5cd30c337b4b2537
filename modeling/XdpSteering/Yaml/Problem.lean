import XdpSteering.Text.Cursor

/-!
# Problems in YAML text

What keeps a text from being read as YAML: the problem and its place, and what was being read when
it came up.
-/

namespace XdpSteering.Yaml

open XdpSteering.Text

structure Problem where
  problem : String
  mark : Mark
  /-- What was being read, and where it began. -/
  context : Option (String × Mark) := none
  deriving DecidableEq, Repr

/-- A place after a text, unless it is the start of everything. -/
def placed (text : String) (mark : Mark) : String :=
  if mark.isStart then text else text ++ " at " ++ mark.text

def Problem.text (problem : Problem) : String :=
  let main :=
    if problem.mark.isStart && problem.mark.index ≠ 0 then
      problem.problem ++ " at position " ++ toString problem.mark.index
    else placed problem.problem problem.mark
  match problem.context with
  | none => main
  | some (context, mark) =>
    let elsewhere := mark.line ≠ problem.mark.line || mark.column ≠ problem.mark.column
    main ++ ", " ++ (if elsewhere then placed context mark else context)

end XdpSteering.Yaml
