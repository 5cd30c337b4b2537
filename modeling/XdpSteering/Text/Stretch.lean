/-!
# Stretches of characters

A set of characters is given by the ends of its stretches: a stretch begins at each entry with an
even index and ends before the next one.
-/

namespace XdpSteering.Text

/-- Whether a character lies in a stretch: then it is at or behind an odd number of ends. -/
def inStretches (bounds : Array Nat) (char : Char) : Bool :=
  bounds.foldl (fun count bound => if bound ≤ char.toNat then count + 1 else count) 0 % 2 = 1

end XdpSteering.Text
