/-!
# Sets of characters by their boundaries

A set of characters is given by the code points at which a scan from zero enters or
leaves it, in ascending order. A character is in the set when the scan has entered it
and not left it again.
-/

namespace DeclTree.Text

/-- Whether an odd number of boundaries lie at or below a code point. -/
def withinBoundaries (inside : Bool) (n : Nat) : List Nat → Bool
  | [] => inside
  | b :: rest => if b ≤ n then withinBoundaries (!inside) n rest else inside

def isWithin (boundaries : List Nat) (c : Char) : Bool := withinBoundaries false c.toNat boundaries

example : ([0x2f, 0x30, 0x39, 0x3a].map fun n => withinBoundaries false n [0x30, 0x3a]) =
    [false, true, true, false] := by decide

end DeclTree.Text
