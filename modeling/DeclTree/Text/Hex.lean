/-!
# Hexadecimal digits

Code points in escapes are written with a fixed number of hexadecimal digits.
-/

namespace DeclTree.Text

def hexDigit? (c : Char) : Option Nat :=
  if '0' ≤ c && c ≤ '9' then some (c.toNat - '0'.toNat)
  else if 'a' ≤ c && c ≤ 'f' then some (c.toNat - 'a'.toNat + 10)
  else if 'A' ≤ c && c ≤ 'F' then some (c.toNat - 'A'.toNat + 10)
  else none

/-- The number that hexadecimal digits write, when all of them are digits. -/
def hexValue? (cs : List Char) : Option Nat :=
  cs.foldlM (fun n c => (hexDigit? c).map (n * 16 + ·)) 0

/-- The character of a given number of hexadecimal digits; surrogates are no characters. -/
def codePoint? (count : Nat) (cs : List Char) : Option (Char × List Char) :=
  let ds := cs.take count
  if ds.length != count then none
  else
    match hexValue? ds with
    | some n =>
      if n < 0xD800 || (0xE000 ≤ n && n < 0x110000) then some (Char.ofNat n, cs.drop count)
      else none
    | none => none

example : (codePoint? 4 "00e9x".toList).map (·.1) = some 'é' := by decide

example : codePoint? 4 "d800".toList = none := by decide

end DeclTree.Text
