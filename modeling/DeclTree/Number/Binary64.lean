/-!
# Finite binary64 numbers

A number is a sign, a significand below 2^53 and an exponent. All arithmetic is
exact arithmetic on natural numbers followed by one rounding, to the nearest
number, a half to the even significand.

A decimal is read in two roundings: its significand first, then one product or
quotient with a rounded power of ten. Below 10^-308 it is divided by 10^308 first.
-/

namespace DeclTree

/-- The number `significand * 2 ^ exponent`, negated when `negative`. -/
structure Binary64 where
  negative : Bool
  significand : Nat
  exponent : Int
  deriving DecidableEq, Repr

namespace Binary64

/-- Exponent of the least significant bit of the smallest numbers. -/
def minExponent : Int := -1074

/-- Exponent of the least significant bit of the largest numbers. -/
def maxExponent : Int := 971

/-- The least significand of 53 bits. -/
def leastFull : Nat := .pow 2 52

def zero (negative : Bool) : Binary64 := ⟨negative, 0, minExponent⟩

def isZero (x : Binary64) : Bool := x.significand == 0

/-- The quotient to the nearest natural number, a half to the even one. -/
def roundDiv (num den : Nat) : Nat :=
  let q := num / den
  let r := num % den
  if 2 * r > den || (2 * r == den && q % 2 == 1) then q + 1 else q

/-- `num / den` in units of `2 ^ e`, as a fraction. -/
def inUnits (num den : Nat) (e : Int) : Nat × Nat :=
  if e ≥ 0 then (num, den * .pow 2 e.toNat) else (num * .pow 2 (-e).toNat, den)

/-- The exponent whose unit gives `num / den` 53 significant bits, or the least exponent. -/
def unitExponent (num den : Nat) : Int :=
  let guess : Int := (Nat.log2 num : Int) - (Nat.log2 den : Int) - 52
  let (n, d) := inUnits num den guess
  let e := if n / d < leastFull then guess - 1 else guess
  max e minExponent

/-- The number nearest to `num / den`; `none` beyond the largest one. -/
def ofRatio (negative : Bool) (num den : Nat) : Option Binary64 :=
  if num == 0 then some (zero negative)
  else
    let e := unitExponent num den
    let (n, d) := inUnits num den e
    let m := roundDiv n d
    let x : Binary64 := if m == 2 * leastFull then ⟨negative, leastFull, e + 1⟩ else ⟨negative, m, e⟩
    if x.exponent > maxExponent then none else some x

/-- The magnitude as a fraction of natural numbers. -/
def ratio (x : Binary64) : Nat × Nat :=
  if x.exponent ≥ 0 then (x.significand * .pow 2 x.exponent.toNat, 1)
  else (x.significand, .pow 2 (-x.exponent).toNat)

def mul? (x y : Binary64) : Option Binary64 :=
  let (a, b) := x.ratio
  let (c, d) := y.ratio
  ofRatio (x.negative != y.negative) (a * c) (b * d)

def div? (x y : Binary64) : Option Binary64 :=
  let (a, b) := x.ratio
  let (c, d) := y.ratio
  ofRatio (x.negative != y.negative) (a * d) (b * c)

/-- Largest power of ten in the range. -/
def maxTen : Nat := 308

/-- Two divisions by 10^308 leave nothing of a significand of 64 bits. -/
def tinySteps : Nat := 3

/-- Multiply by a power of ten, one rounding for each factor. -/
def scale? : Nat → Binary64 → Int → Option Binary64
  | 0, x, _ => some (zero x.negative)
  | steps + 1, x, e =>
    if e.natAbs ≤ maxTen then
      (ofRatio false (.pow 10 e.natAbs) 1).bind (if e ≥ 0 then x.mul? else x.div?)
    else if x.isZero then some x
    else if e ≥ 0 then none
    else
      match (ofRatio false (.pow 10 maxTen) 1).bind x.div? with
      | none => none
      | some y => scale? steps y (e + maxTen)

/-- `significand * 10 ^ exponent` for a significand of at most 64 bits; `none` on overflow. -/
def ofDecimal (negative : Bool) (significand : Nat) (exponent : Int) : Option Binary64 :=
  (ofRatio negative significand 1).bind (scale? tinySteps · exponent)

end Binary64

end DeclTree
