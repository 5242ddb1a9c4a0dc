import DeclTree.Number.Binary64

/-!
# Shortest decimal text of a binary64 number

The digits are the fewest that read back to the same number; of two such
decimals the nearer one is taken, and the even one when both are equally near.
For 1, 2, … 17 digits the two neighbours of the number on that decimal grid are
tested in exact arithmetic.
-/

namespace DeclTree.Binary64

/-- The decimal `digits * 10 ^ exponent`. -/
structure Decimal where
  digits : Nat
  exponent : Int
  deriving DecidableEq, Repr

/-- Every decimal between `low` and `high` quarter units of `2 ^ exponent` reads back to the
number; the ends themselves do when `closed`. -/
structure Rounds where
  low : Nat
  mid : Nat
  high : Nat
  exponent : Int
  closed : Bool

/-- The reals that round to `x`. The gap below a power of two is half as wide. -/
def rounds (x : Binary64) : Rounds :=
  let m := x.significand
  let below := if m == leastFull && x.exponent > minExponent then 1 else 2
  ⟨4 * m - below, 4 * m, 4 * m + 2, x.exponent - 2, m % 2 == 0⟩

/-- `a * 10 ^ e` and `b * 2 ^ f` brought to one unit. -/
def common (a : Nat) (e : Int) (b : Nat) (f : Int) : Nat × Nat :=
  (a * .pow 10 e.toNat * .pow 2 (-f).toNat, b * .pow 2 f.toNat * .pow 10 (-e).toNat)

def Rounds.contains (r : Rounds) (d : Decimal) : Bool :=
  let (a, lo) := common d.digits d.exponent r.low r.exponent
  let (b, hi) := common d.digits d.exponent r.high r.exponent
  if r.closed then lo ≤ a && b ≤ hi else lo < a && b < hi

def natDigits (n : Nat) : Nat := (Nat.toDigits 10 n).length

/-- The exponent of the leading decimal digit of a positive number. -/
def leadingExponent (x : Binary64) : Int :=
  let (n, d) := x.ratio
  if n ≥ d then (natDigits (n / d) : Int) - 1 else -(natDigits (d / n) : Int)

/-- The larger multiple of `10 ^ e` that does not exceed the magnitude of `x`, in such units. -/
def floorTen (x : Binary64) (e : Int) : Nat :=
  let (n, d) := x.ratio
  (n * .pow 10 (-e).toNat) / (d * .pow 10 e.toNat)

/-- Of the two neighbours `lo` and `lo + 1` on the grid `10 ^ e`, the one to print, if any reads
back to `x`. -/
def onGrid (x : Binary64) (e : Int) : Option Decimal :=
  let r := x.rounds
  let lo : Decimal := ⟨floorTen x e, e⟩
  let hi : Decimal := ⟨lo.digits + 1, e⟩
  match r.contains lo, r.contains hi with
  | true, true =>
    -- twice the number against the sum of both neighbours
    let (s, v) := common (lo.digits + hi.digits) e (2 * r.mid) r.exponent
    if v < s then some lo
    else if s < v then some hi
    else some (if lo.digits % 2 == 0 then lo else hi)
  | true, false => some lo
  | false, true => some hi
  | false, false => none

/-- The first grid with a hit, from `digits` digits on. -/
def firstGrid (x : Binary64) (lead : Int) : Nat → Nat → Decimal
  | 0, digits => ⟨floorTen x (lead - digits), lead - digits⟩
  | steps + 1, digits =>
    match onGrid x (lead - digits) with
    | some d => d
    | none => firstGrid x lead steps (digits + 1)

/-- Drop trailing zeros of the digits. -/
def Decimal.trim : Nat → Decimal → Decimal
  | 0, d => d
  | steps + 1, d =>
    if d.digits != 0 && d.digits % 10 == 0 then trim steps ⟨d.digits / 10, d.exponent + 1⟩ else d

/-- The shortest decimal that reads back to the magnitude of a non-zero `x`. -/
def shortest (x : Binary64) : Decimal :=
  (firstGrid x x.leadingExponent 17 0).trim 20

/-- Where positional notation ends: the scientific exponents written with a plain point. -/
structure TextFormat where
  least : Int
  greatest : Int

/-- Exponents from -5 to 15 are written positionally, with at least one digit after the point. -/
def TextFormat.json : TextFormat := ⟨-5, 15⟩

def zeros (n : Nat) : String := String.ofList (List.replicate n '0')

/-- Digits with a point: `1500.0`, `1.5`, `0.0015`. -/
def Decimal.positional (d : Decimal) : String :=
  let ds := Nat.toDigits 10 d.digits
  if d.exponent ≥ 0 then String.ofList ds ++ zeros d.exponent.toNat ++ ".0"
  else
    let places := (-d.exponent).toNat
    if places < ds.length then
      String.ofList (ds.take (ds.length - places)) ++ "." ++
        String.ofList (ds.drop (ds.length - places))
    else "0." ++ zeros (places - ds.length) ++ String.ofList ds

/-- One digit, the others after a point, and an exponent with its sign: `1.5e+20`, `1e-7`. -/
def Decimal.scientific (d : Decimal) (e : Int) : String :=
  let mark := if e < 0 then "e-" else "e+"
  let tail := mark ++ toString e.natAbs
  match Nat.toDigits 10 d.digits with
  | [] => tail
  | [c] => String.singleton c ++ tail
  | c :: cs => String.singleton c ++ "." ++ String.ofList cs ++ tail

def Decimal.text (f : TextFormat) (d : Decimal) : String :=
  let e : Int := (natDigits d.digits : Int) - 1 + d.exponent
  if f.least ≤ e && e ≤ f.greatest then d.positional else d.scientific e

/-- Shortest text of a number; a zero keeps its sign. -/
def text (f : TextFormat) (x : Binary64) : String :=
  let magnitude := if x.isZero then "0.0" else x.shortest.text f
  if x.negative then "-" ++ magnitude else magnitude

end DeclTree.Binary64
