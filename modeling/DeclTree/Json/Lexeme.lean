import DeclTree.Json.Basic
import DeclTree.Text.Hex

/-!
# Lexemes of a JSON text

`Lexeme.next?` reads one lexeme and returns the characters after it. Blanks are
space, tab, line feed and carriage return. A string holds no raw control
character, and a surrogate escape only as the first half of a pair.
-/

namespace DeclTree.Json

inductive Lexeme where
  | openObject
  | closeObject
  | openArray
  | closeArray
  | colon
  | comma
  | scalar (v : Json)
  deriving Inhabited

namespace Lexeme

def isBlank (c : Char) : Bool := c == ' ' || c == '\t' || c == '\n' || c == '\r'

/-- Four hexadecimal digits. -/
def unit? : List Char → Option (Nat × List Char)
  | a :: b :: c :: d :: rest => (Text.hexValue? [a, b, c, d]).map (·, rest)
  | _ => none

/-- The character that an escape letter other than `u` stands for. -/
def escaped? : Char → Option Char
  | '"' => some '"'
  | '\\' => some '\\'
  | '/' => some '/'
  | 'b' => some '\x08'
  | 'f' => some '\x0c'
  | 'n' => some '\n'
  | 'r' => some '\r'
  | 't' => some '\t'
  | _ => none

/-- The character of a `\u` escape whose digits start the text. A high surrogate takes the low
surrogate that must follow it. -/
def unicode? (cs : List Char) : Option (Char × List Char) :=
  match unit? cs with
  | none => none
  | some (u, rest) =>
    if 0xD800 ≤ u && u < 0xDC00 then
      match rest with
      | '\\' :: 'u' :: more =>
        match unit? more with
        | some (w, rest') =>
          if 0xDC00 ≤ w && w < 0xE000 then
            some (Char.ofNat (0x10000 + (u - 0xD800) * 0x400 + (w - 0xDC00)), rest')
          else none
        | none => none
      | _ => none
    else if 0xDC00 ≤ u && u < 0xE000 then none
    else some (Char.ofNat u, rest)

/-- The characters up to the closing quote as they stand, and those after it. `acc` holds the ones
read, last first. A backslash keeps the character after it from closing the string. -/
def untilQuote? (acc : List Char) : List Char → Option (List Char × List Char)
  | [] => none
  | '"' :: rest => some (acc.reverse, rest)
  | '\\' :: c :: rest => untilQuote? (c :: '\\' :: acc) rest
  | c :: rest => untilQuote? (c :: acc) rest

/-- The characters that the inside of a string stands for, after those of `acc`, which are held
last first. Each step takes at least one character. -/
def unescape? : Nat → List Char → List Char → Option (List Char)
  | _, acc, [] => some acc.reverse
  | 0, _, _ :: _ => none
  | steps + 1, acc, '\\' :: 'u' :: rest =>
    match unicode? rest with
    | some (c, rest') => unescape? steps (c :: acc) rest'
    | none => none
  | _ + 1, _, ['\\'] => none
  | steps + 1, acc, '\\' :: e :: rest =>
    match escaped? e with
    | some c => unescape? steps (c :: acc) rest
    | none => none
  | steps + 1, acc, c :: rest =>
    if c.toNat < 0x20 then none else unescape? steps (c :: acc) rest

/-- A string after its opening quote. -/
def string? (cs : List Char) : Option (String × List Char) :=
  match untilQuote? [] cs with
  | none => none
  | some (inner, rest) => (unescape? inner.length [] inner).map (String.ofList ·, rest)

/-- Longest run of decimal digits. -/
def digits (cs : List Char) : List Nat × List Char :=
  ((cs.takeWhile Char.isDigit).map (fun c => c.toNat - '0'.toNat), cs.dropWhile Char.isDigit)

/-- Append digits to a significand while it fits 64 bits; the number of digits taken and left. -/
def gather (significand : Nat) : List Nat → Nat × Nat × Nat
  | [] => (significand, 0, 0)
  | d :: ds =>
    if significand * 10 + d < Word.size then
      let (s, taken, left) := gather (significand * 10 + d) ds
      (s, taken + 1, left)
    else (significand, 0, ds.length + 1)

def natOf (ds : List Nat) : Nat := ds.foldl (fun n d => n * 10 + d) 0

/-- An optional point with at least one digit. -/
def fraction? : List Char → Option (Option (List Nat) × List Char)
  | '.' :: rest =>
    match digits rest with
    | ([], _) => none
    | (ds, rest') => some (some ds, rest')
  | cs => some (none, cs)

/-- An optional exponent with at least one digit. -/
def exponent? : List Char → Option (Option Int × List Char)
  | c :: rest =>
    if c == 'e' || c == 'E' then
      let (negative, rest) :=
        match rest with
        | '+' :: more => (false, more)
        | '-' :: more => (true, more)
        | _ => (false, rest)
      match digits rest with
      | ([], _) => none
      | (ds, rest') => some (some (if negative then -(natOf ds : Int) else natOf ds), rest')
    else some (none, c :: rest)
  | [] => some (none, [])

/-- The double of a literal: the first digits that fit 64 bits, scaled. -/
def double? (negative : Bool) (whole fraction : List Nat) (exponent : Int) : Option Number :=
  let (s, _, left) := gather 0 whole
  let (s, taken, _) := gather s fraction
  (Binary64.ofDecimal negative s ((left : Int) - taken + exponent)).map .float

/-- A plain integer literal. Out of the 64-bit ranges, and for a negative zero, it is a double. -/
def integer? (negative : Bool) (whole : List Nat) : Option Number :=
  let n := natOf whole
  if !negative && n < Word.size then some (.int n)
  else if negative && 0 < n && n ≤ Word.half then some (.int (-n))
  else double? negative whole [] 0

/-- A number literal after its sign. -/
def number? (negative : Bool) (cs : List Char) : Option (Number × List Char) := do
  let (whole, rest) := digits cs
  match whole with
  | [] => none
  | 0 :: _ :: _ => none
  | _ =>
    let (frac, rest) ← fraction? rest
    let (exp, rest) ← exponent? rest
    let n ← match frac, exp with
      | none, none => integer? negative whole
      | _, _ => double? negative whole (frac.getD []) (exp.getD 0)
    some (n, rest)

/-- The characters after a given word. -/
def after? : List Char → List Char → Option (List Char)
  | [], cs => some cs
  | _ :: _, [] => none
  | w :: ws, c :: cs => if w == c then after? ws cs else none

/-- One lexeme that starts with the given character. -/
def next? (c : Char) (rest : List Char) : Option (Lexeme × List Char) :=
  match c with
  | '{' => some (.openObject, rest)
  | '}' => some (.closeObject, rest)
  | '[' => some (.openArray, rest)
  | ']' => some (.closeArray, rest)
  | ':' => some (.colon, rest)
  | ',' => some (.comma, rest)
  | '"' => (string? rest).map fun (s, r) => (.scalar (.string s), r)
  | 'n' => (after? "ull".toList rest).map fun r => (.scalar .null, r)
  | 't' => (after? "rue".toList rest).map fun r => (.scalar (.bool true), r)
  | 'f' => (after? "alse".toList rest).map fun r => (.scalar (.bool false), r)
  | '-' => (number? true rest).map fun (n, r) => (.scalar (.number n), r)
  | c => if c.isDigit then (number? false (c :: rest)).map fun (n, r) => (.scalar (.number n), r)
    else none

end Lexeme

end DeclTree.Json
