import DeclTree.Number.Binary64
import DeclTree.Json.Lexeme
import DeclTree.Settings.Value

/-!
# Scalars of a TOML document

Strings of the four kinds, integers in four bases, floats, booleans and dates.
Readers return the value and the characters after it.
-/

namespace DeclTree.Toml

open Text (hexDigit? codePoint?)
open Settings (Value)

def isSpace (c : Char) : Bool := c == ' ' || c == '\t'

def skipSpace (cs : List Char) : List Char := cs.dropWhile isSpace

/-- The characters after a line break. -/
def lineBreak? : List Char → Option (List Char)
  | '\n' :: rest => some rest
  | '\r' :: '\n' :: rest => some rest
  | _ => none

/-- A tab, or anything that is neither a control character nor a delete. -/
def isPrintable (c : Char) : Bool := c == '\t' || (0x20 ≤ c.toNat && c.toNat != 0x7f)

def digitValue (c : Char) : Nat := (hexDigit? c).getD 0

/-- The character of an escape whose backslash has been read. -/
def escape? : List Char → Option (Char × List Char)
  | 'b' :: rest => some ('\x08', rest)
  | 't' :: rest => some ('\t', rest)
  | 'n' :: rest => some ('\n', rest)
  | 'f' :: rest => some ('\x0c', rest)
  | 'r' :: rest => some ('\r', rest)
  | '"' :: rest => some ('"', rest)
  | '\\' :: rest => some ('\\', rest)
  | 'u' :: rest => codePoint? 4 rest
  | 'U' :: rest => codePoint? 8 rest
  | _ => none

/-- The characters that the inside of a string stands for, after those of `acc`, which are held
last first. Each step takes at least one character. -/
def unescape? : Nat → List Char → List Char → Option (List Char)
  | _, acc, [] => some acc.reverse
  | 0, _, _ :: _ => none
  | steps + 1, acc, c :: rest =>
    if c == '\\' then
      match escape? rest with
      | some (d, rest') => unescape? steps (d :: acc) rest'
      | none => none
    else if isPrintable c then unescape? steps (c :: acc) rest
    else none

/-- The rest of a string in double quotes on one line. -/
def basicString? (cs : List Char) : Option (String × List Char) :=
  match Json.Lexeme.untilQuote? [] cs with
  | none => none
  | some (inner, rest) => (unescape? inner.length [] inner).map (String.ofList ·, rest)

/-- The rest of a string in single quotes on one line. -/
def literalString? : List Char → List Char → Option (String × List Char)
  | _, [] => none
  | acc, c :: rest =>
    if c == '\'' then some (String.ofList acc.reverse, rest)
    else if isPrintable c then literalString? (c :: acc) rest
    else none

/-- Skip blanks and line breaks; a carriage return alone is none. -/
def skipBlankLines : List Char → List Char
  | '\r' :: '\n' :: rest => skipBlankLines rest
  | c :: rest => if isSpace c || c == '\n' then skipBlankLines rest else c :: rest
  | [] => []

/-- A backslash at the end of a line swallows the blanks and line breaks after it. -/
def foldedLine? (cs : List Char) : Option (List Char) :=
  (lineBreak? (skipSpace cs)).map skipBlankLines

/-- The end of a string of several lines: three to five quotes, of which up to two belong to the
string. -/
def closing? (quote : Char) (acc cs : List Char) : Option (String × List Char) :=
  let run := (cs.takeWhile (· == quote)).length
  if run < 3 then none
  else
    let count := min run 5
    some (String.ofList (List.replicate (count - 3) quote ++ acc).reverse, cs.drop count)

/-- The rest of a string of several lines. Escapes only count between double quotes. -/
def longString? (quote : Char) : Nat → List Char → List Char → Option (String × List Char)
  | 0, _, _ => none
  | _ + 1, _, [] => none
  | fuel + 1, acc, c :: rest =>
    match closing? quote acc (c :: rest) with
    | some done => some done
    | none =>
      match lineBreak? (c :: rest) with
      | some rest' => longString? quote fuel ('\n' :: acc) rest'
      | none =>
        if c == '\\' && quote == '"' then
          match foldedLine? rest with
          | some rest' => longString? quote fuel acc rest'
          | none =>
            match escape? rest with
            | some (d, rest') => longString? quote fuel (d :: acc) rest'
            | none => none
        else if isPrintable c then longString? quote fuel (c :: acc) rest
        else none

/-- A line break right after the opening quotes does not belong to the string. -/
def afterOpening (cs : List Char) : List Char := (lineBreak? cs).getD cs

def string? (cs : List Char) : Option (String × List Char) :=
  match cs with
  | '"' :: '"' :: '"' :: rest => longString? '"' (rest.length + 1) [] (afterOpening rest)
  | '\'' :: '\'' :: '\'' :: rest => longString? '\'' (rest.length + 1) [] (afterOpening rest)
  | '"' :: rest => basicString? rest
  | '\'' :: rest => literalString? [] rest
  | _ => none

/-- Digits of a class with single underscores between them. -/
def grouped (isDigit : Char → Bool) : List Char → Bool
  | [] => false
  | [c] => isDigit c
  | c :: '_' :: d :: rest => isDigit c && grouped isDigit (d :: rest)
  | c :: d :: rest => isDigit c && grouped isDigit (d :: rest)

def isHex (c : Char) : Bool := (hexDigit? c).isSome

def isOctal (c : Char) : Bool := '0' ≤ c && c ≤ '7'

def isBinary (c : Char) : Bool := c == '0' || c == '1'

def withBase (base : Nat) (cs : List Char) : Nat :=
  (cs.filter (· != '_')).foldl (fun n c => n * base + digitValue c) 0

/-- The sign and what follows it. -/
def signOf : List Char → Bool × List Char
  | '-' :: rest => (true, rest)
  | '+' :: rest => (false, rest)
  | cs => (false, cs)

/-- Decimal digits without a leading zero. -/
def isDecimal (cs : List Char) : Bool :=
  match cs with
  | '0' :: _ :: _ => false
  | cs => grouped Char.isDigit cs

def inRange (n : Int) : Option Value := (Value.signed? (.integer n)).map .integer

/-- Whether `digits * 10 ^ exponent` reads as infinite. -/
def overflows (digits : Nat) (exponent : Int) : Bool :=
  let places : Int := (Nat.toDigits 10 digits).length + exponent
  if digits == 0 || places < 0 then false
  else if places > 400 then true
  else (Binary64.ofRatio false (digits * .pow 10 exponent.toNat) (.pow 10 (-exponent).toNat)).isNone

/-- A decimal integer with a fraction, an exponent or both. Only positive overflow is refused. -/
def float? (negative : Bool) (cs : List Char) : Option Value :=
  let isMark (c : Char) : Bool := c == 'e' || c == 'E'
  let mantissa := cs.takeWhile (!isMark ·)
  let tail := cs.dropWhile (!isMark ·)
  let whole := mantissa.takeWhile (· != '.')
  let frac := mantissa.dropWhile (· != '.')
  let exp := (signOf (tail.drop 1)).2
  let fracOk := match frac with
    | [] => !tail.isEmpty
    | _ :: ds => grouped Char.isDigit ds
  let expOk := tail.isEmpty || grouped Char.isDigit exp
  if isDecimal whole && fracOk && expOk then
    let e : Int := withBase 10 exp
    let scale := (if (signOf (tail.drop 1)).1 then -e else e) -
      ((frac.drop 1).filter (· != '_')).length
    let digits := withBase 10 (whole ++ frac.drop 1)
    if !negative && overflows digits scale then none else some .fraction
  else none

/-- Two digits within bounds. -/
def two? (low high : Nat) : List Char → Option (Nat × List Char)
  | a :: b :: rest =>
    if a.isDigit && b.isDigit then
      let n := digitValue a * 10 + digitValue b
      if low ≤ n && n ≤ high then some (n, rest) else none
    else none
  | _ => none

def expect? (c : Char) : List Char → Option (List Char)
  | d :: rest => if c == d then some rest else none
  | [] => none

def daysIn (year month : Nat) : Nat :=
  let leap := year % 4 == 0 && (year % 100 != 0 || year % 400 == 0)
  match month with
  | 2 => if leap then 29 else 28
  | 4 => 30
  | 6 => 30
  | 9 => 30
  | 11 => 30
  | _ => 31

/-- `1979-05-27` -/
def date? (cs : List Char) : Option (List Char) := do
  let (century, cs) ← two? 0 99 cs
  let (year, cs) ← two? 0 99 cs
  let cs ← expect? '-' cs
  let (month, cs) ← two? 1 12 cs
  let cs ← expect? '-' cs
  let (day, cs) ← two? 1 31 cs
  if day ≤ daysIn (century * 100 + year) month then some cs else none

/-- `07:32:00.999` -/
def time? (cs : List Char) : Option (List Char) := do
  let (_, cs) ← two? 0 23 cs
  let cs ← expect? ':' cs
  let (_, cs) ← two? 0 59 cs
  let cs ← expect? ':' cs
  let (_, cs) ← two? 0 60 cs
  match cs with
  | '.' :: rest =>
    if (rest.takeWhile Char.isDigit).isEmpty then none else some (rest.dropWhile Char.isDigit)
  | _ => some cs

/-- `Z` or `+01:00`; nothing is an offset too. -/
def offset? : List Char → Option (List Char)
  | 'Z' :: rest => some rest
  | 'z' :: rest => some rest
  | '+' :: rest => clock rest
  | '-' :: rest => clock rest
  | cs => some cs
where
  clock (cs : List Char) : Option (List Char) := do
    let (_, cs) ← two? 0 23 cs
    let cs ← expect? ':' cs
    let (_, cs) ← two? 0 59 cs
    some cs

/-- Whether a word is a date, a time, or a date with a time. -/
def isMoment (cs : List Char) : Bool :=
  match date? cs with
  | some [] => true
  | some (t :: rest) =>
    (t == 'T' || t == 't' || t == ' ') && ((time? rest).bind offset?) == some []
  | none => time? cs == some []

/-- A date or time takes the form of a table with one private key. -/
def moment (cs : List Char) : Value := .table [("$datetime", .text (String.ofList cs))]

def isWordChar (c : Char) : Bool :=
  c.isAlphanum || c == '_' || c == '+' || c == '-' || c == '.' || c == ':'

/-- A word up to the next character that no number, boolean or date can hold. A date and a time
may have a space between them. -/
def word (cs : List Char) : List Char × List Char :=
  let first := cs.takeWhile isWordChar
  let rest := cs.dropWhile isWordChar
  match date? first, rest with
  | some [], ' ' :: more =>
    let second := more.takeWhile isWordChar
    if (time? second).isSome then (first ++ ' ' :: second, more.dropWhile isWordChar)
    else (first, rest)
  | _, _ => (first, rest)

/-- The value of a word. -/
def wordValue? (cs : List Char) : Option Value :=
  let (negative, body) := signOf cs
  if cs == "true".toList then some (.flag true)
  else if cs == "false".toList then some (.flag false)
  else if body == "inf".toList || body == "nan".toList then some .fraction
  else if isDecimal body then
    let n : Int := withBase 10 body
    inRange (if negative then -n else n)
  else if isMoment cs then some (moment cs)
  else
    match cs with
    | '0' :: 'x' :: ds => if grouped isHex ds then inRange (withBase 16 ds) else none
    | '0' :: 'o' :: ds => if grouped isOctal ds then inRange (withBase 8 ds) else none
    | '0' :: 'b' :: ds => if grouped isBinary ds then inRange (withBase 2 ds) else none
    | _ => float? negative body

end DeclTree.Toml
