import DeclTree.Pattern.Mode
import DeclTree.Text.Hex

/-!
# Escapes in a pattern

A backslash stands before punctuation, a letter for a control character, hexadecimal
digits, a class of characters or a position. A word boundary is known only for bytes:
a pattern with one for code points cannot be turned into an automaton.
-/

namespace DeclTree.Pattern

/-- What an escape stands for. -/
inductive Escape where
  | literal (c : Char)
  /-- a class of characters -/
  | several
  /-- a position in the text -/
  | position

/-- Escape letters of single characters. -/
def controls : List (Char × Char) :=
  [('a', '\x07'), ('f', '\x0c'), ('t', '\t'), ('n', '\n'), ('r', '\r'), ('v', '\x0b')]

/-- Punctuation that may follow a backslash. -/
def isMark (c : Char) : Bool := c.toNat < 0x80 && !c.isAlphanum && c != '<' && c != '>'

/-- The general categories with a name of one letter. -/
def isCategory (c : Char) : Bool := "LMNPSZC".toList.contains c.toUpper

/-- Numbers of digits after the letters of code points. -/
def digitCounts : List (Char × Nat) := [('x', 2), ('u', 4), ('U', 8)]

/-- A number of hexadecimal digits. -/
def hexDigits? (m : Mode) : Nat → List Char → Option (List Char × List Char)
  | 0, cs => some ([], cs)
  | n + 1, cs =>
    match m.skip cs with
    | [] => none
    | c :: rest => (hexDigits? m n rest).map fun (ds, r) => (c :: ds, r)

/-- A character by its code point. Two digits write a byte where characters are bytes. -/
def codePoint? (m : Mode) (count : Nat) (cs : List Char) : Option (Escape × List Char) :=
  match hexDigits? m count cs with
  | none => none
  | some (ds, rest) =>
    match Text.codePoint? count ds with
    | some (c, _) =>
      if count == 2 && !m.unicode && c.toNat ≥ 0x80 then none else some (.literal c, rest)
    | none => none

/-- A general category after `\p`. -/
def category? (m : Mode) (cs : List Char) : Option (Escape × List Char) :=
  match m.skip cs with
  | c :: rest => if m.unicode && isCategory c then some (.several, rest) else none
  | [] => none

/-- An escape after its backslash. -/
def escape? (m : Mode) : List Char → Option (Escape × List Char)
  | [] => none
  | c :: rest =>
    match digitCounts.find? (·.1 == c), controls.find? (·.1 == c) with
    | some (_, count), _ => codePoint? m count rest
    | none, some (_, d) => some (.literal d, rest)
    | none, none =>
      if c == 'p' || c == 'P' then category? m rest
      else if "dsw".toList.contains c then some (.several, rest)
      else if "DSW".toList.contains c then if m.unicode then some (.several, rest) else none
      else if c == 'A' || c == 'z' then some (.position, rest)
      else if "bB<>".toList.contains c then if m.unicode then none else some (.position, rest)
      else if isMark c then some (.literal c, rest)
      else none

end DeclTree.Pattern
