import DeclTree.Json.Basic
import DeclTree.Number.Shortest

/-!
# Writing JSON

`compact` writes a value without blanks, `pretty` with two spaces a level. Both
put their characters in front of the text that follows, so a value is written
in one pass.
-/

namespace DeclTree

def Number.text : Number → String
  | .int n => toString n
  | .float x => x.text .json

namespace Json

def hexChar (n : Nat) : Char := (Nat.toDigits 16 n).getLastD '0'

/-- One character of a string: quote, backslash and control characters are escaped. -/
def charOnto (c : Char) (rest : List Char) : List Char :=
  match c with
  | '"' => '\\' :: '"' :: rest
  | '\\' => '\\' :: '\\' :: rest
  | '\x08' => '\\' :: 'b' :: rest
  | '\x0c' => '\\' :: 'f' :: rest
  | '\n' => '\\' :: 'n' :: rest
  | '\r' => '\\' :: 'r' :: rest
  | '\t' => '\\' :: 't' :: rest
  | c =>
    if c.toNat < 0x20 then
      '\\' :: 'u' :: '0' :: '0' :: hexChar (c.toNat / 16) :: hexChar (c.toNat % 16) :: rest
    else c :: rest

def stringOnto (s : String) (rest : List Char) : List Char :=
  '"' :: s.toList.foldr charOnto ('"' :: rest)

def wordOnto (word : String) (rest : List Char) : List Char := word.toList ++ rest

mutual

def compactOnto : Json → List Char → List Char
  | .null, rest => wordOnto "null" rest
  | .bool true, rest => wordOnto "true" rest
  | .bool false, rest => wordOnto "false" rest
  | .number n, rest => wordOnto n.text rest
  | .string s, rest => stringOnto s rest
  | .array items, rest => '[' :: itemsOnto true items (']' :: rest)
  | .object fields, rest => '{' :: fieldsOnto true fields ('}' :: rest)

/-- Items with a comma before each but the first. -/
def itemsOnto : Bool → List Json → List Char → List Char
  | _, [], rest => rest
  | first, v :: more, rest =>
    let tail := compactOnto v (itemsOnto false more rest)
    if first then tail else ',' :: tail

def fieldsOnto : Bool → List (String × Json) → List Char → List Char
  | _, [], rest => rest
  | first, (key, v) :: more, rest =>
    let tail := stringOnto key (':' :: compactOnto v (fieldsOnto false more rest))
    if first then tail else ',' :: tail

end

/-- The text without blanks. -/
def compact (v : Json) : String := String.ofList (compactOnto v [])

/-- A line break and two spaces for each level. -/
def lineOnto (level : Nat) (rest : List Char) : List Char :=
  '\n' :: (List.replicate (2 * level) ' ' ++ rest)

mutual

def prettyOnto (level : Nat) : Json → List Char → List Char
  | .array [], rest => '[' :: ']' :: rest
  | .array (v :: more), rest =>
    '[' :: lineOnto (level + 1) (prettyOnto (level + 1) v
      (prettyItemsOnto (level + 1) more (lineOnto level (']' :: rest))))
  | .object [], rest => '{' :: '}' :: rest
  | .object ((key, v) :: more), rest =>
    '{' :: lineOnto (level + 1) (stringOnto key (':' :: ' ' :: prettyOnto (level + 1) v
      (prettyFieldsOnto (level + 1) more (lineOnto level ('}' :: rest)))))
  | .null, rest => compactOnto .null rest
  | .bool b, rest => compactOnto (.bool b) rest
  | .number n, rest => compactOnto (.number n) rest
  | .string s, rest => compactOnto (.string s) rest

/-- Items after the first, each on a line of its own. -/
def prettyItemsOnto (level : Nat) : List Json → List Char → List Char
  | [], rest => rest
  | v :: more, rest =>
    ',' :: lineOnto level (prettyOnto level v (prettyItemsOnto level more rest))

def prettyFieldsOnto (level : Nat) : List (String × Json) → List Char → List Char
  | [], rest => rest
  | (key, v) :: more, rest =>
    ',' :: lineOnto level (stringOnto key (':' :: ' ' :: prettyOnto level v
      (prettyFieldsOnto level more rest)))

end

/-- The text with two spaces a level; empty containers stay on one line. -/
def pretty (v : Json) : String := String.ofList (prettyOnto 0 v [])

end Json

end DeclTree
