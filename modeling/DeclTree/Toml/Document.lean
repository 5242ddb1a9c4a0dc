import DeclTree.Toml.Scalar
import DeclTree.Toml.Table

/-!
# Reading a TOML document

A document is a sequence of lines: assignments, headers of tables and of arrays of
tables, comments. The table of the last header is held apart until the next
header or the end. Arrays and inline tables nest less than 80 deep, and so do
dotted keys.
-/

namespace DeclTree.Toml

open Settings (Value)

/-- Nesting and key length stay below this. -/
def nestingLimit : Nat := 80

def isBareKeyChar (c : Char) : Bool := c.isAlphanum || c == '_' || c == '-'

/-- The rest of a line comment. -/
def skipComment (cs : List Char) : List Char := cs.dropWhile isPrintable

/-- One part of a key. -/
def simpleKey? (cs : List Char) : Option (String × List Char) :=
  match cs with
  | '"' :: rest => basicString? rest
  | '\'' :: rest => literalString? [] rest
  | _ =>
    match cs.takeWhile isBareKeyChar with
    | [] => none
    | key => some (String.ofList key, cs.dropWhile isBareKeyChar)

/-- A dotted key as its parts; blanks may stand around the dots and after the key. -/
def key? : Nat → List Char → Option (List String × List Char)
  | 0, _ => none
  | fuel + 1, cs =>
    match simpleKey? (skipSpace cs) with
    | none => none
    | some (key, rest) =>
      match skipSpace rest with
      | '.' :: more => (key? fuel more).map fun (keys, rest') => (key :: keys, rest')
      | rest' => some ([key], rest')

/-- A key as the path to its table and its last part. -/
def splitKey (keys : List String) : List String × String :=
  (keys.dropLast, (keys.getLast?).getD "")

def keyPath? (cs : List Char) : Option ((List String × String) × List Char) :=
  match key? (cs.length + 1) cs with
  | some (keys, rest) => if keys.length < nestingLimit then some (splitKey keys, rest) else none
  | none => none

/-- Skip blanks, line breaks and comments between the items of an array. -/
def skipFiller : Nat → List Char → Option (List Char)
  | 0, cs => some cs
  | fuel + 1, cs =>
    match skipSpace cs with
    | '#' :: rest =>
      match lineBreak? (skipComment rest) with
      | some rest' => skipFiller fuel rest'
      | none => none
    | cs' =>
      match lineBreak? cs' with
      | some rest => skipFiller fuel rest
      | none => some cs'

mutual

def value? : Nat → Nat → List Char → Option (Value × List Char)
  | 0, _, _ => none
  | fuel + 1, depth, cs =>
    match cs with
    | '[' :: rest =>
      if depth + 1 < nestingLimit then
        (items? fuel (depth + 1) rest).map fun (vs, r) => (.list vs, r)
      else none
    | '\x7b' :: rest =>
      if depth + 1 < nestingLimit then
        match skipSpace rest with
        | '\x7d' :: r => some (.table [], r)
        | rest' =>
          (pairs? fuel (depth + 1) [] rest').map fun (entries, r) =>
            (.table (entriesValue entries), r)
      else none
    | '"' :: _ => (string? cs).map fun (s, r) => (.text s, r)
    | '\'' :: _ => (string? cs).map fun (s, r) => (.text s, r)
    | _ =>
      let (w, rest) := word cs
      (wordValue? w).map (·, rest)

/-- The items of an array after its bracket or a comma. -/
def items? : Nat → Nat → List Char → Option (List Value × List Char)
  | 0, _, _ => none
  | fuel + 1, depth, cs =>
    match skipFiller (cs.length + 1) cs with
    | none => none
    | some (']' :: rest) => some ([], rest)
    | some cs' =>
      match value? fuel depth cs' with
      | none => none
      | some (v, rest) =>
        match skipFiller (rest.length + 1) rest with
        | some (',' :: more) => (items? fuel depth more).map fun (vs, r) => (v :: vs, r)
        | some (']' :: more) => some ([v], more)
        | _ => none

/-- The assignments of an inline table after its brace or a comma. -/
def pairs? : Nat → Nat → Entries → List Char → Option (Entries × List Char)
  | 0, _, _, _ => none
  | fuel + 1, depth, entries, cs =>
    match keyPath? cs with
    | some ((path, key), '=' :: rest) =>
      match value? fuel depth (skipSpace rest) with
      | none => none
      | some (v, rest) =>
        match assign entries path key v with
        | none => none
        | some entries =>
          match skipSpace rest with
          | ',' :: more => pairs? fuel depth entries more
          | '\x7d' :: more => some (entries, more)
          | _ => none
    | _ => none

end

/-- The end of a line: blanks, a comment, a line break or the end of the text. -/
def lineEnd? (cs : List Char) : Option (List Char) :=
  let rest := match skipSpace cs with
    | '#' :: comment => skipComment comment
    | cs' => cs'
  match rest with
  | [] => some []
  | rest => lineBreak? rest

/-- The tables so far, and the one that is being filled. -/
structure Draft where
  root : Entries
  /-- path and last key of the header, and whether it heads an array of tables -/
  header : Option (List String × String × Bool)
  current : Entries

def Draft.start : Draft := ⟨[], none, []⟩

/-- Put the table that is being filled in its place. -/
def Draft.finish (d : Draft) : Option Entries :=
  match d.header with
  | none => some d.current
  | some (path, key, true) => appendTable d.root path key d.current
  | some (path, key, false) => putTable d.root path key d.current

def Draft.openTable (d : Draft) (path : List String) (key : String) : Option Draft := do
  let root ← d.finish
  let (root, current) ← takeTable root path key
  some ⟨root, some (path, key, false), current⟩

def Draft.openElement (d : Draft) (path : List String) (key : String) : Option Draft := do
  let root ← d.finish
  let root ← mayAppend root path key
  some ⟨root, some (path, key, true), []⟩

def Draft.put (d : Draft) (path : List String) (key : String) (v : Value) : Option Draft :=
  (assign d.current path key v).map fun current => { d with current := current }

/-- One line that is not blank, up to its end. -/
def line? (d : Draft) (cs : List Char) : Option (Draft × List Char) :=
  match cs with
  | '[' :: '[' :: rest => do
    let ((path, key), rest) ← keyPath? rest
    match rest with
    | ']' :: ']' :: rest => some (← d.openElement path key, rest)
    | _ => none
  | '[' :: rest => do
    let ((path, key), rest) ← keyPath? rest
    match rest with
    | ']' :: rest => some (← d.openTable path key, rest)
    | _ => none
  | _ => do
    let ((path, key), rest) ← keyPath? cs
    match rest with
    | '=' :: rest =>
      let (v, rest) ← value? (rest.length + 1) 0 (skipSpace rest)
      some (← d.put path key v, rest)
    | _ => none

def lines? : Nat → Draft → List Char → Option Entries
  | 0, _, _ => none
  | fuel + 1, d, cs =>
    match skipSpace cs with
    | [] => d.finish
    | '#' :: rest =>
      match lineEnd? ('#' :: rest) with
      | some rest' => lines? fuel d rest'
      | none => none
    | cs' =>
      match lineBreak? cs' with
      | some rest => lines? fuel d rest
      | none =>
        match line? d cs' with
        | none => none
        | some (d', rest) =>
          match lineEnd? rest with
          | some rest' => lines? fuel d' rest'
          | none => none

/-- A byte order mark may start the text. -/
def withoutMark : List Char → List Char
  | c :: rest => if c.toNat == 0xFEFF then rest else c :: rest
  | [] => []

/-- The entries of a document. -/
def read? (text : String) : Option (List (String × Value)) :=
  let cs := withoutMark text.toList
  (lines? (cs.length + 1) .start cs).map entriesValue

end DeclTree.Toml
