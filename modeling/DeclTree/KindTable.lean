import DeclTree.Json.Reader
import DeclTree.Json.Writer
import DeclTree.Kind
import DeclTree.Text.Uppercase

/-!
# Kind tables

Some producers write the kind of a node as a number. A kind table gives the
numbers names. It is read from an object whose usable entries map a name to an
integer or a decimal key to a name. For each number the first proper name in
document order counts; a range marker such as `FirstToken` or `LastToken` only
serves when the number has no proper name.

Kinds that are strings need no table. A number without a name reads as
`SyntaxKind(n)`.
-/

namespace DeclTree

structure KindTable where
  names : List (Int × String)
  deriving DecidableEq, Repr

namespace KindTable

inductive Error where
  | notObject
  | noEntries
  | malformedJson
  | unreadable
  deriving DecidableEq, Repr

def Error.message : Error → String
  | .notObject => "Invalid kind table: expected a JSON object mapping kind names to numbers"
  | .noEntries => "Invalid kind table: table contains no kind entries"
  | .malformedJson => "JSON error"
  | .unreadable => "IO error"

def empty : KindTable := ⟨[]⟩

def size (t : KindTable) : Nat := t.names.length

def isEmpty (t : KindTable) : Bool := t.names.isEmpty

def nameOf? (t : KindTable) (n : Int) : Option String := Ordered.get? t.names n

def insert (t : KindTable) (n : Int) (name : String) : KindTable := ⟨Ordered.put t.names n name⟩

/-- An optional sign and decimal digits, in the range of 64 signed bits. -/
def integerKey? (s : String) : Option Int :=
  let (negative, ds) :=
    match s.toList with
    | '-' :: rest => (true, rest)
    | '+' :: rest => (false, rest)
    | cs => (false, cs)
  if ds.isEmpty || !ds.all Char.isDigit then none
  else
    let n : Int := Json.Lexeme.natOf (ds.map fun c => c.toNat - '0'.toNat)
    (Number.int (if negative then -n else n)).signed?

/-- The number and the name that an entry of a table document gives, if it is usable. -/
def entry? : String × Json → Option (Int × String)
  | (key, .number n) => n.signed?.map (·, key)
  | (key, .string name) => (integerKey? key).map (·, name)
  | _ => none

/-- `First` or `Last` followed by an upper-case character. -/
def isRangeMarker (name : String) : Bool :=
  let marked (word : String) : Bool :=
    match Json.Lexeme.after? word.toList name.toList with
    | some (c :: _) => Text.isUppercase c
    | _ => false
  marked "First" || marked "Last"

/-- Give a number a name unless it has one. -/
def insertNew (names : List (Int × String)) (entry : Int × String) : List (Int × String) :=
  if (Ordered.get? names entry.1).isSome then names else names ++ [entry]

/-- The table of usable entries in document order. -/
def ofEntries (entries : List (Int × String)) : KindTable :=
  let proper := entries.filter (!isRangeMarker ·.2)
  let markers := entries.filter (isRangeMarker ·.2)
  ⟨markers.foldl insertNew (proper.foldl insertNew [])⟩

def ofJson (v : Json) : Except Error KindTable :=
  match v with
  | .object fields =>
    let table := ofEntries (fields.filterMap entry?)
    if table.isEmpty then .error .noEntries else .ok table
  | _ => .error .notObject

/-- Containers in the text of a table nest at most this deep. -/
def maxNesting : Nat := 127

def ofText (text : String) : Except Error KindTable :=
  match Json.readWithin (some maxNesting) text with
  | some v => ofJson v
  | none => .error .malformedJson

/-- The text of a kind number without a name. -/
def unnamed (n : Number) : String := "SyntaxKind(" ++ n.text ++ ")"

def numberName (t : KindTable) (n : Number) : String :=
  ((n.signed?).bind t.nameOf?).getD (unnamed n)

/-- The canonical name of a kind that is a string or a number. -/
def kindName? (t : KindTable) : Json → Option String
  | .string s => some s
  | .number n => some (t.numberName n)
  | _ => none

/-- The kind of a node, from its `kind` field. -/
def classify (t : KindTable) : Option Json → Kind
  | some (.string s) => .ofName s
  | some (.number n) =>
    match (n.signed?).bind t.nameOf? with
    | some name => .ofName name
    | none => .other (unnamed n)
  | some v => .other v.compact
  | none => .other "<missing kind>"

end KindTable

end DeclTree
