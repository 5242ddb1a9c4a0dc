import DeclTree.Cst
import DeclTree.Event
import DeclTree.Text.Blank

/-!
# Nodes built from a concrete tree

A draft is a node under construction. It starts with kind, start and stop; later
fields keep the order in which they are first written. `Readings` are the three
ways to read a concrete node: as a type, as an expression and as a statement that
takes modifiers from the declarations around it.
-/

namespace DeclTree.Lower

/-- A lowered node and what was reported on the way to it. -/
structure Lowered where
  node : Json
  events : List Event

/-- The readings of a concrete node. A statement may come to nothing. -/
structure Readings where
  type : Json
  expression : Json
  statement : List String → Option Lowered

/-- A concrete node whose descendants have been read. -/
abbrev Part := Cst.Tree Readings

/-- A concrete node about to be read. -/
abbrev Source := Cst.Head Readings

structure Draft where
  fields : List (String × Json)

/-- A keyword or punctuation mark, without a position. -/
def token (kind : String) : Json := .object [("kind", .string kind)]

namespace Draft

def new (kind : String) (info : Cst.Info) : Draft :=
  ⟨[("kind", .string kind), ("pos", .ofNat info.start), ("end", .ofNat info.stop)]⟩

def put (d : Draft) (key : String) (v : Json) : Draft := ⟨Ordered.put d.fields key v⟩

def put? (d : Draft) (key : String) : Option Json → Draft
  | some v => d.put key v
  | none => d

def putText (d : Draft) (text : String) : Draft := d.put "text" (.string text)

def putItems (d : Draft) (key : String) (items : List Json) : Draft := d.put key (.array items)

/-- A sequence that is left out when empty. -/
def putSome (d : Draft) (key : String) (items : List Json) : Draft :=
  if items.isEmpty then d else d.putItems key items

def modifiers (d : Draft) (kinds : List String) : Draft :=
  d.putSome "modifiers" (kinds.map token)

/-- A mark that is present only when `on`. -/
def mark (d : Draft) (key kind : String) (on : Bool) : Draft :=
  if on then d.put key (token kind) else d

def optional (d : Draft) (on : Bool) : Draft := d.mark "questionToken" "QuestionToken" on

def build (d : Draft) : Json := .object d.fields

end Draft

/-- An identifier with a given text at the place of a node. -/
def identifierNamed (info : Cst.Info) (text : String) : Json :=
  ((Draft.new "Identifier" info).putText text).build

def identifier (info : Cst.Info) : Json := identifierNamed info info.text

/-- The text between quotes of one kind at both ends; any other text as it stands. -/
def unquote (s : String) : String :=
  match s.toList with
  | q :: rest =>
    if (q == '"' || q == '\'' || q == Char.ofNat 0x60) && rest.getLast? == some q then
      String.ofList rest.dropLast
    else s
  | [] => s

def stringLiteral (info : Cst.Info) : Json :=
  ((Draft.new "StringLiteral" info).putText (unquote info.text)).build

/-- The trimmed segments of a dotted name. -/
def segments (text : String) : List String := (Text.split '.' text).map Text.trim

/-- A text without dots and without white space at its ends. -/
def IsSegment (s : String) : Prop := '.' ∉ s.toList ∧ Text.trim s = s

instance (s : String) : Decidable (IsSegment s) := inferInstanceAs (Decidable (_ ∧ _))

/-- The segments of a name are those that were joined. -/
theorem segments_intercalate {names : List String} (hne : names ≠ [])
    (h : ∀ s ∈ names, IsSegment s) : segments (".".intercalate names) = names := by
  have hsplit : Text.split '.' (".".intercalate names) = names :=
    Text.split_intercalate rfl hne fun s hs => (h s hs).1
  have htrim : ∀ s ∈ names, Text.trim s = id s := fun s hs => (h s hs).2
  rw [segments, hsplit, List.map_congr_left htrim, List.map_id]

/-- A dotted name, nested to the left. -/
def entityName (info : Cst.Info) : Json :=
  match segments info.text with
  | [] => identifierNamed info ""
  | first :: rest =>
    rest.foldl
      (fun left right =>
        (((Draft.new "QualifiedName" info).put "left" left).put "right"
          (identifierNamed info right)).build)
      (identifierNamed info first)

/-- Kinds whose compiler name is not their own name in another spelling. -/
def renamed : List (String × String) := [
  ("ERROR", "Unknown"),
  ("statement_block", "Block"),
  ("ternary_expression", "ConditionalExpression"),
  ("unary_expression", "PrefixUnaryExpression"),
  ("update_expression", "PostfixUnaryExpression"),
  ("assignment_expression", "BinaryExpression"),
  ("augmented_assignment_expression", "BinaryExpression"),
  ("function_expression", "FunctionExpression"),
  ("function", "FunctionExpression"),
  ("class", "ClassExpression"),
  ("object", "ObjectLiteralExpression"),
  ("array", "ArrayLiteralExpression"),
  ("template_string", "TemplateExpression"),
  ("object_pattern", "ObjectBindingPattern"),
  ("array_pattern", "ArrayBindingPattern"),
  ("export_clause", "NamedExports"),
  ("type_assertion", "TypeAssertionExpression"),
  ("instantiation_expression", "ExpressionWithTypeArguments"),
  ("existential_type", "JSDocAllType")]

/-- `some_kind` as `SomeKind`. Grammar kinds are ASCII. -/
def pascalCase (kind : String) : String :=
  let capital : List Char → List Char
    | [] => []
    | c :: cs => c.toUpper :: cs
  String.ofList ((Text.splitChars '_' kind.toList).flatMap capital)

/-- The compiler's name for a grammar kind. -/
def compilerKind (kind : String) : String := (Ordered.get? renamed kind).getD (pascalCase kind)

/-- A node whose inner structure is not kept: its kind and its text. -/
def textOnly (info : Cst.Info) : Json :=
  ((Draft.new (compilerKind info.kind) info).putText info.text).build

end DeclTree.Lower
