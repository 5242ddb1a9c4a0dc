import DeclTree.Json.Writer
import DeclTree.Normal

/-!
# Source text of a normal node

Types and expressions are written back as source text. `forms` says for each
kind how its text is made from the texts of its parts; a node of any other kind
is its own text or, without one, the name of its kind.

The texts of the parts are computed first, so printing recurses on the node.
-/

namespace DeclTree

/-- A node with its text and, for a sequence, the texts of its items. -/
structure Printed where
  node : Normal
  text : String
  items : List String

namespace SourceText

/-- A piece of the text of a node. -/
inductive Piece where
  /-- fixed text -/
  | word (s : String)
  /-- the text of a part, empty when it is absent -/
  | part (key : String)
  /-- fixed text and the text of a part, only when it is present -/
  | led (lead key : String)
  /-- fixed text, only when a part is present -/
  | mark (key s : String)
  /-- the items of a part with a separator -/
  | list (key sep : String)
  /-- the items of a part in angle brackets, unless there are none -/
  | angled (key : String)
  /-- the items of a part in braces -/
  | braced (key : String)
  /-- the keyword that a part names -/
  | operator (key : String)

/-- How the text of a node is made. -/
inductive Form where
  | keyword (s : String)
  /-- its own text -/
  | own
  /-- its own text in double quotes -/
  | quoted
  /-- a name or an expression with type arguments -/
  | reference
  /-- an element type with `[]` -/
  | array
  | pieces (ps : List Piece)

/-- Kinds whose text is one word. -/
def keywords : List (String × String) := [
  ("AnyKeyword", "any"), ("UnknownKeyword", "unknown"), ("NumberKeyword", "number"),
  ("BigIntKeyword", "bigint"), ("ObjectKeyword", "object"), ("BooleanKeyword", "boolean"),
  ("StringKeyword", "string"), ("SymbolKeyword", "symbol"), ("VoidKeyword", "void"),
  ("UndefinedKeyword", "undefined"), ("NeverKeyword", "never"),
  ("IntrinsicKeyword", "intrinsic"), ("TrueKeyword", "true"), ("FalseKeyword", "false"),
  ("NullKeyword", "null"), ("ThisKeyword", "this"), ("ThisType", "this"),
  ("SuperKeyword", "super"), ("KeyOfKeyword", "keyof"), ("UniqueKeyword", "unique"),
  ("ReadonlyKeyword", "readonly")]

def keyword? (kind : String) : Option String := Ordered.get? keywords kind

/-- A name, a question mark when optional, and a type. -/
def member : Form :=
  .pieces [.part "name", .mark "questionToken" "?", .led ": " "type"]

def method : Form :=
  .pieces [.part "name", .mark "questionToken" "?", .word "(", .list "parameters" ", ",
    .word ")", .led ": " "type"]

/-- Kinds with a text made of parts. -/
def compound : List (String × Form) := [
  ("Identifier", .own),
  ("PrivateIdentifier", .own),
  ("NumericLiteral", .own),
  ("BigIntLiteral", .own),
  ("RegularExpressionLiteral", .own),
  ("StringLiteral", .quoted),
  ("NoSubstitutionTemplateLiteral", .quoted),
  ("TypeReference", .reference),
  ("ExpressionWithTypeArguments", .reference),
  ("QualifiedName", .pieces [.part "left", .word ".", .part "right"]),
  ("PropertyAccessExpression", .pieces [.part "expression", .word ".", .part "name"]),
  ("ElementAccessExpression",
    .pieces [.part "expression", .word "[", .part "argumentExpression", .word "]"]),
  ("ArrayType", .array),
  ("UnionType", .pieces [.list "types" " | "]),
  ("IntersectionType", .pieces [.list "types" " & "]),
  ("ParenthesizedType", .pieces [.word "(", .part "type", .word ")"]),
  ("ParenthesizedExpression", .pieces [.word "(", .part "expression", .word ")"]),
  ("LiteralType", .pieces [.part "literal"]),
  ("TupleType", .pieces [.word "[", .list "elements" ", ", .word "]"]),
  ("OptionalType", .pieces [.part "type", .word "?"]),
  ("RestType", .pieces [.word "...", .part "type"]),
  ("TypeLiteral", .pieces [.braced "members"]),
  ("TypeOperator", .pieces [.operator "operator", .word " ", .part "type"]),
  ("IndexedAccessType", .pieces [.part "objectType", .word "[", .part "indexType", .word "]"]),
  ("TypeQuery", .pieces [.word "typeof ", .part "exprName"]),
  ("FunctionType",
    .pieces [.angled "typeParameters", .word "(", .list "parameters" ", ", .word ") => ",
      .part "type"]),
  ("ConstructorType",
    .pieces [.word "new ", .angled "typeParameters", .word "(", .list "parameters" ", ",
      .word ") => ", .part "type"]),
  ("Parameter",
    .pieces [.mark "dotDotDotToken" "...", .part "name", .mark "questionToken" "?",
      .led ": " "type"]),
  ("TypeParameter",
    .pieces [.part "name", .led " extends " "constraint", .led " = " "default"]),
  ("VariableDeclaration", member),
  ("PropertySignature", member),
  ("PropertyDeclaration", member),
  ("MethodSignature", method),
  ("MethodDeclaration", method),
  ("CallSignature",
    .pieces [.word "(", .list "parameters" ", ", .word ")", .led ": " "type"]),
  ("ConstructSignature",
    .pieces [.word "new (", .list "parameters" ", ", .word ")", .led ": " "type"]),
  ("CallExpression",
    .pieces [.part "expression", .angled "typeArguments", .word "(", .list "arguments" ", ",
      .word ")"]),
  ("NewExpression",
    .pieces [.word "new ", .part "expression", .angled "typeArguments", .word "(",
      .list "arguments" ", ", .word ")"]),
  ("ComputedPropertyName", .pieces [.word "[", .part "expression", .word "]"])]

def form? (kind : String) : Option Form :=
  match keyword? kind with
  | some s => some (.keyword s)
  | none => Ordered.get? compound kind

/-- Types that bind looser than `[]` after them. -/
def looseKinds : List String :=
  ["UnionType", "IntersectionType", "FunctionType", "ConstructorType"]

def needsParens (element : Normal) : Bool :=
  match element.kindName? with
  | some kind => looseKinds.contains kind
  | none => false

/-- Quotes and backslashes are written after a backslash. -/
def quote (s : String) : String :=
  let escape (c : Char) : List Char := if c == '"' || c == '\\' then ['\\', c] else [c]
  "\"" ++ String.ofList (s.toList.flatMap escape) ++ "\""

abbrev Parts := List (String × Printed)

namespace Parts

/-- A part that is present and not null. -/
def get? (parts : Parts) (key : String) : Option Printed :=
  (Ordered.get? parts key).filter (!·.node.isNull)

def text (parts : Parts) (key : String) : String :=
  match get? parts key with
  | some p => p.text
  | none => ""

def items (parts : Parts) (key : String) : List String :=
  match get? parts key with
  | some p => p.items
  | none => []

end Parts

def pieceText (parts : Parts) : Piece → String
  | .word s => s
  | .part key => Parts.text parts key
  | .led lead key => if (Parts.get? parts key).isSome then lead ++ Parts.text parts key else ""
  | .mark key s => if (Parts.get? parts key).isSome then s else ""
  | .list key sep => sep.intercalate (Parts.items parts key)
  | .angled key =>
    match Parts.items parts key with
    | [] => ""
    | texts => "<" ++ ", ".intercalate texts ++ ">"
  | .braced key =>
    match Parts.items parts key with
    | [] => "\x7b\x7d"
    | texts => "\x7b " ++ "; ".intercalate texts ++ " \x7d"
  | .operator key =>
    match (Parts.get? parts key).bind (·.node.string?) with
    | some kind => (keyword? kind).getD ""
    | none => ""

/-- The text of a node of a kind without a form. -/
def plainText (node : Normal) (kind : String) : String := (node.text?).getD kind

/-- The text of a mapping, from the texts of its parts. -/
def mappingText (node : Normal) (parts : Parts) : String :=
  let kind := (node.kindName?).getD ""
  match form? kind with
  | some (.keyword s) => s
  | some .own => (node.text?).getD ""
  | some .quoted => quote ((node.text?).getD "")
  | some .reference =>
    match (Parts.get? parts "typeName").or (Parts.get? parts "expression") with
    | some target => target.text ++ pieceText parts (.angled "typeArguments")
    | none => plainText node kind
  | some .array =>
    match Parts.get? parts "elementType" with
    | some element =>
      if needsParens element.node then "(" ++ element.text ++ ")[]" else element.text ++ "[]"
    | none => plainText node kind
  | some (.pieces ps) => String.join (ps.map (pieceText parts))
  | none => plainText node kind

def scalarText : Scalar → String
  | .null => "null"
  | .bool true => "true"
  | .bool false => "false"
  | .number n => n.text
  | .string s => s

mutual

def print : Normal → Printed
  | .scalar s => ⟨.scalar s, scalarText s, []⟩
  | .sequence items =>
    let texts := printAll items
    ⟨.sequence items, ", ".intercalate texts, texts⟩
  | .mapping fields => ⟨.mapping fields, mappingText (.mapping fields) (printFields fields), []⟩

def printAll : List Normal → List String
  | [] => []
  | n :: rest => (print n).text :: printAll rest

def printFields : List (String × Normal) → Parts
  | [] => []
  | (key, n) :: rest => (key, print n) :: printFields rest

end

end SourceText

/-- The source text of a node. -/
def Normal.sourceText (n : Normal) : String := (SourceText.print n).text

end DeclTree
