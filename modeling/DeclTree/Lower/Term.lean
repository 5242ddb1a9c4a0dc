import DeclTree.Lower.Draft

/-!
# Types, expressions and signatures

How a concrete node reads as a type and as an expression, and the parts of
signatures made of them: parameters, type parameters, members. `typeForms` and
`expressionForms` list the kinds with a structure of their own; any other node
keeps only its text.
-/

namespace DeclTree.Lower

inductive TypeForm where
  /-- a predefined type -/
  | keyword
  | name
  | dottedName
  | generic
  | array
  /-- a flat list of operands -/
  | operands (kind : String)
  /-- one type inside another -/
  | wrapped (kind : String)
  | literal
  | tuple
  | object
  | function
  | constructor
  | query
  | operator (kind : String)
  | lookup
  | self

def typeForms : List (String × TypeForm) := [
  ("predefined_type", .keyword),
  ("type_identifier", .name),
  ("identifier", .name),
  ("nested_type_identifier", .dottedName),
  ("generic_type", .generic),
  ("array_type", .array),
  ("union_type", .operands "UnionType"),
  ("intersection_type", .operands "IntersectionType"),
  ("parenthesized_type", .wrapped "ParenthesizedType"),
  ("optional_type", .wrapped "OptionalType"),
  ("rest_type", .wrapped "RestType"),
  ("literal_type", .literal),
  ("tuple_type", .tuple),
  ("object_type", .object),
  ("function_type", .function),
  ("constructor_type", .constructor),
  ("type_query", .query),
  ("index_type_query", .operator "KeyOfKeyword"),
  ("readonly_type", .operator "ReadonlyKeyword"),
  ("lookup_type", .lookup),
  ("this_type", .self),
  ("this", .self)]

/-- Predefined types and the kinds of their nodes. -/
def predefined : List (String × String) := [
  ("any", "AnyKeyword"), ("unknown", "UnknownKeyword"), ("number", "NumberKeyword"),
  ("bigint", "BigIntKeyword"), ("object", "ObjectKeyword"), ("boolean", "BooleanKeyword"),
  ("string", "StringKeyword"), ("symbol", "SymbolKeyword"), ("void", "VoidKeyword"),
  ("undefined", "UndefinedKeyword"), ("never", "NeverKeyword")]

inductive ExpressionForm where
  | identifier
  /-- its text under a kind of its own -/
  | text (kind : String)
  | string
  | template
  | keyword (kind : String)
  | dottedName
  | member
  | subscript
  | call
  | construct
  | parenthesized

def expressionForms : List (String × ExpressionForm) := [
  ("identifier", .identifier),
  ("property_identifier", .identifier),
  ("shorthand_property_identifier", .identifier),
  ("type_identifier", .identifier),
  ("undefined", .identifier),
  ("private_property_identifier", .text "PrivateIdentifier"),
  ("string", .string),
  ("template_string", .template),
  ("number", .text "NumericLiteral"),
  ("regex", .text "RegularExpressionLiteral"),
  ("true", .keyword "TrueKeyword"),
  ("false", .keyword "FalseKeyword"),
  ("null", .keyword "NullKeyword"),
  ("this", .keyword "ThisKeyword"),
  ("super", .keyword "SuperKeyword"),
  ("nested_identifier", .dottedName),
  ("member_expression", .member),
  ("subscript_expression", .subscript),
  ("call_expression", .call),
  ("new_expression", .construct),
  ("parenthesized_expression", .parenthesized)]

def typeOf (p : Part) : Json := p.attr.type

def expressionOf (p : Part) : Json := p.attr.expression

/-- The types of the main children. -/
def typesIn (n : Source) : List Json := n.main.map typeOf

/-- The expressions of the main children. -/
def expressionsIn (n : Source) : List Json := n.main.map expressionOf

/-- The type inside a type clause such as `: T`. -/
def clauseType? (clause : Part) : Option Json := clause.head.firstMain?.map typeOf

def typeArguments (n : Source) : List Json :=
  match n.fieldOrChild? "type_arguments" "type_arguments" with
  | some list => typesIn list.head
  | none => []

mutual

/-- The operands of a type of a kind, its own operands merged in. -/
def operandsOf (kind : String) : Part → List Json
  | .node attr info _ children =>
    if info.kind == kind then operandsAll kind children else [attr.type]

/-- The operands among siblings, in order. -/
def operandsAll (kind : String) : List Part → List Json
  | [] => []
  | p :: rest => (if p.isMain then operandsOf kind p else []) ++ operandsAll kind rest

end

/-- Names in bindings: identifiers, or a pattern by its text. -/
def bindingName (p : Part) : Json :=
  if p.kind == "identifier" || p.kind == "this" then identifier p.info else textOnly p.info

/-- The name of a property; a computed one keeps its expression. -/
def propertyName (p : Part) : Json :=
  if p.kind == "computed_property_name" then
    ((Draft.new "ComputedPropertyName" p.info).put? "expression"
      (p.head.firstMain?.map expressionOf)).build
  else expressionOf p

/-- Keywords before a member or a parameter and the kinds of their nodes. -/
def modifierKinds : List (String × String) := [
  ("override_modifier", "OverrideKeyword"),
  ("static", "StaticKeyword"),
  ("readonly", "ReadonlyKeyword"),
  ("abstract", "AbstractKeyword"),
  ("async", "AsyncKeyword"),
  ("declare", "DeclareKeyword")]

def modifierKind? (p : Part) : Option String :=
  if p.kind == "accessibility_modifier" then
    some (if p.text == "private" then "PrivateKeyword"
      else if p.text == "protected" then "ProtectedKeyword" else "PublicKeyword")
  else Ordered.get? modifierKinds p.kind

def memberModifiers (n : Source) : List String := n.children.filterMap modifierKind?

def parameterKinds : List String := ["required_parameter", "optional_parameter", "identifier"]

/-- A parameter; in an untyped language it is a bare identifier. -/
def parameter (p : Part) : Json :=
  if p.kind == "identifier" then
    ((Draft.new "Parameter" p.info).put "name" (identifier p.info)).build
  else
    let n := p.head
    let pattern := n.field? "pattern"
    let rest := pattern.filter (·.kind == "rest_pattern")
    let name := match rest with
      | some r => r.head.firstMain?.map bindingName
      | none => pattern.map bindingName
    ((((((Draft.new "Parameter" p.info).modifiers (memberModifiers n)).mark
      "dotDotDotToken" "DotDotDotToken" rest.isSome).put? "name" name).optional
      (p.kind == "optional_parameter")).put? "type" ((n.field? "type").bind clauseType?)).put?
      "initializer" ((n.field? "value").map expressionOf) |>.build

def parameters (n : Source) : List Json :=
  match n.fieldOrChild? "parameters" "formal_parameters" with
  | some list => (list.head.main.filter fun p => parameterKinds.contains p.kind).map parameter
  | none => []

def typeParameter (p : Part) : Json :=
  let n := p.head
  ((((Draft.new "TypeParameter" p.info).put? "name"
    ((n.field? "name").map (identifier ·.info))).put? "constraint"
    ((n.field? "constraint").bind clauseType?)).put? "default"
    ((n.field? "value").bind clauseType?)).build

def typeParameters (n : Source) : List Json :=
  match n.fieldOrChild? "type_parameters" "type_parameters" with
  | some list => (list.head.main.filter (·.kind == "type_parameter")).map typeParameter
  | none => []

/-- The declared result type. -/
def returnType? (n : Source) : Option Json :=
  ((n.field? "return_type").or (n.field? "type")).bind clauseType?

/-- Type parameters, parameters and result type. -/
def putSignature (d : Draft) (n : Source) : Draft :=
  ((d.putSome "typeParameters" (typeParameters n)).putItems "parameters" (parameters n)).put?
    "type" (returnType? n)

/-- A member of an interface or an object type. -/
def typeMember (p : Part) : Json :=
  let n := p.head
  let name := (n.field? "name").map propertyName
  if p.kind == "property_signature" then
    (((((Draft.new "PropertySignature" p.info).modifiers (memberModifiers n)).put? "name"
      name).optional (n.hasToken "?")).put? "type" ((n.field? "type").bind clauseType?)).build
  else if p.kind == "method_signature" then
    (putSignature (((Draft.new "MethodSignature" p.info).put? "name" name).optional
      (n.hasToken "?")) n).build
  else if p.kind == "call_signature" then
    (putSignature (Draft.new "CallSignature" p.info) n).build
  else if p.kind == "construct_signature" then
    (putSignature (Draft.new "ConstructSignature" p.info) n).build
  else textOnly p.info

def typeMembers (body : Source) : List Json := body.main.map typeMember

def keywordType (n : Source) : Json :=
  match Ordered.get? predefined n.text with
  | some kind => (Draft.new kind n.info).build
  | none => textOnly n.info

def literalType (n : Source) : Json :=
  match n.firstMain? with
  | some literal =>
    if literal.kind == "undefined" then (Draft.new "UndefinedKeyword" n.info).build
    else ((Draft.new "LiteralType" n.info).put "literal" (expressionOf literal)).build
  | none => textOnly n.info

/-- A node read as a type. -/
def readType (n : Source) : Json :=
  let inner := n.firstMain?.map typeOf
  match Ordered.get? typeForms n.kind with
  | some .keyword => keywordType n
  | some .name => ((Draft.new "TypeReference" n.info).put "typeName" (identifier n.info)).build
  | some .dottedName =>
    ((Draft.new "TypeReference" n.info).put "typeName" (entityName n.info)).build
  | some .generic =>
    (((Draft.new "TypeReference" n.info).put? "typeName"
      ((n.field? "name").map (entityName ·.info))).putSome "typeArguments"
      (typeArguments n)).build
  | some .array => ((Draft.new "ArrayType" n.info).put? "elementType" inner).build
  | some (.operands kind) =>
    ((Draft.new kind n.info).putItems "types" (operandsAll n.kind n.children)).build
  | some (.wrapped kind) => ((Draft.new kind n.info).put? "type" inner).build
  | some .literal => literalType n
  | some .tuple => ((Draft.new "TupleType" n.info).putItems "elements" (typesIn n)).build
  | some .object => ((Draft.new "TypeLiteral" n.info).putItems "members" (typeMembers n)).build
  | some .function =>
    ((((Draft.new "FunctionType" n.info).putSome "typeParameters" (typeParameters n)).putItems
      "parameters" (parameters n)).put? "type" ((n.field? "return_type").map typeOf)).build
  | some .constructor =>
    ((((Draft.new "ConstructorType" n.info).putSome "typeParameters"
      (typeParameters n)).putItems "parameters" (parameters n)).put? "type"
      ((n.field? "type").map typeOf)).build
  | some .query =>
    ((Draft.new "TypeQuery" n.info).put? "exprName" (n.firstMain?.map expressionOf)).build
  | some (.operator kind) =>
    (((Draft.new "TypeOperator" n.info).put "operator" (.string kind)).put? "type" inner).build
  | some .lookup =>
    (((Draft.new "IndexedAccessType" n.info).put? "objectType" inner).put? "indexType"
      (n.main[1]?.map typeOf)).build
  | some .self => (Draft.new "ThisType" n.info).build
  | none => textOnly n.info

/-- A node with two operands in fields. -/
def binary (n : Source) (kind object : String) (objectField : String) (key field : String) : Json :=
  (((Draft.new kind n.info).put? object ((n.field? objectField).map expressionOf)).put? key
    ((n.field? field).map expressionOf)).build

/-- A call; a template in the place of the arguments is kept by its text. -/
def callExpression (n : Source) : Json :=
  match (n.field? "arguments").filter (·.kind == "arguments") with
  | some list =>
    ((((Draft.new "CallExpression" n.info).put? "expression"
      ((n.field? "function").map expressionOf)).putSome "typeArguments"
      (typeArguments n)).putItems "arguments" (expressionsIn list.head)).build
  | none => ((Draft.new "TaggedTemplateExpression" n.info).putText n.text).build

/-- A node read as an expression. -/
def readExpression (n : Source) : Json :=
  match Ordered.get? expressionForms n.kind with
  | some .identifier => identifier n.info
  | some (.text kind) => ((Draft.new kind n.info).putText n.text).build
  | some .string => stringLiteral n.info
  | some .template =>
    if (n.childOfKind? "template_substitution").isNone then
      ((Draft.new "NoSubstitutionTemplateLiteral" n.info).putText (unquote n.text)).build
    else textOnly n.info
  | some (.keyword kind) => (Draft.new kind n.info).build
  | some .dottedName => entityName n.info
  | some .member =>
    binary n "PropertyAccessExpression" "expression" "object" "name" "property"
  | some .subscript =>
    binary n "ElementAccessExpression" "expression" "object" "argumentExpression" "index"
  | some .call => callExpression n
  | some .construct =>
    let arguments := match n.field? "arguments" with
      | some list => expressionsIn list.head
      | none => []
    ((((Draft.new "NewExpression" n.info).put? "expression"
      ((n.field? "constructor").map expressionOf)).putSome "typeArguments"
      (typeArguments n)).putItems "arguments" arguments).build
  | some .parenthesized =>
    ((Draft.new "ParenthesizedExpression" n.info).put? "expression"
      (n.firstMain?.map expressionOf)).build
  | none => textOnly n.info

end DeclTree.Lower
