import DeclTree.Lower.Term

/-!
# Statements and declarations

How a concrete node reads as a statement. Modifiers come from the declarations
around it: `export` and `declare` wrap a declaration and add theirs. A dotted
namespace name stands for one declaration per segment, each the body of the one
before.
-/

namespace DeclTree.Lower

inductive StatementForm where
  | hashBang
  | exported
  | ambient
  | expression
  /-- a namespace or module declaration with its flags -/
  | container (flags : Nat)
  | function
  | classLike
  | interface
  | typeAlias
  | enum
  | variables
  | imported
  | importAlias
  | block
  | malformed

/-- Flags of every namespace declaration. -/
def namespaceFlags : Nat := 16

def statementForms : List (String × StatementForm) := [
  ("hash_bang_line", .hashBang),
  ("export_statement", .exported),
  ("ambient_declaration", .ambient),
  ("expression_statement", .expression),
  ("internal_module", .container namespaceFlags),
  ("module", .container 0),
  ("function_declaration", .function),
  ("generator_function_declaration", .function),
  ("function_signature", .function),
  ("function_expression", .function),
  ("function", .function),
  ("class_declaration", .classLike),
  ("abstract_class_declaration", .classLike),
  ("class", .classLike),
  ("interface_declaration", .interface),
  ("type_alias_declaration", .typeAlias),
  ("enum_declaration", .enum),
  ("lexical_declaration", .variables),
  ("variable_declaration", .variables),
  ("import_statement", .imported),
  ("import_alias", .importAlias),
  ("statement_block", .block),
  ("ERROR", .malformed)]

/-- A node on which nothing was reported. -/
def quiet (v : Json) : Lowered := ⟨v, []⟩

/-- The statements among the main children, with all that was reported. -/
def statementsIn (n : Source) : List Json × List Event :=
  let lowered := n.main.filterMap fun p => p.attr.statement []
  (lowered.map (·.node), lowered.flatMap (·.events))

/-- A block of statements under a kind. -/
def block (kind : String) (p : Source) : Lowered :=
  let (nodes, events) := statementsIn p
  ⟨((Draft.new kind p.info).putItems "statements" nodes).build, events⟩

def moduleBlock (p : Part) : Lowered := block "ModuleBlock" p.head

def nameOf? (n : Source) : Option Json := (n.field? "name").map (identifier ·.info)

/-- A module declaration at the place of a node. -/
def container (info : Cst.Info) (flags : Nat) (modifiers : List String) (name body : Option Json) :
    Json :=
  (((((Draft.new "ModuleDeclaration" info).put "flags" (.ofNat flags)).modifiers modifiers).put?
    "name" name).put? "body" body).build

/-- One declaration for each segment, each the body of the one before. -/
def nestedContainer (info name : Cst.Info) (flags : Nat) (body : Option Json) :
    List String → List String → Option Json
  | _, [] => body
  | modifiers, segment :: rest =>
    some (container info flags modifiers (some (identifierNamed name segment))
      (nestedContainer info name flags body [] rest))

def containerDeclaration (n : Source) (flags : Nat) (modifiers : List String) : Lowered :=
  let inner := (n.field? "body").map moduleBlock
  let body := inner.map (·.node)
  let events := match inner with
    | some l => l.events
    | none => []
  let node := match n.field? "name" with
    | none => container n.info flags modifiers none body
    | some name =>
      if name.kind == "string" then
        container n.info flags modifiers (some (stringLiteral name.info)) body
      else
        (nestedContainer n.info name.info flags body modifiers (segments name.text)).getD
          (textOnly n.info)
  ⟨node, events⟩

def exportAssignment (n : Source) (expression : Part) (isEquals : Bool) : Json :=
  (((Draft.new "ExportAssignment" n.info).put "isExportEquals" (.bool isEquals)).put "expression"
    (expressionOf expression)).build

/-- Classes and functions that a default export may hold as a value. -/
def valueDeclarations : List String := ["class", "function_expression", "function"]

/-- An export without a declaration of its own. -/
def exportClause (n : Source) : Json :=
  ((Draft.new "ExportDeclaration" n.info).put? "exportClause"
    ((n.childOfKind? "export_clause").map (textOnly ·.info))).put? "moduleSpecifier"
    ((n.field? "source").map (stringLiteral ·.info)) |>.build

/-- An export that wraps no declaration: a default value, `=`, a namespace, or a clause. -/
def exportRest (n : Source) (isDefault : Bool) (modifiers : List String) : Lowered :=
  let value := if isDefault then n.field? "value" else none
  match value with
  | some value =>
    if valueDeclarations.contains value.kind then
      (value.attr.statement modifiers).getD (quiet (textOnly value.info))
    else quiet (exportAssignment n value false)
  | none =>
    let assigned := if n.hasToken "=" then n.firstMain? else none
    match assigned with
    | some expression => quiet (exportAssignment n expression true)
    | none =>
      if n.hasToken "namespace" then
        quiet ((Draft.new "NamespaceExportDeclaration" n.info).put? "name"
          (n.firstMain?.map (identifier ·.info))).build
      else quiet (exportClause n)

def exported (n : Source) : Lowered :=
  let isDefault := n.hasToken "default"
  let modifiers := if isDefault then ["ExportKeyword", "DefaultKeyword"] else ["ExportKeyword"]
  match (n.field? "declaration").bind (·.attr.statement modifiers) with
  | some lowered => lowered
  | none => exportRest n isDefault modifiers

def ambient (n : Source) (modifiers : List String) : Lowered :=
  let modifiers := modifiers ++ ["DeclareKeyword"]
  if n.hasToken "global" then
    let inner := (n.childOfKind? "statement_block").map moduleBlock
    let events := match inner with
      | some l => l.events
      | none => []
    ⟨container n.info 0 modifiers (some (identifierNamed n.info "global")) (inner.map (·.node)),
      events⟩
  else
    (n.firstMain?.bind (·.attr.statement modifiers)).getD (quiet (textOnly n.info))

/-- An expression; a bare namespace is parsed as one. -/
def expressionStatement (n : Source) (modifiers : List String) : Lowered :=
  match n.firstMain?.filter (·.kind == "internal_module") with
  | some inner => containerDeclaration inner.head namespaceFlags modifiers
  | none =>
    quiet ((Draft.new "ExpressionStatement" n.info).put? "expression"
      (n.firstMain?.map expressionOf)).build

def function (n : Source) (modifiers : List String) : Json :=
  let modifiers := if n.hasToken "async" then modifiers ++ ["AsyncKeyword"] else modifiers
  (putSignature ((((Draft.new "FunctionDeclaration" n.info).modifiers modifiers).mark
    "asteriskToken" "AsteriskToken" (n.hasToken "*")).put? "name" (nameOf? n)) n).build

def heritageClause (info : Cst.Info) (token : String) (types : List Json) : Json :=
  (((Draft.new "HeritageClause" info).put "token" (.string token)).putItems "types" types).build

/-- Give the type read last its arguments. The types are held last first. -/
def addArguments (arguments : List Json) : List Json → List Json
  | .object fields :: rest => .object (Ordered.put fields "typeArguments" (.array arguments)) :: rest
  | types => types

/-- The types of an extends clause, last first: expressions, each with the arguments after it. -/
def extendedTypes (n : Source) : List Json :=
  n.main.foldl
    (fun types p =>
      if p.kind == "type_arguments" then addArguments (typesIn p.head) types
      else
        ((Draft.new "ExpressionWithTypeArguments" p.info).put "expression"
          (expressionOf p)).build :: types)
    []

def heritageOf? (clause : Part) : Option Json :=
  if clause.kind == "extends_clause" then
    some (heritageClause clause.info "ExtendsKeyword" (extendedTypes clause.head).reverse)
  else if clause.kind == "implements_clause" then
    some (heritageClause clause.info "ImplementsKeyword" (typesIn clause.head))
  else none

def classHeritage (n : Source) : List Json :=
  match n.childOfKind? "class_heritage" with
  | some heritage => heritage.head.main.filterMap heritageOf?
  | none => []

def methodKinds : List String :=
  ["method_definition", "method_signature", "abstract_method_signature"]

/-- A method, an accessor or a constructor; a constructor has no name. -/
def method (p : Part) : Json :=
  let n := p.head
  let name := n.field? "name"
  let isConstructor := match name with
    | some name => name.text == "constructor"
    | none => false
  let kind :=
    if isConstructor then "Constructor"
    else if n.hasToken "get" then "GetAccessor"
    else if n.hasToken "set" then "SetAccessor"
    else "MethodDeclaration"
  let shown := if isConstructor then none else name.map propertyName
  (putSignature ((((Draft.new kind p.info).modifiers (memberModifiers n)).put? "name"
    shown).optional (n.hasToken "?")) n).build

def property (p : Part) : Json :=
  let n := p.head
  ((((((Draft.new "PropertyDeclaration" p.info).modifiers (memberModifiers n)).put? "name"
    ((n.field? "name").map propertyName)).optional (n.hasToken "?")).put? "type"
    ((n.field? "type").bind clauseType?)).put? "initializer"
    ((n.field? "value").map expressionOf)).build

/-- A member of a class. Decorators are left out. -/
def classMember? (p : Part) : Option Json :=
  if methodKinds.contains p.kind then some (method p)
  else if p.kind == "public_field_definition" then some (property p)
  else if p.kind == "decorator" then none
  else some (textOnly p.info)

/-- The main children of the body field. -/
def bodyParts (n : Source) : List Part :=
  match n.field? "body" with
  | some body => body.head.main
  | none => []

def classDeclaration (n : Source) (modifiers : List String) : Json :=
  let modifiers :=
    if n.kind == "abstract_class_declaration" then modifiers ++ ["AbstractKeyword"] else modifiers
  (((((Draft.new "ClassDeclaration" n.info).modifiers modifiers).put? "name" (nameOf? n)).putSome
    "typeParameters" (typeParameters n)).putSome "heritageClauses" (classHeritage n)).putItems
    "members" ((bodyParts n).filterMap classMember?) |>.build

def interfaceDeclaration (n : Source) (modifiers : List String) : Json :=
  let heritage := match n.childOfKind? "extends_type_clause" with
    | some clause => [heritageClause clause.info "ExtendsKeyword" (typesIn clause.head)]
    | none => []
  (((((Draft.new "InterfaceDeclaration" n.info).modifiers modifiers).put? "name"
    (nameOf? n)).putSome "typeParameters" (typeParameters n)).putSome "heritageClauses"
    heritage).putItems "members" ((bodyParts n).map typeMember) |>.build

def typeAlias (n : Source) (modifiers : List String) : Json :=
  ((((Draft.new "TypeAliasDeclaration" n.info).modifiers modifiers).put? "name"
    (nameOf? n)).putSome "typeParameters" (typeParameters n)).put? "type"
    ((n.field? "value").map typeOf) |>.build

def enumMember (p : Part) : Json :=
  let n := p.head
  if p.kind == "enum_assignment" then
    (((Draft.new "EnumMember" p.info).put? "name" ((n.field? "name").map propertyName)).put?
      "initializer" ((n.field? "value").map expressionOf)).build
  else ((Draft.new "EnumMember" p.info).put "name" (propertyName p)).build

def enumDeclaration (n : Source) (modifiers : List String) : Json :=
  let modifiers := if n.hasToken "const" then modifiers ++ ["ConstKeyword"] else modifiers
  (((Draft.new "EnumDeclaration" n.info).modifiers modifiers).put? "name" (nameOf? n)).putItems
    "members" ((bodyParts n).map enumMember) |>.build

def declarator (p : Part) : Json :=
  let n := p.head
  ((((Draft.new "VariableDeclaration" p.info).put? "name"
    ((n.field? "name").map bindingName)).put? "type" ((n.field? "type").bind clauseType?)).put?
    "initializer" ((n.field? "value").map expressionOf)).build

/-- Flags of a declaration list: 2 for constants, 1 for block variables. -/
def listFlags (n : Source) : Nat :=
  if n.hasToken "const" then 2 else if n.hasToken "let" then 1 else 0

def variableStatement (n : Source) (modifiers : List String) : Json :=
  let declarators := (n.main.filter (·.kind == "variable_declarator")).map declarator
  let list := (((Draft.new "VariableDeclarationList" n.info).put "flags"
    (.ofNat (listFlags n))).putItems "declarations" declarators).build
  (((Draft.new "VariableStatement" n.info).modifiers modifiers).put "declarationList" list).build

def importSpecifier (p : Part) : Json :=
  let n := p.head
  let name := (n.field? "name").map expressionOf
  match n.field? "alias" with
  | some other =>
    (((Draft.new "ImportSpecifier" p.info).put? "propertyName" name).put "name"
      (identifier other.info)).build
  | none => ((Draft.new "ImportSpecifier" p.info).put? "name" name).build

/-- The first identifier among the children. -/
def childIdentifier? (p : Part) : Option Json :=
  (p.head.childOfKind? "identifier").map (identifier ·.info)

/-- One part of an import clause. Of two parts that fill one field the last one counts. -/
def addImport (d : Draft) (p : Part) : Draft :=
  if p.kind == "identifier" then d.put "name" (identifier p.info)
  else if p.kind == "namespace_import" then
    d.put "namedBindings"
      ((Draft.new "NamespaceImport" p.info).put? "name" (childIdentifier? p)).build
  else if p.kind == "named_imports" then
    d.put "namedBindings"
      ((Draft.new "NamedImports" p.info).putItems "elements"
        ((p.head.main.filter (·.kind == "import_specifier")).map importSpecifier)).build
  else d

def importClause (clause : Part) : Json :=
  (clause.head.main.foldl addImport (Draft.new "ImportClause" clause.info)).build

/-- `import a = require("b")`. -/
def requiredModule (source : Part) : Json :=
  ((Draft.new "ExternalModuleReference" source.info).put "expression"
    (stringLiteral source.info)).build

def importStatement (n : Source) : Json :=
  match n.childOfKind? "import_require_clause" with
  | some clause =>
    (((Draft.new "ImportEqualsDeclaration" n.info).put? "name" (childIdentifier? clause)).put?
      "moduleReference" ((clause.head.field? "source").map requiredModule)).build
  | none =>
    (((Draft.new "ImportDeclaration" n.info).put? "importClause"
      ((n.childOfKind? "import_clause").map importClause)).put? "moduleSpecifier"
      ((n.field? "source").map (stringLiteral ·.info))).build

def importAlias (n : Source) (modifiers : List String) : Json :=
  ((((Draft.new "ImportEqualsDeclaration" n.info).modifiers modifiers).put? "name"
    (n.firstMain?.map (identifier ·.info))).put? "moduleReference"
    (n.main[1]?.map (entityName ·.info))).build

/-- A node read as a statement. -/
def readStatement (n : Source) (modifiers : List String) : Option Lowered :=
  match Ordered.get? statementForms n.kind with
  | some .hashBang => none
  | some .exported => some (exported n)
  | some .ambient => some (ambient n modifiers)
  | some .expression => some (expressionStatement n modifiers)
  | some (.container flags) => some (containerDeclaration n flags modifiers)
  | some .function => some (quiet (function n modifiers))
  | some .classLike => some (quiet (classDeclaration n modifiers))
  | some .interface => some (quiet (interfaceDeclaration n modifiers))
  | some .typeAlias => some (quiet (typeAlias n modifiers))
  | some .enum => some (quiet (enumDeclaration n modifiers))
  | some .variables => some (quiet (variableStatement n modifiers))
  | some .imported => some (quiet (importStatement n))
  | some .importAlias => some (quiet (importAlias n modifiers))
  | some .block => some (block "Block" n)
  | some .malformed =>
    some ⟨textOnly n.info, [.syntaxError n.info.start n.info.stop]⟩
  | none => some (quiet (textOnly n.info))

end DeclTree.Lower
