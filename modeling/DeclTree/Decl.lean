import DeclTree.KindTable
import DeclTree.Node

/-!
# Declaration trees

A context is a module or a namespace with children under keys, in order of first
insertion; adding a child under a key that is present replaces the child where it
stands. A leaf is any other declaration; it remembers the node that it came from,
which is not written out.
-/

namespace DeclTree

inductive DeclKind where
  | moduleDecl
  | namespaceDecl
  | propertyDecl
  | variableDecl
  | exportDecl
  | importDecl
  deriving DecidableEq, Repr

namespace DeclKind

def name : DeclKind → String
  | .moduleDecl => "module"
  | .namespaceDecl => "namespace"
  | .propertyDecl => "property"
  | .variableDecl => "variable"
  | .exportDecl => "export"
  | .importDecl => "import"

def all : List DeclKind :=
  [.moduleDecl, .namespaceDecl, .propertyDecl, .variableDecl, .exportDecl, .importDecl]

def ofName? (s : String) : Option DeclKind := all.find? (·.name == s)

/-- Modules and namespaces hold children. -/
def isContext : DeclKind → Bool
  | .moduleDecl => true
  | .namespaceDecl => true
  | _ => false

end DeclKind

/-- A declaration without children. `form` is the name of the kind of its node. -/
structure Leaf where
  kind : DeclKind
  name : Option String
  form : String
  source : Json
  deriving Repr

inductive Decl where
  | leaf (leaf : Leaf)
  | context (kind : DeclKind) (name : String) (children : List (String × Decl))
  deriving Repr

/-- A module or namespace whose children are being gathered. -/
structure Context where
  kind : DeclKind
  name : String
  children : List (String × Decl)
  deriving Repr

namespace Context

/-- An empty module. -/
def newModule (name : String) : Context := ⟨.moduleDecl, name, []⟩

/-- An empty namespace. -/
def newNamespace (name : String) : Context := ⟨.namespaceDecl, name, []⟩

def toDecl (c : Context) : Decl := .context c.kind c.name c.children

def add (c : Context) (key : String) (d : Decl) : Context :=
  { c with children := Ordered.put c.children key d }

def child? (c : Context) (key : String) : Option Decl := Ordered.get? c.children key

def keys (c : Context) : List String := Ordered.keys c.children

def size (c : Context) : Nat := c.children.length

end Context

namespace Decl

def kind : Decl → DeclKind
  | .leaf l => l.kind
  | .context kind _ _ => kind

mutual

/-- How many declarations stand below a declaration. -/
def descendants : Decl → Nat
  | .leaf _ => 0
  | .context _ _ children => descendantsIn children

def descendantsIn : List (String × Decl) → Nat
  | [] => 0
  | (_, d) :: rest => 1 + descendants d + descendantsIn rest

end

def leafJson (l : Leaf) : Json :=
  let named := match l.name with
    | some s => [("name", Json.string s)]
    | none => []
  .object ([("kind", .string l.kind.name)] ++ named ++ [("syntax", .string l.form)])

mutual

def toJson : Decl → Json
  | .leaf l => leafJson l
  | .context kind name children =>
    .object [("kind", .string kind.name), ("name", .string name),
      ("children", .object (childrenJson children))]

def childrenJson : List (String × Decl) → List (String × Json)
  | [] => []
  | (key, d) :: rest => (key, toJson d) :: childrenJson rest

end

mutual

/-- The source nodes of all leaves, in order. -/
def sources : Decl → List Json
  | .leaf l => [l.source]
  | .context _ _ children => sourcesIn children

def sourcesIn : List (String × Decl) → List Json
  | [] => []
  | (_, d) :: rest => sources d ++ sourcesIn rest

end

end Decl

namespace Context

def descendants (c : Context) : Nat := c.toDecl.descendants

def toJson (c : Context) : Json := c.toDecl.toJson

def sources (c : Context) : List Json := c.toDecl.sources

end Context

namespace Leaf

/-- The form of a node without a usable kind. -/
def unknownForm : String := "Unknown"

/-- A leaf for a node; its form is the canonical name of the node's kind. -/
def ofNode (kinds : KindTable) (kind : DeclKind) (name : Option String) (node : Json) : Leaf :=
  ⟨kind, name, ((node.kind?).bind kinds.kindName?).getD unknownForm, node⟩

/-- A property under an explicit name or, without one, under the node's own name. -/
def property (kinds : KindTable) (node : Json) (name : Option String) : Leaf :=
  ofNode kinds .propertyDecl (name.or (node.textOf? "name")) node

end Leaf

end DeclTree
