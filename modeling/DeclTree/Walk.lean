import DeclTree.Decl
import DeclTree.Event
import DeclTree.Name
import DeclTree.Scope
import DeclTree.Statement

/-!
# Walking a program tree into a declaration tree

`collect` adds at most one child to a context for a statement; `traverse`
collects the statements of a node, or the node itself when it has none. The body
of a module or namespace is traversed one level deeper, into a context of its own.

Bodies deeper than the limit are skipped. The recursion is on the number of
levels left, so the limit is what bounds it.
-/

namespace DeclTree

structure WalkOptions where
  /-- Flags that make a module declaration a namespace. -/
  namespaceFlags : List Int
  scopeMode : ScopeMode
  maxDepth : Nat
  deriving DecidableEq, Repr

def WalkOptions.default : WalkOptions := ⟨[16, 4098], .flat, 256⟩

/-- What stays the same during all walks. -/
structure Walker where
  kinds : KindTable
  printer : Printer
  options : WalkOptions

namespace Walker

/-- What one walk hands on to the next: the namespace, and the events, latest first. -/
structure State where
  scope : Scope
  events : List Event

/-- A context being filled, and the state. -/
structure Pass where
  context : Context
  state : State

def State.log (s : State) (e : Event) : State := { s with events := e :: s.events }

def Pass.log (p : Pass) (e : Event) : Pass := { p with state := p.state.log e }

def Pass.add (p : Pass) (key : String) (d : Decl) : Pass :=
  { p with context := p.context.add key d }

/-- How to fill a context from a body at a depth. -/
abbrev Descent := Json → Nat → Pass → Pass

def resolve (w : Walker) (node : Json) : Name := .resolve w.kinds w.printer node

/-- Fill a context from the body of a node, when it has one. -/
def descendBody (descend : Descent) (node : Json) (depth : Nat) (p : Pass) : Pass :=
  match node.field? "body" with
  | some body => descend body (depth + 1) p
  | none => p

def State.enter (s : State) : Name → State
  | .resolved name => { s with scope := s.scope.enter name }
  | .unresolved => s.log .unnamedNamespace

def State.exit (s : State) : Name → State
  | .resolved _ => { s with scope := s.scope.exit }
  | .unresolved => s

/-- The empty context and the state with which the body of a namespace begins. -/
def openNamespace (w : Walker) (node : Json) (depth : Nat) (s : State) : Pass :=
  let name := w.resolve node
  ⟨.newNamespace name.key, (s.log (.enteringNamespace name.key depth)).enter name⟩

def collectNamespace (w : Walker) (descend : Descent) (node : Json) (depth : Nat) (p : Pass) :
    Pass :=
  let name := w.resolve node
  let inner := descendBody descend node depth (w.openNamespace node depth p.state)
  ⟨p.context.add ("namespace" ++ name.key) inner.context.toDecl, inner.state.exit name⟩

/-- The empty context and the state with which the body of a module begins. -/
def openModule (w : Walker) (node : Json) (depth : Nat) (s : State) : Pass :=
  let name := w.resolve node
  ⟨.newModule name.key, s.log (.enteringModule name.key depth)⟩

def collectModule (w : Walker) (descend : Descent) (node : Json) (depth : Nat) (p : Pass) :
    Pass :=
  let name := w.resolve node
  let inner := descendBody descend node depth (w.openModule node depth p.state)
  ⟨p.context.add name.key inner.context.toDecl, inner.state⟩

/-- Add a leaf under the name of its node. -/
def collectLeaf (w : Walker) (node : Json) (leaf : Name → Leaf) (p : Pass) : Pass :=
  let name := w.resolve node
  p.add name.key (.leaf (leaf name))

/-- One statement, with a way to fill a context from a body. -/
def collectWith (w : Walker) (descend : Descent) (node : Json) (depth : Nat) (p : Pass) : Pass :=
  match Statement.classify w.kinds w.options.namespaceFlags node with
  | .namespaceDecl => w.collectNamespace descend node depth p
  | .moduleDecl => w.collectModule descend node depth p
  | .function | .interface | .typeAlias =>
    w.collectLeaf node (fun name => .property w.kinds node name.text?) p
  | .classDecl => w.collectLeaf node (fun _ => .property w.kinds node none) p
  | .variableDecl => w.collectLeaf node (fun _ => .ofNode w.kinds .variableDecl none node) p
  | .exportAssignment => w.collectLeaf node (fun _ => .ofNode w.kinds .exportDecl none node) p
  | .importDecl => w.collectLeaf node (fun _ => .ofNode w.kinds .importDecl none node) p
  | .importEquals | .enum => p.log (.ignored p.context.name)
  | .other kind => p.log (.dropped kind.name p.context.name)

/-- The statements of a node, or the node itself, with `room` levels left. -/
def traverseWithin (w : Walker) : Nat → Descent
  | 0, _, depth, p => p.log (.limitReached depth w.options.maxDepth p.context.name)
  | room + 1, node, depth, p =>
    match node.statements? with
    | some statements =>
      statements.foldl (fun p s => w.collectWith (w.traverseWithin room) s depth p) p
    | none => w.collectWith (w.traverseWithin room) node depth p

/-- Collect the statements of a node, or the node itself, at a depth. -/
def traverse (w : Walker) : Descent := fun node depth =>
  w.traverseWithin (w.options.maxDepth + 1 - depth) node depth

/-- Add at most one child for a statement at a depth. -/
def collect (w : Walker) : Descent := fun node depth =>
  w.collectWith (w.traverseWithin (w.options.maxDepth - depth)) node depth

/-- The state before the first walk. -/
def start (w : Walker) : State := ⟨.new w.options.scopeMode, []⟩

/-- Walk a tree into a new root, from a cleared namespace. -/
def walk (w : Walker) (ast : Json) (s : State) : Pass :=
  let p := w.traverse ast 0 ⟨.newModule "root", { s with scope := s.scope.reset }⟩
  p.log (.walkComplete p.context.size p.context.descendants)

/-- The declaration tree of a program tree. -/
def tree (w : Walker) (ast : Json) : Context := (w.walk ast w.start).context

end Walker

end DeclTree
