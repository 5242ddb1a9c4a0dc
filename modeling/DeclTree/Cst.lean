import DeclTree.Ordered

/-!
# Concrete trees of a source text

A parser's tree: every node has a kind, a byte range and the text of that range,
and its children in order. A node is named unless it is a keyword or a
punctuation mark. A field names one of the descendants by the path to it.

Trees carry an attribute at every node. A plain tree has none; `annotate`
computes attributes bottom up, each from the children that already have theirs.
-/

namespace DeclTree.Cst

/-- What a node tells about itself. -/
structure Info where
  kind : String
  named : Bool
  start : Nat
  stop : Nat
  text : String
  deriving DecidableEq, Repr

/-- A path to a descendant: an index into the children, one into that child's, and so on. -/
abbrev Path := List Nat

inductive Tree (α : Type) where
  | node (attr : α) (info : Info) (fields : List (String × Path)) (children : List (Tree α))

/-- A tree without its attribute at the root. -/
structure Head (α : Type) where
  info : Info
  fields : List (String × Path)
  children : List (Tree α)

variable {α β : Type}

namespace Tree

def attr : Tree α → α
  | .node a _ _ _ => a

def head : Tree α → Head α
  | .node _ info fields children => ⟨info, fields, children⟩

def info (t : Tree α) : Info := t.head.info

def kind (t : Tree α) : String := t.info.kind

def text (t : Tree α) : String := t.info.text

def children (t : Tree α) : List (Tree α) := t.head.children

/-- A named node that is no comment. -/
def isMain (t : Tree α) : Bool := t.info.named && t.kind != "comment"

/-- A keyword or punctuation mark. -/
def isToken (t : Tree α) (kind : String) : Bool := !t.info.named && t.kind == kind

/-- The descendant at a path below a list of siblings. -/
def at? : List (Tree α) → Path → Option (Tree α)
  | _, [] => none
  | siblings, [i] => siblings[i]?
  | siblings, i :: rest => (siblings[i]?).bind (at? ·.children rest)

mutual

/-- Give every node the attribute that `f` computes from its annotated children. -/
def annotate (f : Head β → β) : Tree α → Tree β
  | .node _ info fields children =>
    let below := annotateAll f children
    .node (f ⟨info, fields, below⟩) info fields below

def annotateAll (f : Head β → β) : List (Tree α) → List (Tree β)
  | [] => []
  | t :: rest => annotate f t :: annotateAll f rest

end

end Tree

namespace Head

def kind (n : Head α) : String := n.info.kind

def text (n : Head α) : String := n.info.text

/-- The descendant that a field names. -/
def field? (n : Head α) (name : String) : Option (Tree α) :=
  (Ordered.get? n.fields name).bind (Tree.at? n.children)

/-- The children that are neither tokens nor comments. -/
def main (n : Head α) : List (Tree α) := n.children.filter Tree.isMain

def firstMain? (n : Head α) : Option (Tree α) := n.main.head?

/-- The first child of a kind, token or not. -/
def childOfKind? (n : Head α) (kind : String) : Option (Tree α) :=
  n.children.find? (·.kind == kind)

def hasToken (n : Head α) (kind : String) : Bool := n.children.any (·.isToken kind)

/-- The child in a field or, without that field, the first child of a kind. -/
def fieldOrChild? (n : Head α) (name kind : String) : Option (Tree α) :=
  (n.field? name).or (n.childOfKind? kind)

end Head

namespace Tree

theorem annotateAll_eq_map (f : Head β → β) (ts : List (Tree α)) :
    annotateAll f ts = ts.map (annotate f) := by
  induction ts with
  | nil => rfl
  | cons t rest ih => simp [annotateAll, ih]

theorem info_annotate (f : Head β → β) (t : Tree α) : (annotate f t).info = t.info := by
  cases t
  rfl

theorem children_annotate (f : Head β → β) (t : Tree α) :
    (annotate f t).children = t.children.map (annotate f) := by
  cases t
  simp [annotate, children, head, annotateAll_eq_map]

theorem attr_annotate (f : Head β → β) (t : Tree α) :
    (annotate f t).attr = f (annotate f t).head := by
  cases t
  rfl

end Tree

end DeclTree.Cst

namespace DeclTree

/-- A concrete tree as a parser gives it. -/
abbrev Cst := Cst.Tree Unit

end DeclTree
