import DeclTree.Proofs.Writes
import DeclTree.Walk

/-!
# What a statement contributes to a context

A statement declares at most one thing: a key and a declaration without children
(`Walker.declares?`). What it contributes to a context is this declaration filled
from the body of the statement, as far as there are levels left
(`contributionWith`, `writesWithin`). None of this reads the namespace, the
events or the context that is being filled.

`collectWith_context` and `traverseWithin_context` say that a walk does nothing
else to a context.
-/

namespace DeclTree

/-- What a traversal of a node collects: its statements, or the node itself. -/
def Json.units (node : Json) : List Json := (node.statements?).getD [node]

namespace Decl

def children : Decl → List (String × Decl)
  | .leaf _ => []
  | .context _ _ children => children

/-- A context with other children; a leaf has none to change. -/
def fill : Decl → List (String × Decl) → Decl
  | .leaf l, _ => .leaf l
  | .context kind name _, children => .context kind name children

end Decl

/-- All writes of a list into a context. -/
def Context.addAll (c : Context) (writes : List (String × Decl)) : Context :=
  { c with children := Ordered.putAll c.children writes }

namespace Context

@[simp] theorem addAll_nil (c : Context) : c.addAll [] = c := rfl

theorem addAll_append (c : Context) (before after : List (String × Decl)) :
    c.addAll (before ++ after) = (c.addAll before).addAll after := by
  simp only [addAll, Ordered.putAll_append]

end Context

namespace Walker

variable {w : Walker}

/-- The key and the declaration of a statement, without the children of its body. -/
def declares? (w : Walker) (node : Json) : Option (String × Decl) :=
  let name := w.resolve node
  match Statement.classify w.kinds w.options.namespaceFlags node with
  | .namespaceDecl => some ("namespace" ++ name.key, (Context.newNamespace name.key).toDecl)
  | .moduleDecl => some (name.key, (Context.newModule name.key).toDecl)
  | .function | .interface | .typeAlias =>
    some (name.key, .leaf (.property w.kinds node name.text?))
  | .classDecl => some (name.key, .leaf (.property w.kinds node none))
  | .variableDecl => some (name.key, .leaf (.ofNode w.kinds .variableDecl none node))
  | .exportAssignment => some (name.key, .leaf (.ofNode w.kinds .exportDecl none node))
  | .importDecl => some (name.key, .leaf (.ofNode w.kinds .importDecl none node))
  | .importEquals | .enum | .other _ => none

/-- What `below` gives for the body of a node, when it has one. -/
def bodyWrites (below : Json → List (String × Decl)) (node : Json) : List (String × Decl) :=
  match node.field? "body" with
  | some body => below body
  | none => []

/-- The declaration of a statement, filled from its body by `below`. -/
def contributionWith (w : Walker) (below : Json → List (String × Decl)) (node : Json) :
    Option (String × Decl) :=
  (w.declares? node).map fun e => (e.1, e.2.fill (Ordered.ofList (bodyWrites below node)))

/-- The contributions of a traversal, in order, with `room` levels left. -/
def writesWithin (w : Walker) : Nat → Json → List (String × Decl)
  | 0, _ => []
  | room + 1, node => node.units.filterMap (w.contributionWith (w.writesWithin room))

/-- What a statement at a depth contributes to any context. -/
def contribution (w : Walker) (node : Json) (depth : Nat) : Option (String × Decl) :=
  w.contributionWith (w.writesWithin (w.options.maxDepth - depth)) node

/-- Contributions read nothing of a walker but what it makes of single statements. -/
theorem writesWithin_congr {w w' : Walker} (h : w.declares? = w'.declares?) (room : Nat) :
    w.writesWithin room = w'.writesWithin room := by
  induction room with
  | zero => rfl
  | succ room ih =>
    have hcontribution : w.contributionWith (w.writesWithin room) =
        w'.contributionWith (w'.writesWithin room) := by
      funext u
      simp only [contributionWith, h, ih]
    funext node
    simp only [writesWithin, hcontribution]

theorem traverseWithin_succ (w : Walker) (room : Nat) (node : Json) (depth : Nat) (p : Pass) :
    w.traverseWithin (room + 1) node depth p =
      node.units.foldl (fun p s => w.collectWith (w.traverseWithin room) s depth p) p := by
  cases h : node.statements? with
  | none => simp [traverseWithin, Json.units, h]
  | some statements => simp [traverseWithin, Json.units, h]

/-- A way to descend that writes into a context what `below` says, whatever the state. -/
def Writes (descend : Descent) (below : Json → List (String × Decl)) : Prop :=
  ∀ body depth p, (descend body depth p).context = p.context.addAll (below body)

theorem Writes.descendBody {descend : Descent} {below : Json → List (String × Decl)}
    (h : Writes descend below) (node : Json) (depth : Nat) (p : Pass) :
    (Walker.descendBody descend node depth p).context =
      p.context.addAll (bodyWrites below node) := by
  rw [Walker.descendBody, bodyWrites]
  cases node.field? "body" with
  | none => rfl
  | some body => exact h body (depth + 1) p

/-- One statement changes a context by its contribution, and in no other way. -/
theorem collectWith_context {descend : Descent} {below : Json → List (String × Decl)}
    (h : Writes descend below) (node : Json) (depth : Nat) (p : Pass) :
    (w.collectWith descend node depth p).context =
      p.context.addAll (w.contributionWith below node).toList := by
  rw [collectWith, contributionWith, declares?]
  cases Statement.classify w.kinds w.options.namespaceFlags node with
  | namespaceDecl => simp only [collectNamespace, h.descendBody]; rfl
  | moduleDecl => simp only [collectModule, h.descendBody]; rfl
  | _ => rfl

theorem foldl_collectWith_context {descend : Descent} {below : Json → List (String × Decl)}
    (h : Writes descend below) (nodes : List Json) (depth : Nat) (p : Pass) :
    (nodes.foldl (fun p s => w.collectWith descend s depth p) p).context =
      p.context.addAll (nodes.filterMap (w.contributionWith below)) := by
  induction nodes generalizing p with
  | nil => rfl
  | cons node rest ih =>
    have hrest := ih (w.collectWith descend node depth p)
    rw [collectWith_context h, ← Context.addAll_append] at hrest
    rw [List.foldl_cons, hrest]
    cases hc : w.contributionWith below node <;> simp [hc]

/-- A traversal writes its contributions into the context, and does nothing else to it. -/
theorem traverseWithin_context (w : Walker) (room : Nat) :
    Writes (w.traverseWithin room) (w.writesWithin room) := by
  induction room with
  | zero => intro node depth p; rfl
  | succ room ih =>
    intro node depth p
    rw [traverseWithin_succ, writesWithin]
    exact foldl_collectWith_context ih node.units depth p

theorem collect_context (w : Walker) (node : Json) (depth : Nat) (p : Pass) :
    (w.collect node depth p).context = p.context.addAll (w.contribution node depth).toList :=
  collectWith_context (traverseWithin_context w _) node depth p

/-- Within the limit, a traversal collects its units one after the other. -/
theorem traverse_eq (w : Walker) (node : Json) {depth : Nat} (hd : depth ≤ w.options.maxDepth)
    (p : Pass) :
    w.traverse node depth p = node.units.foldl (fun q u => w.collect u depth q) p := by
  rw [traverse, Nat.sub_add_comm hd]
  exact traverseWithin_succ w _ node depth p

/-- Within the limit, a traversal contributes what its units contribute at its depth. -/
theorem traverse_context (w : Walker) (node : Json) {depth : Nat}
    (hd : depth ≤ w.options.maxDepth) (p : Pass) :
    (w.traverse node depth p).context =
      p.context.addAll (node.units.filterMap (w.contribution · depth)) := by
  rw [traverse_eq w node hd]
  exact foldl_collectWith_context (traverseWithin_context w _) node.units depth p

/-- The children of a walked tree are what the walk of its program contributes. -/
theorem walk_context (w : Walker) (ast : Json) (s : State) :
    (w.walk ast s).context =
      (Context.newModule "root").addAll (w.writesWithin (w.options.maxDepth + 1) ast) :=
  traverseWithin_context w _ ast 0 _

end Walker

end DeclTree
