import DeclTree.Proofs.Contribution

/-!
# The statements that a walk visits

A traversal collects its units one after the other. A module or a namespace is
followed by what the traversal of its body collects, so the visits stand in the
order of the program, a declaration before what is inside it (`visitedWithin`).

`visitsWithin` keeps for every visit what the walk hands to `collect` there: the
depth and the pass, and besides the declarations around it. From unit to unit the
passes are what the walk itself makes of the units before (`traverseWithin_succ`),
and a statement asks a way to descend for nothing but its body, begun with `opening`
(`collectWith_congr`). That the visits are the calls of the walk is in
`DeclTree.Proofs.Calls`.
-/

namespace DeclTree.Walker

variable {w : Walker}

/-- The body that a walk descends into: that of a module or a namespace. -/
def body? (w : Walker) (node : Json) : Option Json :=
  match Statement.classify w.kinds w.options.namespaceFlags node with
  | .namespaceDecl | .moduleDecl => node.field? "body"
  | _ => none

/-- The context and the state with which the body of a module or a namespace begins. -/
def opening (w : Walker) (node : Json) (depth : Nat) (s : State) : Pass :=
  match Statement.classify w.kinds w.options.namespaceFlags node with
  | .namespaceDecl => w.openNamespace node depth s
  | _ => w.openModule node depth s

theorem descendBody_congr {descend descend' : Descent} {node : Json} {depth : Nat} {p : Pass}
    (h : ∀ body, node.field? "body" = some body →
      descend body (depth + 1) p = descend' body (depth + 1) p) :
    Walker.descendBody descend node depth p = Walker.descendBody descend' node depth p := by
  rw [Walker.descendBody, Walker.descendBody]
  cases hb : node.field? "body" with
  | none => rfl
  | some body => exact h body hb

/-- A statement asks a way to descend for nothing but its body, begun with its opening. -/
theorem collectWith_congr {descend descend' : Descent} {node : Json} {depth : Nat} {p : Pass}
    (h : ∀ body, w.body? node = some body →
      descend body (depth + 1) (w.opening node depth p.state) =
        descend' body (depth + 1) (w.opening node depth p.state)) :
    w.collectWith descend node depth p = w.collectWith descend' node depth p := by
  rw [collectWith, collectWith]
  cases hc : Statement.classify w.kinds w.options.namespaceFlags node with
  | namespaceDecl =>
    simp only [body?, opening, hc] at h
    simp only [collectNamespace, descendBody_congr h]
  | moduleDecl =>
    simp only [body?, opening, hc] at h
    simp only [collectModule, descendBody_congr h]
  | _ => rfl

/-- A statement when it is collected. -/
structure Visit where
  node : Json
  depth : Nat
  /-- The modules and namespaces around it, as far as the visits reach, innermost first. -/
  around : List Json
  /-- The context that it is collected into, and the state. -/
  pass : Pass

/-- A visit as it is seen from outside a declaration around it. -/
def Visit.inside (v : Visit) (node : Json) : Visit := { v with around := v.around ++ [node] }

/-- The visits of statements one after the other, when `step` gives the pass after each. -/
def visitsOver (step : Json → Pass → Pass) (visits : Json → Pass → List Visit) :
    List Json → Pass → List Visit
  | [], _ => []
  | u :: rest, p => visits u p ++ visitsOver step visits rest (step u p)

/-- A statement and what `below` visits in its body. -/
def visitsWith (w : Walker) (below : Json → Nat → Pass → List Visit) (node : Json) (depth : Nat)
    (p : Pass) : List Visit :=
  ⟨node, depth, [], p⟩ :: match w.body? node with
    | some body =>
      (below body (depth + 1) (w.opening node depth p.state)).map (·.inside node)
    | none => []

/-- The visits of a traversal with `room` levels left. -/
def visitsWithin (w : Walker) : Nat → Json → Nat → Pass → List Visit
  | 0, _, _, _ => []
  | room + 1, node, depth, p =>
    visitsOver (fun u p => w.collectWith (w.traverseWithin room) u depth p)
      (fun u p => w.visitsWith (w.visitsWithin room) u depth p) node.units p

/-- The visits of `traverse`. -/
def traverseVisits (w : Walker) (node : Json) (depth : Nat) (p : Pass) : List Visit :=
  w.visitsWithin (w.options.maxDepth + 1 - depth) node depth p

/-- The visits of `collect`, itself the first. -/
def collectVisits (w : Walker) (node : Json) (depth : Nat) (p : Pass) : List Visit :=
  w.visitsWith (w.visitsWithin (w.options.maxDepth - depth)) node depth p

/-- A statement and then what `below` gives for its body. -/
def visitedWith (w : Walker) (below : Json → List Json) (node : Json) : List Json :=
  node :: match w.body? node with
    | some body => below body
    | none => []

/-- The statements that a traversal visits with `room` levels left, in order. -/
def visitedWithin (w : Walker) : Nat → Json → List Json
  | 0, _ => []
  | room + 1, node => node.units.flatMap (w.visitedWith (w.visitedWithin room))

/-- The statements that `traverse` visits at a depth, in order. -/
def traversed (w : Walker) (node : Json) (depth : Nat) : List Json :=
  w.visitedWithin (w.options.maxDepth + 1 - depth) node

/-- The statements that `collect` visits at a depth, in order. -/
def collected (w : Walker) (node : Json) (depth : Nat) : List Json :=
  w.visitedWith (w.visitedWithin (w.options.maxDepth - depth)) node

theorem visitsOver_nodes {step : Json → Pass → Pass} {visits : Json → Pass → List Visit}
    {visited : Json → List Json} (h : ∀ u p, (visits u p).map Visit.node = visited u)
    (nodes : List Json) (p : Pass) :
    (visitsOver step visits nodes p).map Visit.node = nodes.flatMap visited := by
  induction nodes generalizing p with
  | nil => rfl
  | cons u rest ih => rw [visitsOver, List.map_append, h, ih, List.flatMap_cons]

theorem visitsWith_nodes {below : Json → Nat → Pass → List Visit} {visited : Json → List Json}
    (h : ∀ body depth p, (below body depth p).map Visit.node = visited body)
    (node : Json) (depth : Nat) (p : Pass) :
    (w.visitsWith below node depth p).map Visit.node = w.visitedWith visited node := by
  rw [visitsWith, visitedWith, List.map_cons]
  cases w.body? node with
  | none => rfl
  | some body =>
    have hinside : Visit.node ∘ (·.inside node) = Visit.node := rfl
    simp only [List.map_map, hinside, h]

/-- What is visited depends neither on the context nor on the state. -/
theorem visitsWithin_nodes (w : Walker) (room : Nat) (node : Json) (depth : Nat) (p : Pass) :
    (w.visitsWithin room node depth p).map Visit.node = w.visitedWithin room node := by
  induction room generalizing node depth p with
  | zero => rfl
  | succ room ih =>
    rw [visitsWithin, visitedWithin]
    exact visitsOver_nodes (fun u p => visitsWith_nodes ih u depth p) node.units p

theorem traverseVisits_nodes (w : Walker) (node : Json) (depth : Nat) (p : Pass) :
    (w.traverseVisits node depth p).map Visit.node = w.traversed node depth :=
  visitsWithin_nodes w _ node depth p

theorem collectVisits_nodes (w : Walker) (node : Json) (depth : Nat) (p : Pass) :
    (w.collectVisits node depth p).map Visit.node = w.collected node depth :=
  visitsWith_nodes (visitsWithin_nodes w _) node depth p

end DeclTree.Walker
