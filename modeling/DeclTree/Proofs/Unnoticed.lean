import DeclTree.Proofs.Fieldwise
import DeclTree.Proofs.ScopeEffect

/-!
# Changes of a program tree that a walk does not notice

A walk reads a node in a few ways only: what it makes of it as a statement, its
name, the name of its kind, its body and its units. A change of the nodes of a
tree that keeps all of these, from one walker to another, keeps the written tree
and the namespace (`Unnoticed.walk`). The sources of the leaves may differ, and
so may the events.

For a change that is `Json.Fieldwise` the name, the body and the units come for free
(`Unnoticed.of_fieldwise`).
-/

namespace DeclTree

/-- The kind, unless it is known by its name alone. -/
def Kind.known? : Kind → Option Kind
  | .other _ => none
  | k => some k

theorem Kind.eq_of_known? {k l : Kind} (h : k.known? = some l) : k = l := by
  cases k <;> simp_all [known?]

theorem Kind.other_of_known? {k : Kind} (h : k.known? = none) : ∃ name, k = .other name := by
  cases k <;> simp_all [known?]

/-- The statement, unless a walk drops it whatever its kind. -/
def Statement.known? : Statement → Option Statement
  | .other _ => none
  | s => some s

theorem Statement.eq_of_known? {s t : Statement} (h : s.known? = some t) : s = t := by
  cases s <;> simp_all [known?]

theorem Statement.other_of_known? {s : Statement} (h : s.known? = none) :
    ∃ kind, s = .other kind := by
  cases s <;> simp_all [known?]

/-- A statement is known by its kind and, if it is a module, by its flags. -/
theorem Statement.known?_classify {kinds kinds' : KindTable} {v v' : Json} (flags : List Int)
    (hk : (kinds'.classify v'.kind?).known? = (kinds.classify v.kind?).known?)
    (hf : kinds.classify v.kind? = .moduleDeclaration → v'.flags? = v.flags?) :
    (classify kinds' flags v').known? = (classify kinds flags v).known? := by
  cases h : kinds.classify v.kind? with
  | other name =>
    rw [h] at hk
    obtain ⟨name', h'⟩ := Kind.other_of_known? hk
    simp only [classify, h, h', known?]
  | moduleDeclaration =>
    rw [h] at hk
    have h' := Kind.eq_of_known? hk
    have hflags : isNamespace flags v' = isNamespace flags v := by
      rw [isNamespace, isNamespace, hf h]
    simp only [classify, h, h', hflags]
  | _ =>
    rw [h] at hk
    have h' := Kind.eq_of_known? hk
    simp only [classify, h, h']

theorem Decl.childrenJson_eq (children : List (String × Decl)) :
    childrenJson children = Ordered.mapValues toJson children := by
  induction children with
  | nil => rfl
  | cons e rest ih =>
    obtain ⟨key, d⟩ := e
    rw [childrenJson, ih]
    rfl

/-- Children are written in the order and with the values that their writes have as JSON. -/
theorem Decl.childrenJson_ofList (writes : List (String × Decl)) :
    childrenJson (Ordered.ofList writes) = Ordered.ofList (Ordered.mapValues toJson writes) := by
  rw [childrenJson_eq]
  exact (Ordered.putAll_mapValues toJson [] writes).symm

namespace Walker

/-- A walked tree as JSON, from the contributions as JSON. -/
theorem walk_toJson (w : Walker) (ast : Json) (s : State) :
    (w.walk ast s).context.toJson =
      .object [("kind", .string "module"), ("name", .string "root"), ("children", .object
        (Ordered.ofList (Ordered.mapValues Decl.toJson
          (w.writesWithin (w.options.maxDepth + 1) ast))))] := by
  rw [walk_context, ← Decl.childrenJson_ofList, Context.toJson, Context.toDecl, Decl.toJson]
  rfl

/-- `f` changes nodes in a way that `w'` does not tell from what `w` reads. -/
structure Unnoticed (w w' : Walker) (f : Json → Json) : Prop where
  limit : w'.options.maxDepth = w.options.maxDepth
  statement : ∀ v, (Statement.classify w'.kinds w'.options.namespaceFlags (f v)).known? =
    (Statement.classify w.kinds w.options.namespaceFlags v).known?
  resolve : ∀ v, w'.resolve (f v) = w.resolve v
  kindName : ∀ v, ((f v).kind?).bind w'.kinds.kindName? = (v.kind?).bind w.kinds.kindName?
  ownName : ∀ v, (f v).textOf? "name" = v.textOf? "name"
  body : ∀ v, (f v).field? "body" = (v.field? "body").map f
  units : ∀ v, (f v).units = v.units.map f

namespace Unnoticed

variable {w w' : Walker} {f : Json → Json}

/-- A change that goes through the followed fields needs no more than three checks. -/
theorem of_fieldwise (hf : Json.Fieldwise f) (limit : w'.options.maxDepth = w.options.maxDepth)
    (statement : ∀ v, (Statement.classify w'.kinds w'.options.namespaceFlags (f v)).known? =
      (Statement.classify w.kinds w.options.namespaceFlags v).known?)
    (kindName : ∀ v, ((f v).kind?).bind w'.kinds.kindName? = (v.kind?).bind w.kinds.kindName?)
    (printed : ∀ v, w'.printer (.normalize w'.kinds (f v)) = w.printer (.normalize w.kinds v)) :
    Unnoticed w w' f where
  limit := limit
  statement := statement
  resolve := hf.resolve printed
  kindName := kindName
  ownName := fun v => hf.textOf v (by decide)
  body := fun v => hf.field v (by decide)
  units := hf.units

theorem leafJson (h : Unnoticed w w' f) (kind : DeclKind) (name : Option String) (u : Json) :
    Decl.leafJson (.ofNode w'.kinds kind name (f u)) =
      Decl.leafJson (.ofNode w.kinds kind name u) := by
  simp only [Decl.leafJson, Leaf.ofNode, h.kindName]

theorem propertyJson (h : Unnoticed w w' f) (name : Option String) (u : Json) :
    Decl.leafJson (.property w'.kinds (f u) name) = Decl.leafJson (.property w.kinds u name) := by
  simp only [Leaf.property, h.leafJson, h.ownName]

/-- Two ways to read a body that write the same JSON for it. -/
def SameJson (f : Json → Json) (below below' : Json → List (String × Decl)) : Prop :=
  ∀ body, Ordered.mapValues Decl.toJson (below' (f body)) =
    Ordered.mapValues Decl.toJson (below body)

theorem bodyJson (h : Unnoticed w w' f) {below below' : Json → List (String × Decl)}
    (hb : SameJson f below below') (u : Json) :
    Decl.childrenJson (Ordered.ofList (bodyWrites below' (f u))) =
      Decl.childrenJson (Ordered.ofList (bodyWrites below u)) := by
  have hwrites : Ordered.mapValues Decl.toJson (bodyWrites below' (f u)) =
      Ordered.mapValues Decl.toJson (bodyWrites below u) := by
    rw [bodyWrites, bodyWrites, h.body]
    cases u.field? "body" with
    | none => rfl
    | some body => exact hb body
  rw [Decl.childrenJson_ofList, Decl.childrenJson_ofList, hwrites]

theorem contributionJson (h : Unnoticed w w' f) {below below' : Json → List (String × Decl)}
    (hb : SameJson f below below') (u : Json) :
    (w'.contributionWith below' (f u)).map (fun e => (e.1, e.2.toJson)) =
      (w.contributionWith below u).map fun e => (e.1, e.2.toJson) := by
  have hs := h.statement u
  rw [contributionWith, contributionWith, declares?, declares?, h.resolve]
  cases hc : Statement.classify w.kinds w.options.namespaceFlags u with
  | other kind =>
    rw [hc] at hs
    obtain ⟨kind', hc'⟩ := Statement.other_of_known? hs
    simp only [hc', Option.map_none]
  | _ =>
    rw [hc] at hs
    simp only [Statement.eq_of_known? hs, Option.map_some, Option.map_none, Context.toDecl,
      Decl.fill, Decl.toJson, h.bodyJson hb, h.leafJson, h.propertyJson, Context.newNamespace,
      Context.newModule]

/-- The contributions of a traversal are written alike. -/
theorem writesWithin_sameJson (h : Unnoticed w w' f) (room : Nat) :
    SameJson f (w.writesWithin room) (w'.writesWithin room) := by
  induction room with
  | zero => intro node; rfl
  | succ room ih =>
    intro node
    rw [writesWithin, writesWithin, Ordered.mapValues, Ordered.mapValues, h.units,
      List.map_filterMap, List.map_filterMap, List.filterMap_map]
    congr 1
    funext u
    exact h.contributionJson ih u

theorem scopeWith (h : Unnoticed w w' f) {below below' : Json → Scope → Scope}
    (hb : ∀ body, below' (f body) = below body) (u : Json) (s : Scope) :
    w'.scopeWith below' (f u) s = w.scopeWith below u s := by
  have hs := h.statement u
  have hbody : bodyScope below' (f u) = bodyScope below u := by
    funext s
    rw [bodyScope, bodyScope, h.body]
    cases u.field? "body" with
    | none => rfl
    | some body => exact congrFun (hb body) s
  rw [Walker.scopeWith, Walker.scopeWith, h.resolve, hbody]
  cases hc : Statement.classify w.kinds w.options.namespaceFlags u with
  | other kind =>
    rw [hc] at hs
    obtain ⟨kind', hc'⟩ := Statement.other_of_known? hs
    simp only [hc']
  | _ =>
    rw [hc] at hs
    simp only [Statement.eq_of_known? hs]

theorem scopeWithin (h : Unnoticed w w' f) (room : Nat) (node : Json) :
    w'.scopeWithin room (f node) = w.scopeWithin room node := by
  induction room generalizing node with
  | zero => rfl
  | succ room ih =>
    funext s
    rw [Walker.scopeWithin, Walker.scopeWithin, h.units, List.foldl_map]
    congr 1
    funext s u
    exact h.scopeWith ih u s

/-- A walk of the changed tree writes the same tree and leaves the same namespace. -/
theorem walk (h : Unnoticed w w' f) (ast : Json) (s : State) :
    (w'.walk (f ast) s).context.toJson = (w.walk ast s).context.toJson ∧
      (w'.walk (f ast) s).state.scope = (w.walk ast s).state.scope := by
  constructor
  · have hwrites := h.writesWithin_sameJson (w.options.maxDepth + 1) ast
    rw [walk_toJson, walk_toJson, h.limit, hwrites]
  · rw [walk_scope, walk_scope, h.limit, h.scopeWithin]

end Unnoticed

end Walker

end DeclTree
