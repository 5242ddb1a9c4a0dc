import DeclTree.Proofs.Contribution

/-!
# What a walk does to the namespace

Only a namespace with a resolved name enters and leaves; modules pass on what
their body does, and every other statement leaves the scope as it is. So the
scope after a traversal is a function of the scope before it (`scopeWithin`):
neither the context that is being filled nor the events have a part in it.
-/

namespace DeclTree.Walker

variable {w : Walker}

/-- What `below` does to a scope in the body of a node, when it has one. -/
def bodyScope (below : Json → Scope → Scope) (node : Json) (s : Scope) : Scope :=
  match node.field? "body" with
  | some body => below body s
  | none => s

/-- The scope after a statement, when `below` gives the scope after a body. -/
def scopeWith (w : Walker) (below : Json → Scope → Scope) (node : Json) (s : Scope) : Scope :=
  match Statement.classify w.kinds w.options.namespaceFlags node with
  | .namespaceDecl =>
    match w.resolve node with
    | .resolved name => (bodyScope below node (s.enter name)).exit
    | .unresolved => bodyScope below node s
  | .moduleDecl => bodyScope below node s
  | _ => s

/-- The scope after a traversal with `room` levels left. -/
def scopeWithin (w : Walker) : Nat → Json → Scope → Scope
  | 0, _, s => s
  | room + 1, node, s => node.units.foldl (fun s u => w.scopeWith (w.scopeWithin room) u s) s

/-- A way to descend that changes the scope as `below` says, whatever the context. -/
def Scopes (descend : Descent) (below : Json → Scope → Scope) : Prop :=
  ∀ body depth p, (descend body depth p).state.scope = below body p.state.scope

theorem Scopes.descendBody {descend : Descent} {below : Json → Scope → Scope}
    (h : Scopes descend below) (node : Json) (depth : Nat) (p : Pass) :
    (Walker.descendBody descend node depth p).state.scope = bodyScope below node p.state.scope := by
  rw [Walker.descendBody, bodyScope]
  cases node.field? "body" with
  | none => rfl
  | some body => exact h body (depth + 1) p

theorem collectWith_scope {descend : Descent} {below : Json → Scope → Scope}
    (h : Scopes descend below) (node : Json) (depth : Nat) (p : Pass) :
    (w.collectWith descend node depth p).state.scope =
      w.scopeWith below node p.state.scope := by
  rw [collectWith, scopeWith]
  cases Statement.classify w.kinds w.options.namespaceFlags node with
  | namespaceDecl =>
    simp only [collectNamespace, openNamespace]
    cases w.resolve node with
    | resolved name => simp only [State.enter, State.exit, h.descendBody, State.log]
    | unresolved => simp only [State.enter, State.exit, h.descendBody, State.log]
  | moduleDecl => simp only [collectModule, openModule, h.descendBody, State.log]
  | _ => rfl

theorem traverseWithin_scope (w : Walker) (room : Nat) :
    Scopes (w.traverseWithin room) (w.scopeWithin room) := by
  induction room with
  | zero => intro node depth p; rfl
  | succ room ih =>
    intro node depth p
    rw [traverseWithin_succ, scopeWithin]
    generalize node.units = units
    induction units generalizing p with
    | nil => rfl
    | cons u rest ihu =>
      rw [List.foldl_cons, List.foldl_cons, ihu, collectWith_scope ih]

/-- A walk starts from a cleared namespace, so only the mode of the old one matters. -/
theorem walk_scope (w : Walker) (ast : Json) (s : State) :
    (w.walk ast s).state.scope =
      w.scopeWithin (w.options.maxDepth + 1) ast (.new s.scope.mode) :=
  traverseWithin_scope w _ ast 0 _

/-- A change of scope that keeps the mode. -/
def KeepsMode (below : Json → Scope → Scope) : Prop := ∀ body s, (below body s).mode = s.mode

theorem mode_enter (s : Scope) (name : String) : (s.enter name).mode = s.mode := by
  obtain ⟨mode, current, saved⟩ := s
  cases mode <;> rfl

theorem mode_exit (s : Scope) : s.exit.mode = s.mode := by
  obtain ⟨mode, current, saved⟩ := s
  cases mode <;> cases saved <;> rfl

theorem KeepsMode.bodyScope {below : Json → Scope → Scope} (h : KeepsMode below)
    (node : Json) (s : Scope) : (Walker.bodyScope below node s).mode = s.mode := by
  rw [Walker.bodyScope]
  cases node.field? "body" with
  | none => rfl
  | some body => exact h body s

theorem KeepsMode.scopeWith {below : Json → Scope → Scope} (h : KeepsMode below) :
    KeepsMode (w.scopeWith below) := by
  intro node s
  rw [Walker.scopeWith]
  cases Statement.classify w.kinds w.options.namespaceFlags node with
  | namespaceDecl =>
    cases w.resolve node with
    | resolved name => exact (mode_exit _).trans ((h.bodyScope node _).trans (mode_enter s name))
    | unresolved => exact h.bodyScope node s
  | moduleDecl => exact h.bodyScope node s
  | _ => rfl

theorem scopeWithin_keepsMode (w : Walker) (room : Nat) : KeepsMode (w.scopeWithin room) := by
  induction room with
  | zero => intro node s; rfl
  | succ room ih =>
    intro node s
    rw [scopeWithin]
    generalize node.units = units
    induction units generalizing s with
    | nil => rfl
    | cons u rest ihu => exact (ihu _).trans (ih.scopeWith u s)

end DeclTree.Walker
