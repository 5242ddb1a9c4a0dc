import DeclTree.Proofs.Calls
import DeclTree.Proofs.ScopeEffect

/-!
# Which namespace is current

In stack mode every traversal gives back the scope that it was given, and at every call
of `collect` that it reaches the current namespace is the innermost one around that has
a name (`stack_scope_is_restored`). In flat mode the current namespace is the one with a
name that was visited last, wherever it stands (`flat_scope_is_last_visited`).

Both come from what one statement does: a namespace with a name enters and leaves,
and nothing else touches the scope (`scopeWith_eq`).
-/

namespace DeclTree.Walker

variable {w : Walker}

/-- The name of a namespace declaration, when it has one. -/
def namespaceName? (w : Walker) (node : Json) : Option String :=
  match Statement.classify w.kinds w.options.namespaceFlags node with
  | .namespaceDecl => (w.resolve node).text?
  | _ => none

/-- The scope in which the body of a statement is traversed. -/
def entered (w : Walker) (node : Json) (s : Scope) : Scope :=
  match w.namespaceName? node with
  | some name => s.enter name
  | none => s

/-- The scope after a statement, from the scope after its body. -/
def left (w : Walker) (node : Json) (s : Scope) : Scope :=
  match w.namespaceName? node with
  | some _ => s.exit
  | none => s

/-- The scope after the body that a walk descends into, when there is one. -/
def insideScope (w : Walker) (below : Json → Scope → Scope) (node : Json) (s : Scope) : Scope :=
  match w.body? node with
  | some body => below body s
  | none => s

theorem scopeWith_eq (below : Json → Scope → Scope) (node : Json) (s : Scope) :
    w.scopeWith below node s = w.left node (w.insideScope below node (w.entered node s)) := by
  rw [scopeWith, left, insideScope, entered, namespaceName?, body?]
  cases Statement.classify w.kinds w.options.namespaceFlags node with
  | namespaceDecl => cases w.resolve node <;> rfl
  | _ => rfl

theorem opening_scope (node : Json) (depth : Nat) (s : State) :
    (w.opening node depth s).state.scope = w.entered node s.scope := by
  rw [opening, entered, namespaceName?]
  cases Statement.classify w.kinds w.options.namespaceFlags node with
  | namespaceDecl =>
    simp only [openNamespace]
    cases w.resolve node <;> rfl
  | _ => rfl

theorem entered_mode (node : Json) (s : Scope) : (w.entered node s).mode = s.mode := by
  rw [entered]
  cases w.namespaceName? node with
  | none => rfl
  | some name => exact mode_enter s name

theorem entered_current (node : Json) (s : Scope) :
    (w.entered node s).current = (w.namespaceName? node).or s.current := by
  rw [entered]
  cases w.namespaceName? node with
  | none => rfl
  | some name =>
    obtain ⟨mode, current, saved⟩ := s
    cases mode <;> rfl

section Stack

/-- A change of scope that leaves the scopes of stack mode alone. -/
def Restores (below : Json → Scope → Scope) : Prop :=
  ∀ body s, s.mode = .stack → below body s = s

theorem left_entered {s : Scope} (hs : s.mode = .stack) (node : Json) :
    w.left node (w.entered node s) = s := by
  rw [left, entered]
  cases w.namespaceName? node with
  | none => rfl
  | some name => exact Scope.exit_enter hs name

theorem Restores.scopeWith {below : Json → Scope → Scope} (h : Restores below) :
    Restores (w.scopeWith below) := by
  intro node s hs
  have hentered : (w.entered node s).mode = .stack := (entered_mode node s).trans hs
  have hinside : w.insideScope below node (w.entered node s) = w.entered node s := by
    rw [insideScope]
    cases w.body? node with
    | none => rfl
    | some body => exact h body _ hentered
  rw [scopeWith_eq, hinside, left_entered hs]

theorem scopeWithin_restores (w : Walker) (room : Nat) : Restores (w.scopeWithin room) := by
  induction room with
  | zero => intro node s _; rfl
  | succ room ih =>
    intro node s hs
    rw [scopeWithin]
    generalize node.units = units
    induction units with
    | nil => rfl
    | cons u rest ihu => rw [List.foldl_cons, ih.scopeWith u s hs, ihu]

/-- The name of the innermost namespace with a name among the declarations around a visit. -/
def Visit.innermost? (w : Walker) (v : Visit) : Option String :=
  v.around.findSome? w.namespaceName?

theorem Visit.innermost?_inside (v : Visit) (node : Json) :
    (v.inside node).innermost? w = (v.innermost? w).or (w.namespaceName? node) := by
  simp [innermost?, inside, List.findSome?_append]

theorem traverse_stack (w : Walker) (node : Json) (depth : Nat) {p : Pass}
    (hp : p.state.scope.mode = .stack) :
    (w.traverse node depth p).state.scope = p.state.scope := by
  rw [traverse, traverseWithin_scope]
  exact scopeWithin_restores w _ node _ hp

theorem collect_stack (w : Walker) (node : Json) (depth : Nat) {p : Pass}
    (hp : p.state.scope.mode = .stack) :
    (w.collect node depth p).state.scope = p.state.scope := by
  rw [collect, collectWith_scope (traverseWithin_scope w _)]
  exact (scopeWithin_restores w _).scopeWith node _ hp

/-- Whenever `collect` is called, the innermost namespace is current or, without one, what was. -/
theorem Calls.current_eq {nodes : List Json} {depth : Nat} {p : Pass} {v : Visit}
    (h : w.Calls nodes depth p v) (hp : p.state.scope.mode = .stack) :
    v.pass.state.scope.current = (v.innermost? w).or p.state.scope.current := by
  induction h with
  | first => rfl
  | inside hbody _ _ ih =>
    obtain ⟨-, -, rfl⟩ := descends_iff.mp hbody
    have hcurrent := ih (by rw [opening_scope, entered_mode, hp])
    rw [opening_scope, entered_current, ← Option.or_assoc, ← Visit.innermost?_inside] at hcurrent
    exact hcurrent
  | later _ ih =>
    -- the statement before gives the scope back
    rw [collect_stack w _ _ hp] at ih
    exact ih hp

/-- In stack mode the scope comes back as it was. A traversal calls `collect` for its units
one after the other; at every call that it reaches, and at every call that `collect` itself
reaches, the current namespace is the innermost namespace with a name around it, below the
start, or else the one that was current at the start. A walk ends without a namespace. -/
theorem stack_scope_is_restored (w : Walker) (context : Context) (current : Option String)
    (saved : List (Option String)) (events : List Event) (node : Json) (depth : Nat) :
    let p : Pass := ⟨context, ⟨⟨.stack, current, saved⟩, events⟩⟩
    (w.traverse node depth p).state.scope = ⟨.stack, current, saved⟩ ∧
      (w.collect node depth p).state.scope = ⟨.stack, current, saved⟩ ∧
      (depth ≤ w.options.maxDepth →
        w.traverse node depth p = node.units.foldl (fun q u => w.collect u depth q) p ∧
          ∀ v, w.Calls node.units depth p v →
            v.pass.state.scope.current = (v.innermost? w).or current) ∧
      (∀ v, w.Calls [node] depth p v →
        v.pass.state.scope.current = (v.innermost? w).or current) ∧
      (w.walk node p.state).state.scope.current = none := by
  intro p
  refine ⟨traverse_stack w node depth rfl, collect_stack w node depth rfl, fun hd => ?_, ?_, ?_⟩
  · exact ⟨traverse_eq w node hd p, fun v hv => hv.current_eq rfl⟩
  · exact fun v hv => hv.current_eq rfl
  · have hreset : (w.walk node p.state).state.scope = .new .stack :=
      (walk_scope w node p.state).trans (scopeWithin_restores w _ node _ rfl)
    rw [hreset]
    rfl

/-- Neither a module nor a namespace without a name hides the namespace around it. -/
theorem stack_scope_is_restored_nested :
    let w : Walker := ⟨.empty, fun _ => "", { WalkOptions.default with scopeMode := .stack }⟩
    let inside (flags : Nat) (name : String) (body : Json) : Json :=
      .object [("kind", .string "ModuleDeclaration"), ("flags", .ofNat flags),
        ("name", .object [("text", .string name)]), ("body", body)]
    let leaf : Json := .object [("kind", .string "ClassDeclaration")]
    let ast := inside 16 "A" (inside 0 "M" (inside 16 "B" (inside 16 "" leaf)))
    let start : Pass := ⟨.newModule "m", ⟨⟨.stack, some "Z", []⟩, []⟩⟩
    0 ≤ w.options.maxDepth ∧ (w.traverse ast 0 start).state.scope = start.state.scope ∧
      (w.traverseVisits ast 0 start).map (Visit.innermost? w) =
        [none, some "A", some "A", some "B", some "B"] ∧
      ∃ v, w.Calls ast.units 0 start v ∧ v.innermost? w = some "B" ∧
        v.pass.state.scope.current = (v.innermost? w).or (some "Z") := by
  intro w inside leaf ast start
  have hdepth : 0 ≤ w.options.maxDepth := Nat.zero_le _
  obtain ⟨hscope, -, htraverse, -⟩ :=
    stack_scope_is_restored w (.newModule "m") (some "Z") [] [] ast 0
  have hinnermost : (w.traverseVisits ast 0 start).map (Visit.innermost? w) =
      [none, some "A", some "A", some "B", some "B"] := by
    decide +kernel
  have hmem : some "B" ∈ (w.traverseVisits ast 0 start).map (Visit.innermost? w) := by
    rw [hinnermost]
    decide
  obtain ⟨v, hv, hname⟩ := List.mem_map.mp hmem
  have hcall := (mem_traverseVisits_iff hdepth start v).mp hv
  exact ⟨hdepth, hscope, hinnermost, v, hcall, hname, (htraverse hdepth).2 v hcall⟩

end Stack

section Flat

/-- The name of the last namespace with a name among statements. -/
def lastName? (w : Walker) (nodes : List Json) : Option String :=
  nodes.reverse.findSome? w.namespaceName?

/-- The scope of flat mode after statements. -/
def settled (w : Walker) (nodes : List Json) (s : Scope) : Scope :=
  { s with current := (w.lastName? nodes).or s.current }

theorem settled_append (before after : List Json) (s : Scope) :
    w.settled (before ++ after) s = w.settled after (w.settled before s) := by
  simp [settled, lastName?, List.findSome?_append, Option.or_assoc]

theorem settled_cons (node : Json) (rest : List Json) (s : Scope) :
    w.settled (node :: rest) s = w.settled rest (w.settled [node] s) :=
  settled_append [node] rest s

theorem entered_flat {s : Scope} (hs : s.mode = .flat) (node : Json) :
    w.entered node s = w.settled [node] s := by
  obtain ⟨mode, current, saved⟩ := s
  cases hs
  rw [entered, settled, lastName?, List.reverse_singleton, List.findSome?_singleton]
  cases w.namespaceName? node <;> rfl

theorem left_flat {s : Scope} (hs : s.mode = .flat) (node : Json) : w.left node s = s := by
  rw [left]
  cases w.namespaceName? node with
  | none => rfl
  | some name => rw [Scope.exit, hs]

/-- A change of scope that is settled by the visited statements in flat mode. -/
def Settles (w : Walker) (below : Json → Scope → Scope) (visited : Json → List Json) : Prop :=
  ∀ body s, s.mode = .flat → below body s = w.settled (visited body) s

theorem Settles.scopeWith {below : Json → Scope → Scope} {visited : Json → List Json}
    (h : w.Settles below visited) : w.Settles (w.scopeWith below) (w.visitedWith visited) := by
  intro node s hs
  have hmode : (w.settled [node] s).mode = .flat := hs
  have hinside : w.insideScope below node (w.settled [node] s) =
      w.settled (w.visitedWith visited node) s := by
    rw [insideScope, visitedWith]
    cases w.body? node with
    | none => rfl
    | some body => exact (h body _ hmode).trans (settled_cons node _ s).symm
  have hafter : (w.settled (w.visitedWith visited node) s).mode = .flat := hs
  rw [scopeWith_eq, entered_flat hs, hinside, left_flat hafter]

theorem scopeWithin_settles (w : Walker) (room : Nat) :
    w.Settles (w.scopeWithin room) (w.visitedWithin room) := by
  induction room with
  | zero => intro node s _; rfl
  | succ room ih =>
    intro node s hs
    rw [scopeWithin, visitedWithin]
    generalize node.units = units
    induction units generalizing s with
    | nil => rfl
    | cons u rest ihu =>
      rw [List.foldl_cons, List.flatMap_cons, settled_append, ih.scopeWith u s hs]
      exact ihu _ hs

/-- Every visit begins with the scope that the one before it had, unless that was a
namespace with a name: then its name is current. -/
def HandedOn (w : Walker) : Scope → List Visit → Prop
  | _, [] => True
  | s, v :: rest => v.pass.state.scope = s ∧ w.HandedOn (w.settled [v.node] s) rest

theorem HandedOn.append {before after : List Visit} {s : Scope} (hb : w.HandedOn s before)
    (ha : w.HandedOn (w.settled (before.map Visit.node) s) after) :
    w.HandedOn s (before ++ after) := by
  induction before generalizing s with
  | nil => exact ha
  | cons v rest ih =>
    obtain ⟨hv, hrest⟩ := hb
    refine ⟨hv, ih hrest ?_⟩
    rw [← settled_cons]
    exact ha

theorem HandedOn.inside {visits : List Visit} {s : Scope} (h : w.HandedOn s visits)
    (node : Json) : w.HandedOn s (visits.map (·.inside node)) := by
  induction visits generalizing s with
  | nil => exact h
  | cons v rest ih => exact ⟨h.1, ih h.2⟩

/-- A way to visit that hands the scope on, in flat mode. -/
def HandsOn (w : Walker) (visits : Pass → List Visit) : Prop :=
  ∀ p, p.state.scope.mode = .flat → w.HandedOn p.state.scope (visits p)

theorem visitsWith_handsOn {below : Json → Nat → Pass → List Visit}
    (h : ∀ body depth, w.HandsOn (below body depth)) (node : Json) (depth : Nat) :
    w.HandsOn (w.visitsWith below node depth) := by
  intro p hp
  rw [visitsWith]
  refine ⟨rfl, ?_⟩
  cases w.body? node with
  | none => trivial
  | some body =>
    have hopen : (w.opening node depth p.state).state.scope = w.settled [node] p.state.scope := by
      rw [opening_scope, entered_flat hp]
    have hbody := h body (depth + 1) (w.opening node depth p.state) (by rw [hopen]; exact hp)
    rw [hopen] at hbody
    exact hbody.inside node

theorem visitsWithin_handsOn (w : Walker) (room : Nat) (node : Json) (depth : Nat) :
    w.HandsOn (w.visitsWithin room node depth) := by
  induction room generalizing node depth with
  | zero => intro p _; trivial
  | succ room ih =>
    intro p hp
    rw [visitsWithin]
    generalize node.units = units
    induction units generalizing p with
    | nil => trivial
    | cons u rest ihu =>
      have hscope : (w.collectWith (w.traverseWithin room) u depth p).state.scope =
          w.settled ((w.visitsWith (w.visitsWithin room) u depth p).map Visit.node)
            p.state.scope := by
        rw [collectWith_scope (traverseWithin_scope w room),
          (scopeWithin_settles w room).scopeWith u _ hp,
          visitsWith_nodes (visitsWithin_nodes w room)]
      rw [visitsOver]
      refine (visitsWith_handsOn ih u depth p hp).append ?_
      rw [← hscope]
      exact ihu _ (by rw [hscope]; exact hp)

theorem traverse_flat (w : Walker) (node : Json) (depth : Nat) {p : Pass}
    (hp : p.state.scope.mode = .flat) :
    (w.traverse node depth p).state.scope = w.settled (w.traversed node depth) p.state.scope := by
  rw [traverse, traverseWithin_scope]
  exact scopeWithin_settles w _ node _ hp

theorem collect_flat (w : Walker) (node : Json) (depth : Nat) {p : Pass}
    (hp : p.state.scope.mode = .flat) :
    (w.collect node depth p).state.scope = w.settled (w.collected node depth) p.state.scope := by
  rw [collect, collectWith_scope (traverseWithin_scope w _)]
  exact (scopeWithin_settles w _).scopeWith node _ hp

/-- In flat mode the current namespace is the last namespace with a name that was
visited, wherever it stands and whatever became of its context, or else the one that
was current at the start. The scope goes on from visit to visit, so a statement that
is no namespace changes nothing: only what is visited inside it counts. -/
theorem flat_scope_is_last_visited (w : Walker) (context : Context) (current : Option String)
    (saved : List (Option String)) (events : List Event) (node : Json) (depth : Nat) :
    let p : Pass := ⟨context, ⟨⟨.flat, current, saved⟩, events⟩⟩
    (w.traverse node depth p).state.scope =
        ⟨.flat, (w.lastName? (w.traversed node depth)).or current, saved⟩ ∧
      (w.collect node depth p).state.scope =
        ⟨.flat, (w.lastName? (w.collected node depth)).or current, saved⟩ ∧
      (w.traverseVisits node depth p).map Visit.node = w.traversed node depth ∧
      (w.collectVisits node depth p).map Visit.node = w.collected node depth ∧
      w.HandedOn p.state.scope (w.traverseVisits node depth p) ∧
      w.HandedOn p.state.scope (w.collectVisits node depth p) ∧
      (Statement.classify w.kinds w.options.namespaceFlags node ≠ .namespaceDecl →
        (w.collect node depth p).state.scope =
          ⟨.flat, (w.lastName? (w.collected node depth).tail).or current, saved⟩) := by
  intro p
  have hcollect := collect_flat w node depth (p := p) rfl
  refine ⟨traverse_flat w node depth rfl, hcollect, traverseVisits_nodes w node depth p,
    collectVisits_nodes w node depth p, visitsWithin_handsOn w _ node depth p rfl,
    visitsWith_handsOn (visitsWithin_handsOn w _) node depth p rfl, ?_⟩
  intro hn
  have hname : w.namespaceName? node = none := by
    rw [namespaceName?]
    cases hc : Statement.classify w.kinds w.options.namespaceFlags node with
    | namespaceDecl => exact absurd hc hn
    | _ => rfl
  have hsame : w.settled [node] p.state.scope = p.state.scope := by
    rw [← entered_flat rfl, entered, hname]
  rw [hcollect, collected, visitedWith, settled_cons, hsame]
  rfl

/-- The name of a namespace stays, though the module around it is not in the tree. -/
theorem flat_scope_is_last_visited_replaced :
    let w : Walker := ⟨.empty, fun _ => "", .default⟩
    let inside (flags : Nat) (name : String) (body : Json) : Json :=
      .object [("kind", .string "ModuleDeclaration"), ("flags", .ofNat flags),
        ("name", .object [("text", .string name)]), ("body", body)]
    let replaced := inside 0 "M" (inside 16 "B" .null)
    let ast : Json := .object [("statements", .array [replaced, inside 0 "M" .null])]
    let start : Pass := ⟨.newModule "m", ⟨⟨.flat, some "Z", [none]⟩, []⟩⟩
    (w.traverse ast 0 start).context.children = [("M", .context .moduleDecl "M" [])] ∧
      (w.traverse ast 0 start).state.scope = ⟨.flat, some "B", [none]⟩ ∧
      Statement.classify w.kinds w.options.namespaceFlags replaced ≠ .namespaceDecl ∧
      (w.collect replaced 0 start).state.scope =
        ⟨.flat, (w.lastName? (w.collected replaced 0).tail).or (some "Z"), [none]⟩ := by
  intro w inside replaced ast start
  have hmodule : Statement.classify w.kinds w.options.namespaceFlags replaced ≠ .namespaceDecl := by
    decide
  obtain ⟨htraverse, -⟩ :=
    flat_scope_is_last_visited w (.newModule "m") (some "Z") [none] [] ast 0
  obtain ⟨-, -, -, -, -, -, hcollect⟩ :=
    flat_scope_is_last_visited w (.newModule "m") (some "Z") [none] [] replaced 0
  exact ⟨rfl, htraverse, hmodule, hcollect hmodule⟩

end Flat

end DeclTree.Walker
