import Mathlib.Data.List.Perm.Basic
import DeclTree.Proofs.Totals
import DeclTree.Proofs.Visits

/-!
# What becomes of every collected statement

A statement that is collected either declares something or is reported as ignored or
dropped (`traverseWithin_reports`). What it declares is in the tree unless a later
statement of the same context has the same key, and with a declaration that is replaced
goes all that was counted inside it. So the tree has as many declarations as there are
statements that declare something exactly when no key repeats in any context that was
filled, those that were replaced included (`declarations_are_lost_by_collision_only`).
-/

namespace DeclTree

/-- A statement that has no place in the tree by design. -/
def Event.isIgnored : Event → Bool
  | .ignored _ => true
  | _ => false

/-- A statement of a kind without a declaration. -/
def Event.isDropped : Event → Bool
  | .dropped _ _ => true
  | _ => false

namespace Walker

/-- Whether a statement declares something. -/
def contributes (w : Walker) (node : Json) : Bool := (w.declares? node).isSome

/-- What `below` gives for the body that a walk descends into, when there is one. -/
def insideBody {α : Type} (w : Walker) (below : Json → List α) (node : Json) : List α :=
  ((w.body? node).map below).getD []

/-- The statements of each context that a traversal with `room` levels left fills, those of the
context it was given first. -/
def fillings (w : Walker) : Nat → Json → List (List Json)
  | 0, _ => []
  | room + 1, node => node.units :: node.units.flatMap (w.insideBody (w.fillings room))

/-- No two statements of a context declare something under one key. -/
def Apart (w : Walker) (units : List Json) : Prop :=
  (Ordered.keys (units.filterMap w.declares?)).Nodup

variable {w : Walker}

section Events

/-- The events from one state to another, `n` of them about statements that declare nothing. -/
def Skips (n : Nat) (s s' : State) : Prop :=
  ∃ logged, s'.events = logged ++ s.events ∧
    logged.countP Event.isIgnored + logged.countP Event.isDropped = n

theorem Skips.refl (s : State) : Skips 0 s s := ⟨[], rfl, rfl⟩

theorem Skips.trans {n m : Nat} {s s' s'' : State} (h : Skips n s s') (h' : Skips m s' s'') :
    Skips (n + m) s s'' := by
  obtain ⟨before, hs', hn⟩ := h
  obtain ⟨after, hs'', hm⟩ := h'
  refine ⟨after ++ before, by rw [hs'', hs', List.append_assoc], ?_⟩
  rw [List.countP_append, List.countP_append]
  omega

/-- A step about no skipped statement, before others. -/
theorem Skips.after {n : Nat} {s s' s'' : State} (h : Skips 0 s s') (h' : Skips n s' s'') :
    Skips n s s'' := by
  have htrans := h.trans h'
  rwa [Nat.zero_add] at htrans

theorem skips_log (s : State) (e : Event) :
    Skips ([e].countP Event.isIgnored + [e].countP Event.isDropped) s (s.log e) :=
  ⟨[e], rfl, rfl⟩

theorem skips_enter (s : State) (name : Name) : Skips 0 s (s.enter name) := by
  cases name with
  | resolved text => exact .refl s
  | unresolved => exact skips_log s .unnamedNamespace

/-- Leaving a namespace reports nothing. -/
theorem Skips.exit {n : Nat} {s s' : State} (h : Skips n s s') (name : Name) :
    Skips n s (s'.exit name) := by
  cases name with
  | resolved text => exact h
  | unresolved => exact h

/-- How many of some statements declare nothing. -/
def skipped (w : Walker) (nodes : List Json) : Nat := nodes.countP (fun u => !w.contributes u)

/-- A way to descend that reports each of the statements of `visited` that declares nothing. -/
def Reports (w : Walker) (descend : Descent) (visited : Json → List Json) : Prop :=
  ∀ body depth p, Skips (w.skipped (visited body)) p.state (descend body depth p).state

theorem Reports.descendBody {descend : Descent} {visited : Json → List Json}
    (h : w.Reports descend visited) (node : Json) (depth : Nat) (p : Pass) :
    Skips (w.skipped (((node.field? "body").map visited).getD [])) p.state
      (Walker.descendBody descend node depth p).state := by
  rw [Walker.descendBody]
  cases node.field? "body" with
  | none => exact .refl p.state
  | some body => exact h body (depth + 1) p

theorem skipped_singleton (node : Json) : w.skipped [node] = if w.contributes node then 0 else 1 := by
  rw [skipped, List.countP_singleton]
  cases w.contributes node <;> rfl

/-- A statement with a body declares something, so only what is inside it may be skipped. -/
theorem skipped_visitedWith_of_body (visited : Json → List Json) {node : Json}
    (hbody : w.body? node = node.field? "body") (hdeclares : w.contributes node = true) :
    w.skipped (w.visitedWith visited node) =
      w.skipped (((node.field? "body").map visited).getD []) := by
  rw [visitedWith, hbody, skipped, List.countP_cons, hdeclares]
  cases node.field? "body" <;> rfl

theorem visitedWith_of_no_body (visited : Json → List Json) {node : Json}
    (hbody : w.body? node = none) : w.visitedWith visited node = [node] := by
  rw [visitedWith, hbody]

/-- One statement is reported when it declares nothing, and else what is inside it. -/
theorem Reports.collectWith {descend : Descent} {visited : Json → List Json}
    (h : w.Reports descend visited) :
    w.Reports (w.collectWith descend) (w.visitedWith visited) := by
  intro node depth p
  rw [Walker.collectWith]
  cases hc : Statement.classify w.kinds w.options.namespaceFlags node with
  | namespaceDecl =>
    have hbody : w.body? node = node.field? "body" := by rw [body?, hc]
    have hdeclares : w.contributes node = true := by rw [contributes, declares?, hc]; rfl
    have hlog := skips_log p.state (.enteringNamespace (w.resolve node).key depth)
    rw [skipped_visitedWith_of_body visited hbody hdeclares]
    exact ((hlog.after (skips_enter _ _)).after (h.descendBody node depth _)).exit _
  | moduleDecl =>
    have hbody : w.body? node = node.field? "body" := by rw [body?, hc]
    have hdeclares : w.contributes node = true := by rw [contributes, declares?, hc]; rfl
    have hlog := skips_log p.state (.enteringModule (w.resolve node).key depth)
    rw [skipped_visitedWith_of_body visited hbody hdeclares]
    exact hlog.after (h.descendBody node depth _)
  | importEquals | enum =>
    have hbody : w.body? node = none := by rw [body?, hc]
    rw [visitedWith_of_no_body visited hbody, skipped_singleton, contributes, declares?, hc]
    exact skips_log p.state (.ignored p.context.name)
  | other kind =>
    have hbody : w.body? node = none := by rw [body?, hc]
    rw [visitedWith_of_no_body visited hbody, skipped_singleton, contributes, declares?, hc]
    exact skips_log p.state (.dropped kind.name p.context.name)
  | _ =>
    have hbody : w.body? node = none := by rw [body?, hc]
    rw [visitedWith_of_no_body visited hbody, skipped_singleton, contributes, declares?, hc]
    exact .refl p.state

theorem skips_foldl {step : Json → Pass → Pass} {visited : Json → List Json}
    (h : ∀ u p, Skips (w.skipped (visited u)) p.state (step u p).state) (units : List Json)
    (p : Pass) :
    Skips (w.skipped (units.flatMap visited)) p.state
      (units.foldl (fun p u => step u p) p).state := by
  induction units generalizing p with
  | nil => exact .refl p.state
  | cons u rest ih =>
    have htrans := (h u p).trans (ih (step u p))
    rwa [skipped, skipped, ← List.countP_append, ← List.flatMap_cons] at htrans

/-- A traversal reports each visited statement that declares nothing. -/
theorem traverseWithin_reports (w : Walker) (room : Nat) :
    w.Reports (w.traverseWithin room) (w.visitedWithin room) := by
  induction room with
  | zero => exact fun node depth p => skips_log p.state _
  | succ room ih =>
    intro node depth p
    rw [traverseWithin_succ, visitedWithin]
    exact skips_foldl (fun u p => ih.collectWith u depth p) node.units p

end Events

section Totals

/-- A declaration in the tree, with all that is below it. -/
def weight (d : Decl) : Nat := 1 + d.descendants

theorem weight_pos (d : Decl) : 0 < weight d := by
  rw [weight]
  omega

theorem descendantsIn_eq (children : List (String × Decl)) :
    Decl.descendantsIn children = Ordered.total weight children := by
  induction children with
  | nil => rfl
  | cons e rest ih =>
    obtain ⟨key, d⟩ := e
    rw [Decl.descendantsIn, Ordered.total_cons, ih, weight]

/-- A statement contributes itself, when it declares something, and what its body leaves. -/
theorem weight_contributionWith (below : Json → List (String × Decl)) (node : Json) :
    (((w.contributionWith below node).map fun e => weight e.2).getD 0) =
      (if w.contributes node then 1 else 0) +
        Ordered.total weight (Ordered.ofList (w.insideBody below node)) := by
  rw [contributionWith, contributes, declares?, insideBody, body?]
  cases hc : Statement.classify w.kinds w.options.namespaceFlags node with
  | namespaceDecl | moduleDecl =>
    rw [← descendantsIn_eq, bodyWrites]
    cases node.field? "body" <;> rfl
  | _ => rfl

/-- The keys of contributions are those of the declarations, however these are filled. -/
theorem keys_contributions (below : Json → List (String × Decl)) (units : List Json) :
    Ordered.keys (units.filterMap (w.contributionWith below)) =
      Ordered.keys (units.filterMap w.declares?) := by
  have hcontribution : w.contributionWith below = fun u =>
      (w.declares? u).map fun e => (e.1, e.2.fill (Ordered.ofList (bodyWrites below u))) := rfl
  rw [Ordered.keys, Ordered.keys, List.map_filterMap, List.map_filterMap, hcontribution]
  simp only [Option.map_map, Function.comp_def]

/-- `kept` is no more than `declared`, and as many exactly under a condition. -/
def KeptIff (kept declared : Nat) (condition : Prop) : Prop :=
  kept ≤ declared ∧ (kept = declared ↔ condition)

theorem KeptIff.add {kept declared kept' declared' : Nat} {condition condition' : Prop}
    (h : KeptIff kept declared condition) (h' : KeptIff kept' declared' condition') :
    KeptIff (kept + kept') (declared + declared') (condition ∧ condition') := by
  obtain ⟨hle, hiff⟩ := h
  obtain ⟨hle', hiff'⟩ := h'
  refine ⟨Nat.add_le_add hle hle', ?_⟩
  rw [← hiff, ← hiff']
  omega

theorem KeptIff.trans {kept between declared : Nat} {condition condition' : Prop}
    (h : KeptIff kept between condition) (h' : KeptIff between declared condition') :
    KeptIff kept declared (condition ∧ condition') := by
  obtain ⟨hle, hiff⟩ := h
  obtain ⟨hle', hiff'⟩ := h'
  refine ⟨Nat.le_trans hle hle', ?_⟩
  rw [← hiff, ← hiff']
  omega

theorem KeptIff.refl (n : Nat) : KeptIff n n True := ⟨Nat.le_refl n, by simp⟩

/-- A context keeps what its writes weigh, but for keys that repeat. -/
theorem keptIff_ofList (writes : List (String × Decl)) :
    KeptIff (Ordered.total weight (Ordered.ofList writes)) (Ordered.total weight writes)
      (Ordered.keys writes).Nodup :=
  ⟨Ordered.total_ofList_le weight writes, Ordered.total_ofList_eq_iff weight weight_pos writes⟩

theorem keptIff_nil (w : Walker) :
    KeptIff (Ordered.total weight (Ordered.ofList ([] : List (String × Decl))))
      (List.countP w.contributes []) (∀ units ∈ [], w.Apart units) :=
  ⟨Nat.le_refl 0, iff_of_true rfl (by simp)⟩

/-- What the contributions of `below` keep of the statements of `visited`, when the contexts of
`filled` are filled on the way. -/
def Keeps (w : Walker) (below : Json → List (String × Decl)) (visited : Json → List Json)
    (filled : Json → List (List Json)) : Prop :=
  ∀ node, KeptIff (Ordered.total weight (Ordered.ofList (below node)))
    ((visited node).countP w.contributes) (∀ units ∈ filled node, w.Apart units)

theorem Keeps.insideBody {below : Json → List (String × Decl)} {visited : Json → List Json}
    {filled : Json → List (List Json)} (h : w.Keeps below visited filled) :
    w.Keeps (w.insideBody below) (w.insideBody visited) (w.insideBody filled) := by
  intro node
  simp only [Walker.insideBody]
  cases w.body? node with
  | none => exact w.keptIff_nil
  | some body => exact h body

/-- One statement counts itself, when it declares something, and what is inside it. -/
theorem Keeps.contribution {below : Json → List (String × Decl)} {visited : Json → List Json}
    {filled : Json → List (List Json)} (h : w.Keeps below visited filled) (node : Json) :
    KeptIff (((w.contributionWith below node).map fun e => weight e.2).getD 0)
      ((w.visitedWith visited node).countP w.contributes)
      (∀ units ∈ w.insideBody filled node, w.Apart units) := by
  have hvisited : (w.visitedWith visited node).countP w.contributes =
      (if w.contributes node then 1 else 0) +
        (w.insideBody visited node).countP w.contributes := by
    rw [visitedWith, Walker.insideBody, List.countP_cons, Nat.add_comm]
    cases w.body? node <;> rfl
  have hkept := (KeptIff.refl (if w.contributes node then 1 else 0)).add (h.insideBody node)
  rwa [true_and, ← weight_contributionWith, ← hvisited] at hkept

/-- The statements of a context weigh what they declare, but for what is lost inside them. -/
theorem Keeps.contributions {below : Json → List (String × Decl)} {visited : Json → List Json}
    {filled : Json → List (List Json)} (h : w.Keeps below visited filled) (units : List Json) :
    KeptIff (Ordered.total weight (units.filterMap (w.contributionWith below)))
      ((units.flatMap (w.visitedWith visited)).countP w.contributes)
      (∀ inner ∈ units.flatMap (w.insideBody filled), w.Apart inner) := by
  induction units with
  | nil => exact w.keptIff_nil
  | cons u rest ih =>
    have hsum : Ordered.total weight ((u :: rest).filterMap (w.contributionWith below)) =
        ((w.contributionWith below u).map fun e => weight e.2).getD 0 +
          Ordered.total weight (rest.filterMap (w.contributionWith below)) := by
      rw [List.filterMap_cons]
      cases w.contributionWith below u <;> simp
    rw [hsum, List.flatMap_cons, List.countP_append, List.flatMap_cons, List.forall_mem_append]
    exact (h.contribution u).add ih

/-- A traversal keeps what its statements declare, but for keys that repeat in one of the contexts
it fills. -/
theorem writesWithin_keeps (w : Walker) (room : Nat) :
    w.Keeps (w.writesWithin room) (w.visitedWithin room) (w.fillings room) := by
  induction room with
  | zero => exact fun _ => w.keptIff_nil
  | succ room ih =>
    intro node
    have hcontext := keptIff_ofList (node.units.filterMap (w.contributionWith (w.writesWithin room)))
    rw [keys_contributions] at hcontext
    rw [writesWithin, visitedWithin, fillings, List.forall_mem_cons]
    exact hcontext.trans (ih.contributions node.units)

/-- The contexts are filled with the statements that are visited, each in one place. -/
theorem fillings_flatten (w : Walker) (room : Nat) (node : Json) :
    ((w.fillings room node).flatten).Perm (w.visitedWithin room node) := by
  induction room generalizing node with
  | zero => exact .refl []
  | succ room ih =>
    have hinside : ∀ u, ((w.insideBody (w.fillings room) u).flatten).Perm
        (w.insideBody (w.visitedWithin room) u) := by
      intro u
      simp only [Walker.insideBody]
      cases w.body? u with
      | none => exact .refl []
      | some body => exact ih body
    have hvisited : w.visitedWith (w.visitedWithin room) =
        fun u => [u] ++ w.insideBody (w.visitedWithin room) u := by
      funext u
      rw [visitedWith, Walker.insideBody]
      cases w.body? u <;> rfl
    have hunits : node.units.flatMap (fun u => [u]) = node.units := by simp
    rw [fillings, visitedWithin, hvisited, List.flatten_cons, List.flatten_eq_flatMap,
      List.flatMap_assoc]
    simp only [List.flatMap_id]
    refine .trans ?_ (List.flatMap_append_perm node.units (fun u => [u]) _)
    rw [hunits]
    exact (List.Perm.flatMap_left node.units fun u _ => hinside u).append_left node.units

end Totals

theorem countP_contributes_add_skipped (w : Walker) (nodes : List Json) :
    nodes.countP w.contributes + w.skipped nodes = nodes.length := by
  rw [List.length_eq_countP_add_countP w.contributes, skipped]
  simp only [Bool.not_eq_true, Bool.decide_eq_false]

/-- A walk reports each statement that declares nothing, and that it is complete. -/
theorem walk_skips (w : Walker) (ast : Json) (s : State) :
    Skips (w.skipped (w.visitedWithin (w.options.maxDepth + 1) ast)) s (w.walk ast s).state :=
  (w.traverseWithin_reports _ ast 0 _).trans (skips_log _ (.walkComplete _ _))

theorem walk_descendants (w : Walker) (ast : Json) (s : State) :
    (w.walk ast s).context.descendants = Ordered.total weight
      (Ordered.ofList (w.writesWithin (w.options.maxDepth + 1) ast)) := by
  rw [walk_context, ← descendantsIn_eq]
  rfl

/-- Of the statements that a walk collects, all are in the tree but those that are reported as
ignored or dropped, unless two statements of a context declare something under one key. Then at
least one is lost. -/
theorem declarations_are_lost_by_collision_only (w : Walker) (ast : Json) (s : State) :
    let visits := w.traverseVisits ast 0 ⟨.newModule "root", { s with scope := s.scope.reset }⟩
    let filled := w.fillings (w.options.maxDepth + 1) ast
    filled.flatten.Perm (visits.map Visit.node) ∧
      ∃ logged, (w.walk ast s).state.events = logged ++ s.events ∧
        (w.walk ast s).context.descendants + logged.countP Event.isIgnored +
            logged.countP Event.isDropped ≤ visits.length ∧
        ((w.walk ast s).context.descendants + logged.countP Event.isIgnored +
            logged.countP Event.isDropped = visits.length ↔
          ∀ units ∈ filled, w.Apart units) := by
  intro visits filled
  have hnodes : visits.map Visit.node = w.visitedWithin (w.options.maxDepth + 1) ast :=
    traverseVisits_nodes w ast 0 _
  have hlength : visits.length = (w.visitedWithin (w.options.maxDepth + 1) ast).length := by
    rw [← hnodes, List.length_map]
  obtain ⟨logged, hevents, hskips⟩ := w.walk_skips ast s
  obtain ⟨hle, hiff⟩ := w.writesWithin_keeps (w.options.maxDepth + 1) ast
  have hall := w.countP_contributes_add_skipped (w.visitedWithin (w.options.maxDepth + 1) ast)
  refine ⟨hnodes ▸ w.fillings_flatten _ ast, logged, hevents, ?_⟩
  rw [walk_descendants, hlength, ← hiff]
  omega

end Walker

end DeclTree
