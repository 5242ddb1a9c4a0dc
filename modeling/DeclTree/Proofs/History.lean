import DeclTree.Proofs.ScopeEffect

/-!
# Contexts and walks do not depend on the past

A walker keeps its namespace and its events from call to call. Neither reaches a
context: a statement contributes the same child whatever was called before, and
a walk gives the same tree and leaves the same namespace as on a new walker.
-/

namespace DeclTree.Walker

/-- A call on a walker; the caller of the last two hands in the context to fill. -/
inductive Call where
  | walk (ast : Json)
  | traverse (node : Json) (depth : Nat) (context : Context)
  | collect (node : Json) (depth : Nat) (context : Context)

/-- The state that a call leaves. -/
def call (w : Walker) (s : State) : Call → State
  | .walk ast => (w.walk ast s).state
  | .traverse node depth context => (w.traverse node depth ⟨context, s⟩).state
  | .collect node depth context => (w.collect node depth ⟨context, s⟩).state

/-- The state of a walker after a history of calls. -/
def after (w : Walker) (history : List Call) : State := history.foldl w.call w.start

theorem call_mode (w : Walker) (s : State) (c : Call) :
    (w.call s c).scope.mode = s.scope.mode := by
  cases c with
  | walk ast =>
    have h : (w.call s (.walk ast)).scope = _ := walk_scope w ast s
    rw [h]
    exact scopeWithin_keepsMode w _ ast _
  | traverse node depth context =>
    have h : (w.call s (.traverse node depth context)).scope = _ :=
      traverseWithin_scope w _ node depth ⟨context, s⟩
    rw [h]
    exact scopeWithin_keepsMode w _ node s.scope
  | collect node depth context =>
    have h : (w.call s (.collect node depth context)).scope = _ :=
      collectWith_scope (traverseWithin_scope w _) node depth ⟨context, s⟩
    rw [h]
    exact (scopeWithin_keepsMode w _).scopeWith node s.scope

/-- No call changes the mode. -/
theorem after_mode (w : Walker) (history : List Call) :
    (w.after history).scope.mode = w.options.scopeMode := by
  have h : ∀ s, (history.foldl w.call s).scope.mode = s.scope.mode := by
    induction history with
    | nil => intro s; rfl
    | cons c rest ih =>
      intro s
      exact (ih (w.call s c)).trans (call_mode w s c)
  exact h w.start

theorem walk_after (w : Walker) (history : List Call) (ast : Json) :
    (w.walk ast (w.after history)).context = (w.walk ast w.start).context ∧
      (w.walk ast (w.after history)).state.scope = (w.walk ast w.start).state.scope := by
  constructor
  · rw [walk_context, walk_context]
  · rw [walk_scope, walk_scope, after_mode]
    rfl

/-- A statement contributes at most one child, which depends on nothing but the
statement and its depth. So the keys that a container adds come in the order of
their first contribution, each with its last child, and no call has an influence
on a later walk. -/
theorem collect_adds_one_contribution (kinds : KindTable) (print : Printer)
    (options : WalkOptions) :
    ∃ contrib : Json → Nat → Option (String × Decl), ∀ mode : ScopeMode,
      let w : Walker := ⟨kinds, print, { options with scopeMode := mode }⟩
      (∀ node depth p, (w.collect node depth p).context =
        match contrib node depth with
        | none => p.context
        | some (key, d) => p.context.add key d) ∧
      (∀ node statements depth p, node.statements? = some statements →
        depth ≤ options.maxDepth →
        let added := statements.filterMap (contrib · depth)
        let c := (w.traverse node depth p).context
        c.keys = p.context.keys ++
          ((Ordered.keys added).filter (· ∉ p.context.keys)).eraseDups ∧
        ∀ key, c.child? key = (Ordered.get? added.reverse key).or (p.context.child? key)) ∧
      ∀ history ast,
        (w.walk ast (w.after history)).context = (w.walk ast w.start).context ∧
        (w.walk ast (w.after history)).state.scope = (w.walk ast w.start).state.scope := by
  refine ⟨contribution ⟨kinds, print, options⟩, fun mode => ?_⟩
  intro w
  -- contributions never read the mode, so one function serves both
  have hmode : ∀ node depth,
      contribution ⟨kinds, print, options⟩ node depth = w.contribution node depth := by
    intro node depth
    have hdeclares : declares? ⟨kinds, print, options⟩ = w.declares? := rfl
    simp only [contribution, contributionWith, writesWithin_congr hdeclares, hdeclares, w]
  refine ⟨?_, ?_, walk_after w⟩
  · intro node depth p
    rw [collect_context, hmode]
    cases w.contribution node depth <;> rfl
  · intro node statements depth p hs hd
    have hunits : node.units = statements := by rw [Json.units, hs]; rfl
    simp only [hmode]
    rw [traverse_context w node hd, hunits]
    exact ⟨Ordered.keys_putAll _ _, Ordered.get?_putAll _ _⟩

/-- Of three classes the last takes the place of the first, which has its name. -/
theorem collect_adds_one_contribution_repeated :
    let w : Walker := ⟨.empty, fun _ => "", .default⟩
    let named (name : String) : Json :=
      .object [("kind", .string "ClassDeclaration"), ("name", .object [("text", .string name)])]
    let statements := [named "A", named "B", named "A"]
    let node : Json := .object [("statements", .array statements)]
    node.statements? = some statements ∧ 0 ≤ w.options.maxDepth ∧
      ∃ contrib : Json → Nat → Option (String × Decl),
        (w.traverse node 0 ⟨.newModule "m", w.start⟩).context.keys =
          [] ++
            ((Ordered.keys (statements.filterMap (contrib · 0))).filter (· ∉ [])).eraseDups ∧
        (w.traverse node 0 ⟨.newModule "m", w.start⟩).context.keys = ["A", "B"] := by
  intro w named statements node
  obtain ⟨contrib, h⟩ := collect_adds_one_contribution .empty (fun _ => "") .default
  refine ⟨rfl, Nat.zero_le _, contrib, ?_, by decide⟩
  exact ((h .flat).2.1 node statements 0 ⟨.newModule "m", w.start⟩ rfl (Nat.zero_le _)).1

end DeclTree.Walker
