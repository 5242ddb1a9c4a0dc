import DeclTree.Proofs.Visits

/-!
# The calls that a walk makes

A traversal collects its units one after the other (`traverse_eq`), and collecting a statement
may begin the traversal of a body (`collect_eq`). What is begun can be told from what comes
out: if just this one traversal went differently, the outcome would be another one
(`Descends`). The calls of `collect` that are reached in this way are `Calls`.

With which context and state a body begins is not said there but follows: it is with the
opening of the statement (`descends_iff`). Hence the visits are these calls and no others
(`mem_traverseVisits_iff`, `mem_collectVisits_iff`).
-/

namespace DeclTree.Walker

variable {w : Walker}

/-- The body of a statement is traversed. -/
theorem collect_eq (w : Walker) (node : Json) (depth : Nat) (p : Pass) :
    w.collect node depth p = w.collectWith w.traverse node depth p := by
  apply collectWith_congr
  intro body _
  rw [traverse, Nat.add_sub_add_right]

/-- Collecting a statement begins the traversal of a body, at a depth and with a pass. If this
one traversal, and no other, gave something else, then so could the statement. -/
def Descends (w : Walker) (node : Json) (depth : Nat) (p : Pass) (body : Json) (below : Nat)
    (q : Pass) : Prop :=
  ∃ descend : Descent,
    (∀ b d r, (b, d, r) ≠ (body, below, q) → descend b d r = w.traverse b d r) ∧
      w.collectWith descend node depth p ≠ w.collect node depth p

/-- The calls of `collect` that are reached when statements are collected one after the other
at a depth, and the modules and namespaces around each. -/
inductive Calls (w : Walker) : List Json → Nat → Pass → Visit → Prop
  | first (u : Json) (rest : List Json) (depth : Nat) (p : Pass) :
      Calls w (u :: rest) depth p ⟨u, depth, [], p⟩
  | inside {u : Json} {rest : List Json} {depth : Nat} {p : Pass} {body : Json} {below : Nat}
      {q : Pass} {v : Visit} (hbody : w.Descends u depth p body below q)
      (hbelow : below ≤ w.options.maxDepth) (hv : Calls w body.units below q v) :
      Calls w (u :: rest) depth p (v.inside u)
  | later {u : Json} {rest : List Json} {depth : Nat} {p : Pass} {v : Visit}
      (hv : Calls w rest depth (w.collect u depth p) v) : Calls w (u :: rest) depth p v

theorem State.exit_events (s : State) (name : Name) : (s.exit name).events = s.events := by
  cases name <;> rfl

/-- A statement with a body gives the events that its body gives. -/
theorem collectWith_events {node body : Json} (hbody : w.body? node = some body)
    (descend : Descent) (depth : Nat) (p : Pass) :
    (w.collectWith descend node depth p).state.events =
      (descend body (depth + 1) (w.opening node depth p.state)).state.events := by
  rw [body?] at hbody
  rw [collectWith, opening]
  cases hc : Statement.classify w.kinds w.options.namespaceFlags node with
  | namespaceDecl =>
    simp only [hc] at hbody
    simp only [collectNamespace, descendBody, hbody, State.exit_events]
  | moduleDecl =>
    simp only [hc] at hbody
    simp only [collectModule, descendBody, hbody]
  | _ => simp only [hc] at hbody; cases hbody

/-- The one traversal that a statement begins is that of its body, with its opening. -/
theorem descends_iff {node body : Json} {depth below : Nat} {p q : Pass} :
    w.Descends node depth p body below q ↔
      w.body? node = some body ∧ below = depth + 1 ∧ q = w.opening node depth p.state := by
  constructor
  · rintro ⟨descend, hsame, hne⟩
    apply Classical.byContradiction
    intro hother
    -- elsewhere the two traversals agree, so that the statement would come out the same
    apply hne
    rw [collect_eq]
    refine collectWith_congr fun b hb => hsame b _ _ fun heq => ?_
    obtain ⟨rfl, rfl, rfl⟩ : b = body ∧ depth + 1 = below ∧ w.opening node depth p.state = q := by
      simpa only [Prod.mk.injEq] using heq
    exact hother ⟨hb, rfl, rfl⟩
  · rintro ⟨hbody, rfl, rfl⟩
    classical
    -- an event more, and it is seen in those of the statement
    let descend : Descent := fun b d r =>
      if (b, d, r) = (body, depth + 1, w.opening node depth p.state) then
        (w.traverse b d r).log .unnamedNamespace
      else w.traverse b d r
    refine ⟨descend, fun b d r hne => if_neg hne, fun heq => ?_⟩
    have hevents := congrArg (·.state.events) heq
    simp only [collect_eq, collectWith_events hbody] at hevents
    have hmore : descend body (depth + 1) (w.opening node depth p.state) =
        (w.traverse body (depth + 1) (w.opening node depth p.state)).log .unnamedNamespace :=
      if_pos rfl
    rw [hmore] at hevents
    exact List.cons_ne_self _ _ hevents

/-! ### The visits are the calls -/

/-- The visits of statements collected one after the other at a depth. -/
def visitsAt (w : Walker) (depth : Nat) : List Json → Pass → List Visit :=
  visitsOver (w.collect · depth) (w.collectVisits · depth)

theorem traverseVisits_eq (w : Walker) (node : Json) {depth : Nat}
    (hd : depth ≤ w.options.maxDepth) (p : Pass) :
    w.traverseVisits node depth p = w.visitsAt depth node.units p := by
  rw [traverseVisits, Nat.sub_add_comm hd]
  rfl

/-- Beyond the limit nothing is visited. -/
theorem le_of_mem_traverseVisits {node : Json} {depth : Nat} {p : Pass} {v : Visit}
    (hv : v ∈ w.traverseVisits node depth p) : depth ≤ w.options.maxDepth := by
  apply Nat.le_of_not_lt
  intro hlimit
  rw [traverseVisits, Nat.sub_eq_zero_of_le hlimit] at hv
  cases hv

theorem collectVisits_eq (w : Walker) (node : Json) (depth : Nat) (p : Pass) :
    w.collectVisits node depth p = w.visitsWith w.traverseVisits node depth p := by
  rw [collectVisits, visitsWith, visitsWith]
  cases w.body? node with
  | none => rfl
  | some body => simp only [traverseVisits, Nat.add_sub_add_right]

theorem Calls.mem_visitsAt {nodes : List Json} {depth : Nat} {p : Pass} {v : Visit}
    (h : w.Calls nodes depth p v) : v ∈ w.visitsAt depth nodes p := by
  induction h with
  | first u rest depth p => exact List.mem_cons_self
  | inside hbody hbelow _ ih =>
    obtain ⟨hsome, rfl, rfl⟩ := descends_iff.mp hbody
    rw [← traverseVisits_eq w _ hbelow] at ih
    rw [visitsAt, visitsOver, collectVisits_eq, visitsWith, hsome]
    exact List.mem_append_left _ (List.mem_cons_of_mem _ (List.mem_map_of_mem ih))
  | later _ ih => exact List.mem_append_right _ ih

theorem calls_of_mem_visitsAt {nodes : List Json} {depth : Nat} {p : Pass} {v : Visit}
    (hv : v ∈ w.visitsAt depth nodes p) : w.Calls nodes depth p v := by
  -- on the levels left, and for each on the statements
  induction hroom : w.options.maxDepth - depth using Nat.strongRecOn
    generalizing nodes depth p v with
  | ind room ih =>
    induction nodes generalizing p with
    | nil => cases hv
    | cons u rest ihrest =>
      rw [visitsAt, visitsOver, List.mem_append, collectVisits_eq, visitsWith,
        List.mem_cons] at hv
      rcases hv with (rfl | hv) | hv
      · exact .first u rest depth p
      · cases hsome : w.body? u with
        | none => simp only [hsome, List.not_mem_nil] at hv
        | some body =>
          simp only [hsome, List.mem_map] at hv
          obtain ⟨v, hv, rfl⟩ := hv
          have hbelow := le_of_mem_traverseVisits hv
          rw [traverseVisits_eq w _ hbelow] at hv
          exact .inside (descends_iff.mpr ⟨hsome, rfl, rfl⟩) hbelow
            (ih _ (by omega) hv rfl)
      · exact .later (ihrest hv)

/-- Within the limit, what a traversal visits are the calls that it makes. -/
theorem mem_traverseVisits_iff {node : Json} {depth : Nat} (hd : depth ≤ w.options.maxDepth)
    (p : Pass) (v : Visit) :
    v ∈ w.traverseVisits node depth p ↔ w.Calls node.units depth p v := by
  rw [traverseVisits_eq w node hd]
  exact ⟨calls_of_mem_visitsAt, Calls.mem_visitsAt⟩

theorem mem_collectVisits_iff {node : Json} {depth : Nat} (p : Pass) (v : Visit) :
    v ∈ w.collectVisits node depth p ↔ w.Calls [node] depth p v := by
  have honly : w.collectVisits node depth p = w.visitsAt depth [node] p :=
    (List.append_nil _).symm
  rw [honly]
  exact ⟨calls_of_mem_visitsAt, Calls.mem_visitsAt⟩

end DeclTree.Walker
