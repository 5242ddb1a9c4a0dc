import Mathlib.Data.List.Basic
import DeclTree.Proofs.Position
import DeclTree.Proofs.Visits

/-!
# The depth limit cuts a tree

A body deeper than the limit is skipped, but the context for it is made. So a
lower limit gives the tree of a higher one with every context emptied that is
deeper than the limit (`truncate`): what is written under a key is cut before or
after the write alike. Above the nesting of the program the limit has no part in
a walk at all, neither in the tree nor in what is logged (`walk_of_nesting_le`).
-/

namespace DeclTree

namespace Decl

mutual

/-- Empty the contexts that are deeper than `limit`, for a declaration at a level. -/
def truncate (limit : Nat) : Nat → Decl → Decl
  | _, .leaf l => .leaf l
  | level, .context kind name children =>
    .context kind name (if limit < level then [] else truncateIn limit (level + 1) children)

def truncateIn (limit : Nat) : Nat → List (String × Decl) → List (String × Decl)
  | _, [] => []
  | level, (key, d) :: rest => (key, truncate limit level d) :: truncateIn limit level rest

end

theorem truncateIn_eq (limit level : Nat) (children : List (String × Decl)) :
    truncateIn limit level children = Ordered.mapValues (truncate limit level) children := by
  induction children with
  | nil => rfl
  | cons e rest ih =>
    obtain ⟨key, d⟩ := e
    rw [truncateIn, ih]
    rfl

theorem truncate_fill (limit level : Nat) (d : Decl) (children : List (String × Decl)) :
    (d.fill children).truncate limit level =
      d.fill (if limit < level then []
        else Ordered.mapValues (truncate limit (level + 1)) children) := by
  cases d with
  | leaf l => rfl
  | context kind name _ => simp only [fill, truncate, truncateIn_eq]

theorem children_truncate (limit level : Nat) (d : Decl) :
    (d.truncate limit level).children =
      if limit < level then [] else Ordered.mapValues (truncate limit (level + 1)) d.children := by
  cases d with
  | leaf l => by_cases h : limit < level <;> simp [truncate, children, Ordered.mapValues, h]
  | context kind name _ => simp only [truncate, children, truncateIn_eq]

/-- Down to one level below the limit the declarations are those of the whole tree, cut
below themselves; there are none further down. -/
theorem below?_truncate {limit level : Nat} (h : level ≤ limit + 1) (d : Decl)
    (address : List Nat) :
    (d.truncate limit level).below? address =
      if level + address.length ≤ limit + 1 then
        (d.below? address).map (truncate limit (level + address.length))
      else none := by
  induction address generalizing d level with
  | nil =>
    have hlevel : level + ([] : List Nat).length ≤ limit + 1 := h
    rw [if_pos hlevel]
    rfl
  | cons i rest ih =>
    rw [below?, children_truncate]
    by_cases hlt : limit < level
    · have hdeep : ¬ level + (i :: rest).length ≤ limit + 1 := by
        simp only [List.length_cons]
        omega
      rw [if_pos hlt, if_neg hdeep]
      rfl
    · have hlength : level + 1 + rest.length = level + (i :: rest).length := by
        simp only [List.length_cons]
        omega
      have hlevel : level + 1 ≤ limit + 1 := by omega
      rw [if_neg hlt, Ordered.mapValues, List.getElem?_map, below?]
      cases d.children[i]? with
      | none => simp
      | some e =>
        have hrest := ih hlevel e.2
        rw [hlength] at hrest
        exact hrest

end Decl

namespace Json

theorem sizeOf_lt_of_get? {v u : Json} {key : String} (h : v.get? key = some u) :
    sizeOf u < sizeOf v := by
  cases v with
  | object fields =>
    have hmem : (key, u) ∈ fields := Ordered.mem_of_get? h
    have hfield := List.sizeOf_lt_of_mem hmem
    simp only [Prod.mk.sizeOf_spec, object.sizeOf_spec] at hfield ⊢
    omega
  | _ => cases h

theorem sizeOf_lt_of_field? {v u : Json} {key : String} (h : v.field? key = some u) :
    sizeOf u < sizeOf v :=
  sizeOf_lt_of_get? (Option.filter_eq_some_iff.mp h).1

theorem sizeOf_le_of_mem_units {v u : Json} (h : u ∈ v.units) : sizeOf u ≤ sizeOf v := by
  rw [units] at h
  cases hs : v.statements? with
  | none =>
    simp only [hs, Option.getD_none, List.mem_singleton] at h
    exact Nat.le_of_eq (congrArg sizeOf h)
  | some statements =>
    obtain ⟨items, hitems, harray⟩ := Option.bind_eq_some_iff.mp hs
    have hlt := sizeOf_lt_of_get? hitems
    cases items with
    | array items =>
      cases harray
      have hmem := List.sizeOf_lt_of_mem (by simpa only [hs, Option.getD_some] using h)
      simp only [array.sizeOf_spec] at hlt
      omega
    | _ => cases harray

end Json

namespace Walker

variable {w : Walker}

theorem sizeOf_lt_of_body? {node u body : Json} (hu : u ∈ node.units)
    (hb : w.body? u = some body) : sizeOf body < sizeOf node := by
  have hfield : u.field? "body" = some body := by
    rw [body?] at hb
    split at hb
    · exact hb
    · exact hb
    · cases hb
  have hlt := Json.sizeOf_lt_of_field? hfield
  have hle := Json.sizeOf_le_of_mem_units hu
  omega

/-- How deep the bodies of modules and namespaces nest. -/
def nesting (w : Walker) (node : Json) : Nat :=
  (node.units.attach.map fun u =>
    match h : w.body? u.val with
    | some body => w.nesting body + 1
    | none => 0).max?.getD 0
termination_by sizeOf node
decreasing_by exact sizeOf_lt_of_body? u.property h

theorem nesting_eq (w : Walker) (node : Json) :
    w.nesting node =
      (node.units.map fun u => ((w.body? u).map (w.nesting · + 1)).getD 0).max?.getD 0 := by
  rw [nesting]
  congr 2
  refine Eq.trans (List.map_congr_left ?_) List.attach_map_val
  intro u _
  split
  · next heq => rw [heq]; rfl
  · next heq => rw [heq]; rfl

theorem nesting_body_lt {node u body : Json} (hu : u ∈ node.units)
    (hb : w.body? u = some body) : w.nesting body < w.nesting node := by
  rw [nesting_eq w node]
  apply List.le_max?_getD_of_mem
  refine List.mem_map.mpr ⟨u, hu, ?_⟩
  rw [hb]
  rfl

/-- The same walker with another depth limit. -/
def limited (w : Walker) (limit : Nat) : Walker :=
  { w with options := { w.options with maxDepth := limit } }

/-- A walked tree, from its root. -/
theorem walk_limited (w : Walker) (limit : Nat) (ast : Json) (s : State) :
    ((w.limited limit).walk ast s).context.toDecl =
      .context .moduleDecl "root" (Ordered.ofList (w.writesWithin (limit + 1) ast)) := by
  have hdeclares : (w.limited limit).declares? = w.declares? := rfl
  rw [walk_context, writesWithin_congr hdeclares]
  rfl

/-- To cut what a statement contributes is to cut what is written from its body. -/
theorem contributionWith_truncate {below below' : Json → List (String × Decl)}
    {limit level : Nat}
    (h : ∀ body, (if limit < level then []
      else Ordered.mapValues (Decl.truncate limit (level + 1)) (below body)) = below' body)
    (u : Json) :
    (w.contributionWith below u).map (fun e => (e.1, e.2.truncate limit level)) =
      w.contributionWith below' u := by
  have hwrites : (if limit < level then []
      else Ordered.mapValues (Decl.truncate limit (level + 1)) (bodyWrites below u)) =
        bodyWrites below' u := by
    rw [bodyWrites, bodyWrites]
    cases u.field? "body" with
    | none => exact ite_self []
    | some body => exact h body
  have hchildren : (if limit < level then []
      else Ordered.mapValues (Decl.truncate limit (level + 1))
        (Ordered.ofList (bodyWrites below u))) = Ordered.ofList (bodyWrites below' u) := by
    rw [← hwrites]
    by_cases hlt : limit < level
    · rw [if_pos hlt, if_pos hlt]
      rfl
    · rw [if_neg hlt, if_neg hlt]
      exact (Ordered.putAll_mapValues _ [] _).symm
  rw [contributionWith, contributionWith, Option.map_map]
  congr 1
  funext e
  simp only [Function.comp_apply, Decl.truncate_fill, hchildren]

theorem filterMap_contributionWith_truncate {below below' : Json → List (String × Decl)}
    {limit level : Nat}
    (h : ∀ body, (if limit < level then []
      else Ordered.mapValues (Decl.truncate limit (level + 1)) (below body)) = below' body)
    (nodes : List Json) :
    Ordered.mapValues (Decl.truncate limit level) (nodes.filterMap (w.contributionWith below)) =
      nodes.filterMap (w.contributionWith below') := by
  rw [Ordered.mapValues, List.map_filterMap]
  congr 1
  funext u
  exact contributionWith_truncate h u

/-- Contributions with fewer levels left are those with more levels left, cut. -/
theorem writesWithin_truncate (w : Walker) {n m : Nat} (h : n ≤ m) (level : Nat) (node : Json) :
    Ordered.mapValues (Decl.truncate (level + n) (level + 1)) (w.writesWithin (m + 1) node) =
      w.writesWithin (n + 1) node := by
  induction n generalizing m level node with
  | zero =>
    apply filterMap_contributionWith_truncate
    intro body
    exact if_pos (Nat.lt_succ_self level)
  | succ n ih =>
    obtain ⟨m, rfl⟩ : ∃ m', m = m' + 1 := ⟨m - 1, by omega⟩
    apply filterMap_contributionWith_truncate
    intro body
    -- the children are one level further down, with as many levels less to go
    have hshallow : ¬ level + (n + 1) < level + 1 := by omega
    have hlimit : level + (n + 1) = level + 1 + n := by omega
    rw [if_neg hshallow, hlimit]
    exact ih (Nat.le_of_succ_le_succ h) (level + 1) body

/-- The tree of a limit is the tree of a higher one, cut. -/
theorem walk_truncate (w : Walker) {n m : Nat} (h : n ≤ m) (ast : Json) (s : State) :
    ((w.limited n).walk ast s).context.toDecl =
      ((w.limited m).walk ast s).context.toDecl.truncate n 0 := by
  have hwrites := writesWithin_truncate w h 0 ast
  rw [Nat.zero_add] at hwrites
  rw [walk_limited, walk_limited, Decl.truncate, if_neg (Nat.not_lt_zero n),
    Decl.truncateIn_eq, ← hwrites]
  congr 1
  exact Ordered.putAll_mapValues _ [] _

/-- With more levels left than the bodies nest, their number does not matter. -/
theorem traverseWithin_of_nesting_lt (w : Walker) (n m : Nat) {room room' : Nat} {node : Json}
    (h : w.nesting node < room) (h' : w.nesting node < room') (depth : Nat) (p : Pass) :
    (w.limited n).traverseWithin room node depth p =
      (w.limited m).traverseWithin room' node depth p := by
  induction room generalizing room' node depth p with
  | zero => exact absurd h (Nat.not_lt_zero _)
  | succ room ih =>
    obtain ⟨room', rfl⟩ : ∃ k, room' = k + 1 := ⟨room' - 1, by omega⟩
    rw [traverseWithin_succ, traverseWithin_succ]
    apply List.foldl_ext
    intro p u hu
    apply collectWith_congr (w := w.limited n)
    intro body hb
    have hlt : w.nesting body < w.nesting node := nesting_body_lt hu hb
    have hbody : w.nesting body < room := by omega
    have hbody' : w.nesting body < room' := by omega
    exact ih hbody hbody' (depth + 1) _

/-- From the nesting of the program on, the limit has no part in a walk. -/
theorem walk_of_nesting_le (w : Walker) {ast : Json} {n m : Nat} (hn : w.nesting ast ≤ n)
    (hm : w.nesting ast ≤ m) (s : State) : (w.limited n).walk ast s = (w.limited m).walk ast s := by
  have htraverse (p : Pass) : (w.limited n).traverse ast 0 p = (w.limited m).traverse ast 0 p :=
    traverseWithin_of_nesting_lt w n m (Nat.lt_succ_of_le hn) (Nat.lt_succ_of_le hm) 0 p
  simp only [walk, htraverse]

/-- A limit cuts the tree of a higher one: contexts deeper than the limit are emptied.
So nothing is deeper than one level below the limit, the contexts there are those of
the higher limit without their children, and from the nesting of the program on the
limit makes no difference to the walk. -/
theorem walk_limit_truncates (w : Walker) (ast : Json) (s : State) :
    let root (limit : Nat) := ((w.limited limit).walk ast s).context.toDecl
    (∀ n m, n ≤ m → root n = (root m).truncate n 0) ∧
      (∀ n address, ((root n).below? address).isSome → address.length ≤ n + 1) ∧
      (∀ n m address kind name children, n ≤ m → address.length = n + 1 →
        (root m).below? address = some (.context kind name children) →
        (root n).below? address = some (.context kind name [])) ∧
      ∀ n, w.nesting ast ≤ n →
        (w.limited n).walk ast s = (w.limited (w.nesting ast)).walk ast s := by
  intro root
  have hcut (n m : Nat) (h : n ≤ m) (address : List Nat) :
      (root n).below? address =
        if address.length ≤ n + 1 then
          ((root m).below? address).map (Decl.truncate n address.length)
        else none := by
    have hbelow := Decl.below?_truncate (Nat.zero_le (n + 1)) (root m) address
    rw [Nat.zero_add] at hbelow
    rw [← hbelow]
    exact congrArg (Decl.below? · address) (walk_truncate w h ast s)
  refine ⟨fun n m h => walk_truncate w h ast s, ?_, ?_, ?_⟩
  · intro n address hsome
    by_cases hlength : address.length ≤ n + 1
    · exact hlength
    · rw [hcut n n (Nat.le_refl n), if_neg hlength] at hsome
      cases hsome
  · intro n m address kind name children h hlength hfound
    have hle : address.length ≤ n + 1 := Nat.le_of_eq hlength
    rw [hcut n m h, if_pos hle, hfound, hlength, Option.map_some, Decl.truncate,
      if_pos (Nat.lt_succ_self n)]
  · intro n hn
    exact walk_of_nesting_le w hn (Nat.le_refl _) s

/-- The module at the limit is the second of its name, without its class. -/
theorem walk_limit_truncates_nested :
    let w : Walker := ⟨.empty, fun _ => "", .default⟩
    let inside (flags : Nat) (name : String) (body : Json) : Json :=
      .object [("kind", .string "ModuleDeclaration"), ("flags", .ofNat flags),
        ("name", .object [("text", .string name)]), ("body", body)]
    let leaf : Json := .object [("kind", .string "ClassDeclaration")]
    let block : Json := .object [("statements", .array [inside 0 "M" .null, inside 0 "M" leaf])]
    let ast := inside 16 "N" block
    let root (limit : Nat) := ((w.limited limit).walk ast w.start).context.toDecl
    let member : Decl := .leaf ⟨.propertyDecl, none, "ClassDeclaration", leaf⟩
    root 1 = (root 5).truncate 1 0 ∧ ((root 1).below? [0, 0]).isSome ∧
      [0, 0].length ≤ 1 + 1 ∧
      (root 5).below? [0, 0] = some (.context .moduleDecl "M" [("INVALID NAME REF", member)]) ∧
      (root 1).below? [0, 0] = some (.context .moduleDecl "M" []) ∧ w.nesting ast = 2 ∧
      (w.limited 5).walk ast w.start = (w.limited (w.nesting ast)).walk ast w.start := by
  intro w inside leaf block ast root member
  obtain ⟨hcut, hdepth, hempty, hlimit⟩ := walk_limit_truncates w ast w.start
  have hfound : (root 5).below? [0, 0] =
      some (.context .moduleDecl "M" [("INVALID NAME REF", member)]) := rfl
  have hpresent := hempty 1 5 [0, 0] _ _ _ (by decide) rfl hfound
  have hsome : ((root 1).below? [0, 0]).isSome := Option.isSome_of_mem hpresent
  have hleaf : w.nesting leaf = 0 := nesting_eq w leaf
  have hblock : w.nesting block = 1 :=
    calc w.nesting block = [0, w.nesting leaf + 1].max?.getD 0 := nesting_eq w block
      _ = 1 := by rw [hleaf]; rfl
  have hnesting : w.nesting ast = 2 :=
    calc w.nesting ast = [w.nesting block + 1].max?.getD 0 := nesting_eq w ast
      _ = 2 := by rw [hblock]; rfl
  exact ⟨hcut 1 5 (by decide), hsome, hdepth 1 [0, 0] hsome, hfound, hpresent, hnesting,
    hlimit 5 (by omega)⟩

end Walker

end DeclTree
