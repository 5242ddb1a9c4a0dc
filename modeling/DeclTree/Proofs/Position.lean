import DeclTree.Proofs.Contribution

/-!
# Where the nodes of a declaration tree come from

A position is a path down a program tree by bodies and statements. Every node
below the root of a walked tree has a position of its own: the one of the unit
whose contribution was the last under its key. `tagged` carries the positions of
the units through the writes, and `locate` reads them off along an address.

An address is a path down a declaration tree by indices of children, so that two
entries of one context are never taken for one another.
-/

namespace DeclTree

/-- A step down a program tree. -/
inductive Step where
  | body
  | statement (i : Nat)
  deriving DecidableEq, Repr

abbrev Position := List Step

namespace Json

def step? (v : Json) : Step → Option Json
  | .body => v.field? "body"
  | .statement i => (v.statements?).bind (·[i]?)

/-- The node at a position. -/
def follow? : Json → Position → Option Json
  | v, [] => some v
  | v, s :: rest => (v.step? s).bind (follow? · rest)

theorem follow?_append (v : Json) (p q : Position) :
    v.follow? (p ++ q) = (v.follow? p).bind (follow? · q) := by
  induction p generalizing v with
  | nil => rfl
  | cons s rest ih =>
    simp only [List.cons_append, follow?, Option.bind_assoc]
    congr 1
    funext u
    exact ih u

/-- A position of what a traversal of a node collects: a statement, or the node itself. -/
def IsUnit (v : Json) (q : Position) : Prop :=
  match v.statements? with
  | some _ => ∃ i, q = [.statement i]
  | none => q = []

/-- The units of a node with their positions. -/
def placedUnits (v : Json) : List (Position × Json) :=
  match v.statements? with
  | some statements => statements.zipIdx.map fun e => ([.statement e.2], e.1)
  | none => [([], v)]

theorem placedUnits_units (v : Json) : v.placedUnits.map Prod.snd = v.units := by
  rw [placedUnits, units]
  cases v.statements? with
  | none => rfl
  | some statements => simp [Function.comp_def]

theorem of_mem_placedUnits {v : Json} {q : Position} {u : Json}
    (h : (q, u) ∈ v.placedUnits) : v.IsUnit q ∧ v.follow? q = some u := by
  rw [placedUnits] at h
  rw [IsUnit]
  cases hs : v.statements? with
  | none =>
    simp only [hs, List.mem_singleton, Prod.mk.injEq] at h
    obtain ⟨rfl, rfl⟩ := h
    exact ⟨rfl, rfl⟩
  | some statements =>
    simp only [hs, List.mem_map, Prod.mk.injEq, Prod.exists] at h
    obtain ⟨s, i, hmem, rfl, rfl⟩ := h
    have hi : statements[i]? = some s := List.mem_zipIdx_iff_getElem?.mp hmem
    exact ⟨⟨i, rfl⟩, by simp [follow?, step?, hs, hi]⟩

/-- Units of one node stand at the same height, so what follows them can be split off. -/
theorem IsUnit.append_inj {v : Json} {q q' tail tail' : Position} (h : v.IsUnit q)
    (h' : v.IsUnit q') (heq : q ++ tail = q' ++ tail') : q = q' ∧ tail = tail' := by
  have hlength : q.length = q'.length := by
    rw [IsUnit] at h h'
    cases hs : v.statements? with
    | none =>
      simp only [hs] at h h'
      rw [h, h']
    | some statements =>
      simp only [hs] at h h'
      obtain ⟨i, rfl⟩ := h
      obtain ⟨j, rfl⟩ := h'
      rfl
  exact List.append_inj heq hlength

end Json

namespace Decl

/-- The declaration at an address below a declaration. -/
def below? : Decl → List Nat → Option Decl
  | d, [] => some d
  | d, i :: rest => (d.children[i]?).bind fun e => e.2.below? rest

theorem below?_snoc (d : Decl) (address : List Nat) (i : Nat) :
    d.below? (address ++ [i]) = (d.below? address).bind fun p => (p.children[i]?).map Prod.snd := by
  induction address generalizing d with
  | nil => cases h : d.children[i]? <;> simp [below?, h]
  | cons j rest ih =>
    simp only [List.cons_append, below?, Option.bind_assoc]
    congr 1
    funext e
    exact ih e.2

theorem children_ne_nil_of_below? {d : Decl} {address : List Nat} (ha : address ≠ [])
    (h : (d.below? address).isSome) : d.children ≠ [] := by
  cases address with
  | nil => exact absurd rfl ha
  | cons i rest =>
    intro hempty
    simp [below?, hempty] at h

end Decl

namespace Walker

variable {w : Walker} {below : Json → List (String × Decl)}

/-- The children that a traversal gives, each with its unit and the position of the unit. -/
def tagged (w : Walker) (below : Json → List (String × Decl)) (node : Json) :
    List (String × (Position × Json) × Decl) :=
  Ordered.ofList (node.placedUnits.filterMap fun e =>
    (w.contributionWith below e.2).map fun c => (c.1, e, c.2))

/-- Without their tags, the tagged children are the children. -/
theorem tagged_children (w : Walker) (below : Json → List (String × Decl)) (node : Json) :
    Ordered.mapValues Prod.snd (w.tagged below node) =
      Ordered.ofList (node.units.filterMap (w.contributionWith below)) := by
  rw [tagged, Ordered.ofList, Ordered.ofList]
  rw [← Ordered.putAll_mapValues, ← node.placedUnits_units]
  congr 1
  rw [Ordered.mapValues, List.map_filterMap, List.filterMap_map]
  congr 1
  funext e
  simp [Function.comp_def]

theorem of_mem_tagged {node : Json} {key : String} {q : Position} {u : Json} {d : Decl}
    (h : (key, (q, u), d) ∈ w.tagged below node) :
    node.IsUnit q ∧ node.follow? q = some u ∧ w.contributionWith below u = some (key, d) := by
  have hwrite := Ordered.mem_of_mem_ofList h
  obtain ⟨⟨q', u'⟩, hplaced, hc⟩ := List.mem_filterMap.mp hwrite
  obtain ⟨c, hu, heq⟩ := Option.map_eq_some_iff.mp hc
  simp only [Prod.mk.injEq] at heq
  obtain ⟨rfl, ⟨rfl, rfl⟩, rfl⟩ := heq
  obtain ⟨hunit, hfollow⟩ := Json.of_mem_placedUnits hplaced
  exact ⟨hunit, hfollow, hu⟩

/-- A position has one unit, a unit has one key, and a key stands in one place. -/
theorem tagged_position_inj {node : Json} {i j : Nat} {key key' : String} {q : Position}
    {u u' : Json} {d d' : Decl}
    (hi : (w.tagged below node)[i]? = some (key, (q, u), d))
    (hj : (w.tagged below node)[j]? = some (key', (q, u'), d')) : i = j := by
  obtain ⟨-, hfollow, hc⟩ := of_mem_tagged (List.mem_of_getElem? hi)
  obtain ⟨-, hfollow', hc'⟩ := of_mem_tagged (List.mem_of_getElem? hj)
  have hu : u = u' := Option.some.inj (hfollow.symm.trans hfollow')
  subst hu
  have hkey : key = key' := congrArg Prod.fst (Option.some.inj (hc.symm.trans hc'))
  subst hkey
  have hnodup : ((w.tagged below node).map Prod.fst).Nodup := Ordered.nodup_keys_ofList _
  have hlt : i < ((w.tagged below node).map Prod.fst).length := by
    rw [List.length_map]
    exact (List.getElem?_eq_some_iff.mp hi).1
  apply (List.getElem?_inj hlt hnodup).mp
  rw [List.getElem?_map, List.getElem?_map, hi, hj]
  rfl

/-- A declaration whose children are those of a traversal of `node`. -/
def Grown (w : Walker) (room : Nat) (node : Json) (d : Decl) : Prop :=
  d.children = Ordered.ofList (w.writesWithin room node)

/-- What is contributed with children has grown from a body. -/
theorem contributionWith_grown {room : Nat} {u : Json} {key : String} {d : Decl}
    (h : w.contributionWith (w.writesWithin room) u = some (key, d)) (hne : d.children ≠ []) :
    ∃ body, u.field? "body" = some body ∧ w.Grown room body d := by
  obtain ⟨⟨key', bare⟩, -, heq⟩ := Option.map_eq_some_iff.mp h
  simp only [Prod.mk.injEq] at heq
  obtain ⟨-, rfl⟩ := heq
  cases bare with
  | leaf l => exact absurd rfl hne
  | context kind name children =>
    cases hb : u.field? "body" with
    | none =>
      simp only [bodyWrites, hb] at hne
      exact absurd rfl hne
    | some body =>
      refine ⟨body, rfl, ?_⟩
      simp only [bodyWrites, hb]
      rfl

/-- Each child of a grown declaration has a tag, and has itself grown if it has children. -/
theorem Grown.child {room : Nat} {node : Json} {parent : Decl} (h : w.Grown room node parent)
    {i : Nat} {key : String} {d : Decl} (hi : parent.children[i]? = some (key, d)) :
    ∃ room' q u, room = room' + 1 ∧
      (w.tagged (w.writesWithin room') node)[i]? = some (key, (q, u), d) ∧
      (d.children ≠ [] → ∃ body, u.field? "body" = some body ∧ w.Grown room' body d) := by
  rw [Grown] at h
  rw [h] at hi
  cases room with
  | zero => cases hi
  | succ room =>
    rw [writesWithin, ← tagged_children, Ordered.mapValues, List.getElem?_map] at hi
    obtain ⟨⟨key', ⟨q, u⟩, d'⟩, htag, heq⟩ := Option.map_eq_some_iff.mp hi
    simp only [Prod.mk.injEq] at heq
    obtain ⟨rfl, rfl⟩ := heq
    obtain ⟨-, -, hc⟩ := of_mem_tagged (List.mem_of_getElem? htag)
    exact ⟨room, q, u, rfl, htag, contributionWith_grown hc⟩

/-- The position of the declaration at an address in what grows from a node. -/
def locate (w : Walker) : Nat → Json → List Nat → Position
  | room + 1, node, i :: rest =>
    match (w.tagged (w.writesWithin room) node)[i]? with
    | some (_, (q, u), _) =>
      match rest, u.field? "body" with
      | _ :: _, some body => q ++ .body :: w.locate room body rest
      | _, _ => q
    | none => []
  | _, _, _ => []

/-- Where the children of the declaration at an address lie: at the top, or in its body. -/
def ground (position : List Nat → Position) (address : List Nat) : Position :=
  if address = [] then [] else position address ++ [.body]

theorem locate_last {room : Nat} {node u : Json} {i : Nat} {key : String} {q : Position}
    {d : Decl} (h : (w.tagged (w.writesWithin room) node)[i]? = some (key, (q, u), d)) :
    w.locate (room + 1) node [i] = q := by
  simp only [locate, h]

theorem locate_deeper {room : Nat} {node u body : Json} {i : Nat} {key : String} {q : Position}
    {d : Decl} (h : (w.tagged (w.writesWithin room) node)[i]? = some (key, (q, u), d))
    (hb : u.field? "body" = some body) (j : Nat) (rest : List Nat) :
    w.locate (room + 1) node (i :: j :: rest) = q ++ .body :: w.locate room body (j :: rest) := by
  simp only [locate, h, hb]

theorem ground_locate_cons {room : Nat} {node u body : Json} {i : Nat} {key : String}
    {q : Position} {d : Decl}
    (h : (w.tagged (w.writesWithin room) node)[i]? = some (key, (q, u), d))
    (hb : u.field? "body" = some body) (rest : List Nat) :
    ground (w.locate (room + 1) node) (i :: rest) =
      q ++ .body :: ground (w.locate room body) rest := by
  cases rest with
  | nil => simp [ground, locate_last h]
  | cons j rest => simp [ground, locate_deeper h hb]

/-- A child stands in the body of its parent, at a unit that contributes it. -/
theorem Grown.child_located {room : Nat} {node : Json} {root : Decl} (h : w.Grown room node root)
    {address : List Nat} {parent : Decl} (hp : root.below? address = some parent)
    {i : Nat} {key : String} {d : Decl} (hi : parent.children[i]? = some (key, d)) :
    ∃ container q u below, node.follow? (ground (w.locate room node) address) = some container ∧
      container.IsUnit q ∧ container.follow? q = some u ∧
      w.locate room node (address ++ [i]) = ground (w.locate room node) address ++ q ∧
      w.contributionWith below u = some (key, d) := by
  induction address generalizing room node root with
  | nil =>
    cases hp
    obtain ⟨room', q, u, rfl, htag, -⟩ := h.child hi
    obtain ⟨hunit, hfollow, hc⟩ := of_mem_tagged (List.mem_of_getElem? htag)
    exact ⟨node, q, u, _, rfl, hunit, hfollow, locate_last htag, hc⟩
  | cons j rest ih =>
    obtain ⟨⟨key', d'⟩, hj, hrest⟩ := Option.bind_eq_some_iff.mp hp
    obtain ⟨room', q', u', rfl, htag, hgrown⟩ := h.child hj
    obtain ⟨-, hfollow', -⟩ := of_mem_tagged (List.mem_of_getElem? htag)
    -- the child at `j` has children itself, so it has grown from a body
    have hne : d'.children ≠ [] := by
      refine Decl.children_ne_nil_of_below? (List.concat_ne_nil i rest) ?_
      rw [Decl.below?_snoc, hrest, Option.bind_some, hi]
      rfl
    obtain ⟨body, hb, hgrown⟩ := hgrown hne
    obtain ⟨container, q, u, below, hcontainer, hunit, hfollow, hlocate, hc⟩ := ih hgrown hrest
    refine ⟨container, q, u, below, ?_, hunit, hfollow, ?_, hc⟩
    · rw [ground_locate_cons htag hb, Json.follow?_append, hfollow']
      simpa [Json.follow?, Json.step?, hb] using hcontainer
    · rw [ground_locate_cons htag hb]
      cases rest with
      | nil => simpa [locate_deeper htag hb] using hlocate
      | cons k rest => simpa [locate_deeper htag hb] using hlocate

/-- The position at an address is that of a child and, below it, a position in its body. -/
theorem Grown.locate_cons {room : Nat} {node : Json} {root : Decl} (h : w.Grown room node root)
    {i : Nat} {rest : List Nat} (hs : (root.below? (i :: rest)).isSome) :
    ∃ room' key q u d tail, room = room' + 1 ∧
      (w.tagged (w.writesWithin room') node)[i]? = some (key, (q, u), d) ∧ node.IsUnit q ∧
      w.locate room node (i :: rest) = q ++ tail ∧
      (rest = [] ∧ tail = [] ∨
        ∃ body, u.field? "body" = some body ∧ w.Grown room' body d ∧ rest ≠ [] ∧
          (d.below? rest).isSome ∧ tail = .body :: w.locate room' body rest) := by
  obtain ⟨found, hfound⟩ := Option.isSome_iff_exists.mp hs
  obtain ⟨⟨key, d⟩, hi, hrest⟩ := Option.bind_eq_some_iff.mp hfound
  obtain ⟨room', q, u, rfl, htag, hgrown⟩ := h.child hi
  obtain ⟨hunit, -, -⟩ := of_mem_tagged (List.mem_of_getElem? htag)
  cases rest with
  | nil =>
    refine ⟨room', key, q, u, d, [], rfl, htag, hunit, ?_, Or.inl ⟨rfl, rfl⟩⟩
    rw [List.append_nil]
    exact locate_last htag
  | cons j rest =>
    have hcons : j :: rest ≠ [] := List.cons_ne_nil j rest
    have hsome : (d.below? (j :: rest)).isSome := by rw [hrest]; rfl
    obtain ⟨body, hb, hgrown⟩ := hgrown (Decl.children_ne_nil_of_below? hcons hsome)
    exact ⟨room', key, q, u, d, _, rfl, htag, hunit, locate_deeper htag hb j rest,
      Or.inr ⟨body, hb, hgrown, hcons, hsome, rfl⟩⟩

/-- Different declarations of one tree have different positions. -/
theorem Grown.locate_inj {room : Nat} {node : Json} {root : Decl} (h : w.Grown room node root)
    {a b : List Nat} (ha : a ≠ []) (hb : b ≠ []) (hsa : (root.below? a).isSome)
    (hsb : (root.below? b).isSome) (heq : w.locate room node a = w.locate room node b) :
    a = b := by
  induction a generalizing room node root b with
  | nil => exact absurd rfl ha
  | cons i ra ih =>
    cases b with
    | nil => exact absurd rfl hb
    | cons j rb =>
      obtain ⟨room', key, q, u, d, tail, rfl, hi, hunit, hla, hra⟩ := h.locate_cons hsa
      obtain ⟨room'', key', q', u', d', tail', hroom, hj, hunit', hlb, hrb⟩ := h.locate_cons hsb
      cases hroom
      -- both positions start at a unit of `node`, which is the same, and so is the child
      obtain ⟨rfl, rfl⟩ := hunit.append_inj hunit' (hla.symm.trans (heq.trans hlb))
      obtain rfl := tagged_position_inj hi hj
      rw [hi] at hj
      cases hj
      rcases hra with ⟨rfl, rfl⟩ | ⟨body, hbody, hgrown, hne, hsome, rfl⟩
      · rcases hrb with ⟨rfl, -⟩ | ⟨body', -, -, -, -, htail⟩
        · rfl
        · cases htail
      · rcases hrb with ⟨-, htail⟩ | ⟨body', hbody', -, hne', hsome', htail⟩
        · cases htail
        · rw [hbody] at hbody'
          cases hbody'
          rw [ih hgrown hne hne' hsome hsome' (List.cons.inj htail).2]

/-- A statement declares nothing with children, and a leaf remembers its statement. -/
theorem declares?_bare {u : Json} {key : String} {d : Decl} (h : w.declares? u = some (key, d)) :
    d.fill [] = d ∧ ∀ l, d = .leaf l → l.source = u := by
  rw [declares?] at h
  cases hc : Statement.classify w.kinds w.options.namespaceFlags u with
  | importEquals | enum | other => simp only [hc, reduceCtorEq] at h
  | namespaceDecl | moduleDecl =>
    simp only [hc, Option.some.injEq, Prod.mk.injEq] at h
    obtain ⟨-, rfl⟩ := h
    exact ⟨rfl, fun l hl => by cases hl⟩
  | _ =>
    simp only [hc, Option.some.injEq, Prod.mk.injEq] at h
    obtain ⟨-, rfl⟩ := h
    refine ⟨rfl, ?_⟩
    rintro l ⟨⟩
    rfl

/-- The declaration of a contribution, without its children, is that of its unit. -/
theorem contributionWith_declares {u : Json} {key : String} {d : Decl}
    (h : w.contributionWith below u = some (key, d)) :
    w.declares? u = some (key, d.fill []) ∧ ∀ l, d = .leaf l → l.source = u := by
  obtain ⟨⟨key', bare⟩, hdeclares, heq⟩ := Option.map_eq_some_iff.mp h
  simp only [Prod.mk.injEq] at heq
  obtain ⟨rfl, rfl⟩ := heq
  obtain ⟨hbare, hsource⟩ := declares?_bare hdeclares
  cases bare with
  | leaf l => exact ⟨hdeclares, hsource⟩
  | context kind name children =>
    refine ⟨?_, fun l hl => by cases hl⟩
    rw [hdeclares, ← hbare]
    rfl

/-- Every declaration below the root has a position of its own in the program tree.
It lies directly in the body of its parent (or, below the root, in the program), and
the node there declares it: its key, its kind, its name, its form and, for a leaf,
its source are those of that node. -/
theorem walk_nodes_have_positions (w : Walker) (ast : Json) (s : State) :
    let root := (w.walk ast s).context.toDecl
    ∃ position : List Nat → Position,
      (∀ a b, a ≠ [] → b ≠ [] → (root.below? a).isSome → (root.below? b).isSome →
        position a = position b → a = b) ∧
      ∀ address parent i key d, root.below? address = some parent →
        parent.children[i]? = some (key, d) →
        ∃ container unit node, ast.follow? (ground position address) = some container ∧
          container.IsUnit unit ∧
          position (address ++ [i]) = ground position address ++ unit ∧
          ast.follow? (position (address ++ [i])) = some node ∧
          w.declares? node = some (key, d.fill []) ∧ ∀ l, d = .leaf l → l.source = node := by
  intro root
  have hgrown : w.Grown (w.options.maxDepth + 1) ast root := by
    simp only [root, walk_context]
    rfl
  refine ⟨w.locate (w.options.maxDepth + 1) ast, ?_, ?_⟩
  · intro a b ha hb hsa hsb
    exact hgrown.locate_inj ha hb hsa hsb
  · intro address parent i key d hp hi
    obtain ⟨container, q, u, below, hcontainer, hunit, hfollow, hlocate, hc⟩ :=
      hgrown.child_located hp hi
    obtain ⟨hdeclares, hsource⟩ := contributionWith_declares hc
    refine ⟨container, q, u, hcontainer, hunit, hlocate, ?_, hdeclares, hsource⟩
    rw [hlocate, Json.follow?_append, hcontainer]
    exact hfollow

/-- Of two classes of one name in a namespace the second is the one in the tree. -/
theorem walk_nodes_have_positions_nested :
    let w : Walker := ⟨.empty, fun _ => "", .default⟩
    let named (kind name : String) (fields : List (String × Json)) : Json :=
      .object ([("kind", .string kind), ("name", .object [("text", .string name)])] ++ fields)
    let second := named "ClassDeclaration" "A" [("members", .array [])]
    let block : Json := .object [("statements", .array [named "ClassDeclaration" "A" [], second])]
    let ast := named "ModuleDeclaration" "N" [("flags", .ofNat 16), ("body", block)]
    let root := (w.walk ast w.start).context.toDecl
    let leaf : Decl := .leaf ⟨.propertyDecl, some "A", "ClassDeclaration", second⟩
    root.below? [0] = some (.context .namespaceDecl "N" [("A", leaf)]) ∧
      root.below? [0, 0] = some leaf ∧
      ∃ position : List Nat → Position, position [0] ≠ position [0, 0] ∧
        ast.follow? (position [0, 0]) = some second := by
  intro w named second block ast root leaf
  have hparent : root.below? [0] = some (.context .namespaceDecl "N" [("A", leaf)]) := rfl
  have hleaf : root.below? [0, 0] = some leaf := rfl
  obtain ⟨position, hinj, hplace⟩ := walk_nodes_have_positions w ast w.start
  refine ⟨hparent, hleaf, position, ?_, ?_⟩
  · intro heq
    have := hinj [0] [0, 0] (by simp) (by simp) (Option.isSome_of_mem hparent)
      (Option.isSome_of_mem hleaf) heq
    cases this
  · obtain ⟨-, -, node, -, -, -, hnode, -, hsource⟩ := hplace [0] _ 0 "A" leaf hparent rfl
    have hsecond : second = node := hsource _ rfl
    rw [hsecond]
    exact hnode

end Walker

end DeclTree
