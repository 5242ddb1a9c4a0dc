import DeclTree.Proofs.Entries
import DeclTree.Members
import DeclTree.SourceText

/-!
# Finding members and the walked tree

Members are looked up by the name that a class or an interface carries itself
(`DeclaresNamed`), while the tree has it under the first name that any of the rules gives. The
own name is the first to be tried, so what is found by a name is in the tree under that name.
The other way round a class in the tree has its own name or none, but an interface may be named
by its type, by a module or by an expression: the members of such an interface are not found
(`members_of_the_tree_are_found`).
-/

namespace DeclTree

/-- A class or an interface that carries a name itself. -/
structure DeclaresNamed (kinds : KindTable) (name : String) (node : Json) : Prop where
  kind : kinds.classify node.kind? ∈ [.classDeclaration, .interfaceDeclaration]
  named : node.textOf? "name" = some name

theorem declaresMembers_iff (kinds : KindTable) (node : Json) :
    declaresMembers kinds node = true ↔
      kinds.classify node.kind? ∈ [.classDeclaration, .interfaceDeclaration] := by
  rw [declaresMembers]
  cases kinds.classify node.kind? <;> simp

/-- The members of a statement, when it is what is looked for. -/
def membersNamed? (kinds : KindTable) (name : String) (node : Json) : Option (List Json) :=
  if declaresMembers kinds node ∧ node.textOf? "name" = some name then node.members? else none

theorem membersNamed?_eq_some_iff (kinds : KindTable) (name : String) (node : Json)
    (members : List Json) :
    membersNamed? kinds name node = some members ↔
      DeclaresNamed kinds name node ∧ node.members? = some members := by
  rw [membersNamed?]
  split
  · next h =>
    rw [declaresMembers_iff] at h
    exact (and_iff_right ⟨h.1, h.2⟩).symm
  · next h =>
    rw [declaresMembers_iff] at h
    simp only [reduceCtorEq, false_iff]
    exact fun hfound => h ⟨hfound.1.kind, hfound.1.named⟩

theorem membersNamed?_eq_none_iff (kinds : KindTable) (name : String) (node : Json) :
    membersNamed? kinds name node = none ↔
      (DeclaresNamed kinds name node → node.members? = none) := by
  simp only [Option.eq_none_iff_forall_ne_some, ne_eq, membersNamed?_eq_some_iff, not_and]
  exact ⟨fun h hnamed members => h members hnamed, fun h members hnamed => h hnamed members⟩

theorem findMembers_eq {root : Json} {statements : List Json}
    (h : root.statements? = some statements) (kinds : KindTable) (name : String) :
    findMembers kinds root name = statements.findSome? (membersNamed? kinds name) := by
  have hsearch : ∀ nodes : List Json,
      ((nodes.filter (declaresMembers kinds)).filter
        (·.textOf? "name" == some name)).findSome? Json.members? =
        nodes.findSome? (membersNamed? kinds name) := by
    intro nodes
    induction nodes with
    | nil => rfl
    | cons node rest ih =>
      rw [List.findSome?_cons, ← ih, membersNamed?]
      by_cases hmembers : declaresMembers kinds node = true
      · by_cases hname : node.textOf? "name" = some name
        · simp [hmembers, hname, List.findSome?_cons]
        · simp [hmembers, hname]
      · simp [hmembers]
  rw [findMembers, h]
  exact hsearch statements

/-- The first of the classes and interfaces of a name that has members is found. -/
theorem findMembers_eq_some_iff {root : Json} {statements : List Json}
    (h : root.statements? = some statements) (kinds : KindTable) (name : String)
    (members : List Json) :
    findMembers kinds root name = some members ↔
      ∃ before node after, statements = before ++ node :: after ∧
        DeclaresNamed kinds name node ∧ node.members? = some members ∧
        ∀ earlier ∈ before, DeclaresNamed kinds name earlier → earlier.members? = none := by
  simp only [findMembers_eq h, List.findSome?_eq_some_iff, membersNamed?_eq_some_iff,
    membersNamed?_eq_none_iff, and_assoc]

theorem isSome_findMembers_iff {root : Json} {statements : List Json}
    (h : root.statements? = some statements) (kinds : KindTable) (name : String) :
    (findMembers kinds root name).isSome = true ↔
      ∃ node ∈ statements, DeclaresNamed kinds name node ∧ node.members?.isSome = true := by
  rw [findMembers_eq h, List.findSome?_isSome_iff]
  simp only [Option.isSome_iff_exists, membersNamed?_eq_some_iff, exists_and_left]

namespace Walker

variable {w : Walker}

/-- A class or an interface has its own name as its key. -/
theorem declares?_named {name : String} {node : Json} (h : DeclaresNamed w.kinds name node) :
    ∃ l, w.declares? node = some (name, .leaf l) := by
  obtain ⟨hkind, hnamed⟩ := h
  rw [declares?, resolve_of_textOf? hnamed, Statement.classify]
  simp only [List.mem_cons, List.not_mem_nil, or_false] at hkind
  rcases hkind with hkind | hkind <;> rw [hkind] <;> exact ⟨_, rfl⟩

/-- A class has no other name than its own; an interface has the one it is resolved to. -/
theorem declares?_leaf {node : Json} {key : String} {l : Leaf}
    (h : w.declares? node = some (key, .leaf l))
    (hform : l.form ∈ ["ClassDeclaration", "InterfaceDeclaration"]) :
    w.kinds.classify node.kind? = .classDeclaration ∧ l.name = node.textOf? "name" ∨
      w.kinds.classify node.kind? = .interfaceDeclaration ∧
        l.form = "InterfaceDeclaration" ∧ l.name = (w.resolve node).text? := by
  have hkind := Statement.kind_classify w.kinds w.options.namespaceFlags node
  have hformOf (kind : DeclKind) (name : Option String)
      (hk : (Statement.classify w.kinds w.options.namespaceFlags node).kind ∈ Kind.named) :
      (Leaf.ofNode w.kinds kind name node).form = _ := Leaf.form_ofNode hk kind name
  rw [declares?] at h
  cases hc : Statement.classify w.kinds w.options.namespaceFlags node with
  | namespaceDecl | moduleDecl | importEquals | enum | other =>
    simp only [hc, Context.toDecl, Option.some.injEq, Prod.mk.injEq, reduceCtorEq, and_false] at h
  | classDecl =>
    simp only [hc, Option.some.injEq, Prod.mk.injEq, Decl.leaf.injEq] at h
    obtain ⟨-, rfl⟩ := h
    rw [hc] at hkind
    exact .inl ⟨hkind.symm, rfl⟩
  | interface =>
    simp only [hc, Option.some.injEq, Prod.mk.injEq, Decl.leaf.injEq] at h
    obtain ⟨-, rfl⟩ := h
    rw [hc] at hkind
    refine .inr ⟨hkind.symm, ?_, text?_resolve_or node⟩
    rw [Leaf.property, hformOf _ _ (by rw [hc]; decide), hc]
    rfl
  | function | typeAlias | variableDecl | exportAssignment | importDecl =>
    -- the form of any other leaf is that of another kind
    simp only [hc, Option.some.injEq, Prod.mk.injEq, Decl.leaf.injEq] at h
    obtain ⟨-, rfl⟩ := h
    simp only [Leaf.property, hformOf _ _ (by rw [hc]; decide), hc] at hform
    exact absurd hform (by decide)

/-- What the root of a walked tree holds under a key is contributed by a statement. -/
theorem mem_children_walk {ast : Json} {s : State} {key : String} {d : Decl}
    (h : (key, d) ∈ (w.walk ast s).context.children) :
    ∃ node ∈ ast.units, w.contributionWith (w.writesWithin w.options.maxDepth) node =
      some (key, d) := by
  rw [walk_context] at h
  exact List.mem_filterMap.mp (Ordered.mem_of_mem_ofList h)

/-- Whatever a statement declares, the root of the tree has its key. -/
theorem isSome_child?_walk {ast node : Json} (hnode : node ∈ ast.units) {key : String} {d : Decl}
    (h : w.declares? node = some (key, d)) (s : State) :
    ((w.walk ast s).context.child? key).isSome = true := by
  have hcontribution : w.contributionWith (w.writesWithin w.options.maxDepth) node =
      some (key, d.fill (Ordered.ofList
        (bodyWrites (w.writesWithin w.options.maxDepth) node))) := by
    rw [contributionWith, h]
    rfl
  have hwritten : key ∈ Ordered.keys (w.writesWithin (w.options.maxDepth + 1) ast) :=
    List.mem_map.mpr ⟨_, List.mem_filterMap.mpr ⟨node, hnode, hcontribution⟩, rfl⟩
  rw [walk_context, Context.child?, ← Option.ne_none_iff_isSome, ne_eq, Ordered.get?_eq_none_iff]
  refine not_not_intro ?_
  change key ∈ Ordered.keys (Ordered.ofList (w.writesWithin (w.options.maxDepth + 1) ast))
  rwa [Ordered.keys_ofList, List.mem_eraseDups]

/-- What is found by a name are the members of the first class or interface of the program that
carries the name and has members, and the name is a key of the tree. Every class or interface of
the tree that has a name and members is found by its name, but for an interface whose name is not
its own. -/
theorem members_of_the_tree_are_found (w : Walker) {ast : Json} {statements : List Json}
    (h : ast.statements? = some statements) (s : State) (name : String) :
    (∀ members, findMembers w.kinds ast name = some members ↔
      ∃ before node after, statements = before ++ node :: after ∧
        DeclaresNamed w.kinds name node ∧ node.members? = some members ∧
        ∀ earlier ∈ before, DeclaresNamed w.kinds name earlier → earlier.members? = none) ∧
    ((findMembers w.kinds ast name).isSome = true →
      ((w.walk ast s).context.child? name).isSome = true) ∧
    ∀ key l, (key, .leaf l) ∈ (w.walk ast s).context.children →
      l.form ∈ ["ClassDeclaration", "InterfaceDeclaration"] → l.name = some name →
      l.source.members?.isSome = true →
      (findMembers w.kinds ast name).isSome = true ∨
        l.form = "InterfaceDeclaration" ∧ l.source.textOf? "name" = none := by
  have hunits : ast.units = statements := by rw [Json.units, h]; rfl
  refine ⟨findMembers_eq_some_iff h w.kinds name, ?_, ?_⟩
  · intro hfound
    obtain ⟨node, hnode, hdeclares, -⟩ := (isSome_findMembers_iff h w.kinds name).mp hfound
    obtain ⟨l, hl⟩ := declares?_named (w := w) hdeclares
    exact isSome_child?_walk (hunits ▸ hnode) hl s
  · intro key l hmem hform hname hmembers
    obtain ⟨node, hnode, hc⟩ := mem_children_walk hmem
    obtain ⟨hdeclares, hsource⟩ := contributionWith_declares hc
    rw [hsource l rfl] at hmembers ⊢
    have hfound : DeclaresNamed w.kinds name node → (findMembers w.kinds ast name).isSome = true :=
      fun hnamed => (isSome_findMembers_iff h w.kinds name).mpr
        ⟨node, hunits ▸ hnode, hnamed, hmembers⟩
    rcases declares?_leaf hdeclares hform with ⟨hkind, hown⟩ | ⟨hkind, hinterface, hresolved⟩
    · exact .inl (hfound ⟨by simp [hkind], hown.symm.trans hname⟩)
    · cases hown : node.textOf? "name" with
      | none => exact .inr ⟨hinterface, rfl⟩
      | some own =>
        rw [resolve_of_textOf? hown, hname] at hresolved
        cases hresolved
        exact .inl (hfound ⟨by simp [hkind], hown⟩)

/-- Of two interfaces and a class of one name the second interface has the members that are
found, while the class is what stands in the tree. -/
theorem members_of_the_tree_are_found_merged :
    let w : Walker := ⟨⟨[(5, "InterfaceDeclaration")]⟩, fun _ => "", .default⟩
    let shape (kind : Json) (fields : List (String × Json)) : Json :=
      .object ([("kind", kind), ("name", .object [("escapedText", .string "Shape")])] ++ fields)
    let empty := shape (.ofNat 5) []
    let area := shape (.ofNat 5) [("members", .array [.string "area"])]
    let circle := shape (.string "ClassDeclaration") [("members", .array [])]
    let ast : Json := .object [("statements", .array [empty, area, circle])]
    let leaf : Leaf := ⟨.propertyDecl, some "Shape", "ClassDeclaration", circle⟩
    ast.statements? = some [empty, area, circle] ∧
      findMembers w.kinds ast "Shape" = some [.string "area"] ∧
      ((w.walk ast w.start).context.child? "Shape").isSome = true ∧
      ("Shape", .leaf leaf) ∈ (w.walk ast w.start).context.children ∧
      ((findMembers w.kinds ast "Shape").isSome = true ∨
        leaf.form = "InterfaceDeclaration" ∧ leaf.source.textOf? "name" = none) := by
  intro w shape empty area circle ast leaf
  have hstatements : ast.statements? = some [empty, area, circle] := rfl
  have hleaf : ("Shape", .leaf leaf) ∈ (w.walk ast w.start).context.children :=
    List.mem_cons_self
  obtain ⟨hfirst, hkey, htree⟩ := members_of_the_tree_are_found w hstatements w.start "Shape"
  have hfound : findMembers w.kinds ast "Shape" = some [.string "area"] := by
    refine (hfirst _).mpr ⟨[empty], area, [circle], rfl, ⟨by decide, by decide⟩, rfl, ?_⟩
    rintro earlier hearlier -
    cases List.mem_singleton.mp hearlier
    rfl
  exact ⟨hstatements, hfound, hkey (by rw [hfound]; rfl), hleaf,
    htree "Shape" leaf hleaf (by decide) rfl rfl⟩

/-- An interface named by its type is in the tree with its members, which are not found. -/
theorem borrowed_name_is_not_found :
    let w : Walker := ⟨.empty, Normal.sourceText, .default⟩
    let area : Json := .object [("kind", .string "PropertySignature"),
      ("name", .object [("kind", .string "Identifier"), ("text", .string "area")])]
    let type : Json := .object [("kind", .string "TypeReference"),
      ("typeName", .object [("kind", .string "Identifier"), ("text", .string "Shape")])]
    let shape : Json := .object [("kind", .string "InterfaceDeclaration"), ("type", type),
      ("members", .array [area])]
    let ast : Json := .object [("kind", .string "SourceFile"), ("statements", .array [shape])]
    let leaf : Leaf := ⟨.propertyDecl, some "Shape", "InterfaceDeclaration", shape⟩
    (w.walk ast w.start).context.children = [("Shape", .leaf leaf)] ∧
      leaf.source.members? = some [area] ∧ findMembers w.kinds ast "Shape" = none := by
  exact ⟨rfl, rfl, rfl⟩

end Walker

end DeclTree
