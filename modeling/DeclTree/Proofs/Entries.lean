import DeclTree.Proofs.Position
import DeclTree.Proofs.SymbolicKinds

/-!
# What stands under a key

The key of a declaration is the name of its statement, its own name comes from the
same statement by another way, and the form of a leaf by a third. They belong
together all the same (`Decl.Fits`): a statement has a kind of its own before it is
given a form, and its own name is the first to be tried when it is resolved. So all
entries of a walked tree fit their keys, which are distinct and never empty
(`walk_entries_fit`).
-/

namespace DeclTree

/-- The forms of the leaves of a kind. -/
def DeclKind.forms : DeclKind → List String
  | .propertyDecl =>
    ["FunctionDeclaration", "InterfaceDeclaration", "TypeAliasDeclaration", "ClassDeclaration"]
  | .variableDecl => ["VariableStatement"]
  | .exportDecl => ["ExportAssignment"]
  | .importDecl => ["ImportDeclaration"]
  | .moduleDecl | .namespaceDecl => []

/-- What a leaf under a key is like. -/
structure Leaf.Fits (key : String) (l : Leaf) : Prop where
  form : l.form ∈ l.kind.forms
  named : ∀ name, l.name = some name → l.kind = .propertyDecl ∧ key = name
  unnamed : l.name = none →
    l.form ∈ ["FunctionDeclaration", "InterfaceDeclaration", "TypeAliasDeclaration"] →
    key = "INVALID NAME REF"

/-- What a declaration under a key is like. -/
def Decl.Fits (key : String) : Decl → Prop
  | .leaf l => l.Fits key
  | .context kind name _ =>
    kind = .namespaceDecl ∧ key = "namespace" ++ name ∨ kind = .moduleDecl ∧ key = name

theorem Decl.Fits.of_fill {key : String} {d : Decl} {children : List (String × Decl)}
    (h : (d.fill children).Fits key) : d.Fits key := by
  cases d with
  | leaf l => exact h
  | context kind name _ => exact h

/-- A form of leaves is the name of a kind, not a stand-in for one. -/
theorem DeclKind.forms_known {kind : DeclKind} {form : String} (h : form ∈ kind.forms) :
    form ≠ Leaf.unknownForm ∧ ∀ n, form ≠ KindTable.unnamed n := by
  have hnamed : ∀ kind : DeclKind, ∀ form ∈ kind.forms,
      form ≠ Leaf.unknownForm ∧ Kind.ofName form ∈ Kind.named := by
    intro kind
    cases kind <;> decide
  obtain ⟨hunknown, hmem⟩ := hnamed kind form h
  refine ⟨hunknown, ?_⟩
  rintro n rfl
  rw [Kind.ofName_unnamed] at hmem
  simp [Kind.named] at hmem

namespace Statement

/-- The kind of the nodes that are a statement. -/
def kind : Statement → Kind
  | .namespaceDecl | .moduleDecl => .moduleDeclaration
  | .function => .functionDeclaration
  | .interface => .interfaceDeclaration
  | .typeAlias => .typeAliasDeclaration
  | .classDecl => .classDeclaration
  | .variableDecl => .variableStatement
  | .exportAssignment => .exportAssignment
  | .importDecl => .importDeclaration
  | .importEquals => .importEqualsDeclaration
  | .enum => .enumDeclaration
  | .other kind => kind

theorem kind_classify (kinds : KindTable) (flags : List Int) (node : Json) :
    (classify kinds flags node).kind = kinds.classify node.kind? := by
  rw [classify]
  cases kinds.classify node.kind? with
  | moduleDeclaration => cases isNamespace flags node <;> rfl
  | _ => rfl

end Statement

/-- A kind of its own is read from a string or a number, which has its name. -/
theorem KindTable.kindName?_of_classify {kinds : KindTable} {kind? : Option Json}
    (h : kinds.classify kind? ∈ Kind.named) :
    kind?.bind kinds.kindName? = some (kinds.classify kind?).name := by
  have hother : ∀ name, Kind.other name ∉ Kind.named := by simp [Kind.named]
  cases kind? with
  | none => exact absurd h (hother _)
  | some v =>
    cases v with
    | string s => exact congrArg some (Kind.name_ofName s).symm
    | number n =>
      rw [← ofName_numberName, Kind.name_ofName]
      rfl
    | _ => exact absurd h (hother _)

theorem Leaf.form_ofNode {kinds : KindTable} {flags : List Int} {node : Json}
    (h : (Statement.classify kinds flags node).kind ∈ Kind.named) (kind : DeclKind)
    (name : Option String) :
    (Leaf.ofNode kinds kind name node).form = (Statement.classify kinds flags node).kind.name := by
  rw [Statement.kind_classify] at h ⊢
  rw [ofNode, KindTable.kindName?_of_classify h, Option.getD_some]

theorem nonEmpty_ne {s t : String} (h : nonEmpty s = some t) : t ≠ "" := by
  rw [nonEmpty] at h
  split at h
  · cases h
  · next hs =>
    cases h
    rintro rfl
    exact hs rfl

theorem Json.text?_ne {v : Json} {s : String} (h : v.text? = some s) : s ≠ "" := by
  rw [text?] at h
  split at h
  · exact nonEmpty_ne h
  · obtain ⟨t, -, ht⟩ := Option.bind_eq_some_iff.mp h
    exact nonEmpty_ne ht

theorem Json.textOf?_ne {v : Json} {key s : String} (h : v.textOf? key = some s) : s ≠ "" := by
  obtain ⟨u, -, hu⟩ := Option.bind_eq_some_iff.mp h
  exact text?_ne hu

namespace Name

theorem direct?_ne {node : Json} {s : String} (h : direct? node = some s) : s ≠ "" := by
  rw [direct?, Option.or_eq_some_iff] at h
  rcases h with h | ⟨-, h⟩
  · exact Json.textOf?_ne h
  · rw [Option.or_eq_some_iff] at h
    rcases h with h | ⟨-, h⟩
    · obtain ⟨u, -, hu⟩ := Option.bind_eq_some_iff.mp h
      exact Json.textOf?_ne hu
    · exact Json.textOf?_ne h

theorem key_ofText_ne (s : String) : (ofText s).key ≠ "" := by
  rw [ofText]
  split
  · decide
  · next hs =>
    rintro rfl
    exact hs rfl

/-- No statement has the empty key, whatever is printed for it. -/
theorem key_resolve_ne (kinds : KindTable) (print : Printer) (node : Json) :
    (resolve kinds print node).key ≠ "" := by
  rw [resolve]
  split
  · next s hs => exact direct?_ne hs
  · split
    · exact key_ofText_ne _
    · split
      · exact key_ofText_ne _
      · decide

theorem resolve_of_textOf? {node : Json} {s : String} (h : node.textOf? "name" = some s)
    (kinds : KindTable) (print : Printer) : resolve kinds print node = .resolved s := by
  have hdirect : direct? node = some s := by rw [direct?, h, Option.some_or]
  rw [resolve, hdirect]

end Name

namespace Walker

variable {w : Walker}

theorem resolve_of_textOf? {node : Json} {s : String} (h : node.textOf? "name" = some s) :
    w.resolve node = .resolved s :=
  Name.resolve_of_textOf? h w.kinds w.printer

/-- The own name of a statement adds nothing to its resolved name. -/
theorem text?_resolve_or (node : Json) :
    (w.resolve node).text?.or (node.textOf? "name") = (w.resolve node).text? := by
  cases hn : node.textOf? "name" with
  | none => exact Option.or_none
  | some s =>
    rw [resolve_of_textOf? hn]
    rfl

/-- A function, an interface or a type alias carries the name that is its key, if any. -/
theorem property_resolved_fits {node : Json}
    (hform : (Leaf.property w.kinds node (w.resolve node).text?).form ∈
      DeclKind.propertyDecl.forms) :
    (Leaf.property w.kinds node (w.resolve node).text?).Fits (w.resolve node).key := by
  have hname : (Leaf.property w.kinds node (w.resolve node).text?).name =
      (w.resolve node).text? := text?_resolve_or node
  refine ⟨hform, ?_, ?_⟩
  · intro name h
    rw [hname] at h
    cases hr : w.resolve node with
    | resolved s =>
      rw [hr] at h
      exact ⟨rfl, Option.some.inj h⟩
    | unresolved =>
      rw [hr] at h
      cases h
  · intro h _
    rw [hname] at h
    cases hr : w.resolve node with
    | resolved s =>
      rw [hr] at h
      cases h
    | unresolved => rfl

/-- A class carries its own name only, but this is what it is resolved to first. -/
theorem property_own_fits {node : Json}
    (hform : (Leaf.property w.kinds node none).form = "ClassDeclaration") :
    (Leaf.property w.kinds node none).Fits (w.resolve node).key := by
  refine ⟨?_, ?_, ?_⟩
  · rw [hform]
    show "ClassDeclaration" ∈ DeclKind.propertyDecl.forms
    decide
  · intro name h
    have hown : node.textOf? "name" = some name := h
    rw [resolve_of_textOf? hown]
    exact ⟨rfl, rfl⟩
  · intro _ h
    rw [hform] at h
    exact absurd h (by decide)

/-- Every other leaf carries no name, so its key may be any. -/
theorem nameless_fits {kind : DeclKind} {node : Json} {key : String}
    (hkind : kind ≠ .propertyDecl)
    (hform : (Leaf.ofNode w.kinds kind none node).form ∈ kind.forms) :
    (Leaf.ofNode w.kinds kind none node).Fits key := by
  refine ⟨hform, ?_, ?_⟩
  · intro name h
    cases h
  · intro _ h
    generalize (Leaf.ofNode w.kinds kind none node).form = form at h hform
    have hapart : ∀ kind : DeclKind, kind ≠ .propertyDecl → ∀ form ∈ kind.forms,
        form ∉ ["FunctionDeclaration", "InterfaceDeclaration", "TypeAliasDeclaration"] := by
      intro kind
      cases kind <;> decide
    exact absurd h (hapart kind hkind form hform)

/-- What a statement declares fits its key. -/
theorem declares?_fits {node : Json} {key : String} {d : Decl}
    (h : w.declares? node = some (key, d)) : key ≠ "" ∧ d.Fits key := by
  have hkey : (w.resolve node).key ≠ "" := Name.key_resolve_ne w.kinds w.printer node
  have hform (kind : DeclKind) (name : Option String)
      (hk : (Statement.classify w.kinds w.options.namespaceFlags node).kind ∈ Kind.named) :
      (Leaf.ofNode w.kinds kind name node).form = _ := Leaf.form_ofNode hk kind name
  rw [declares?] at h
  cases hc : Statement.classify w.kinds w.options.namespaceFlags node with
  | importEquals | enum | other => simp only [hc, reduceCtorEq] at h
  | namespaceDecl =>
    simp only [hc, Option.some.injEq, Prod.mk.injEq] at h
    obtain ⟨rfl, rfl⟩ := h
    refine ⟨?_, Or.inl ⟨rfl, rfl⟩⟩
    simp
  | moduleDecl =>
    simp only [hc, Option.some.injEq, Prod.mk.injEq] at h
    obtain ⟨rfl, rfl⟩ := h
    exact ⟨hkey, Or.inr ⟨rfl, rfl⟩⟩
  | function | interface | typeAlias =>
    simp only [hc, Option.some.injEq, Prod.mk.injEq] at h
    obtain ⟨rfl, rfl⟩ := h
    refine ⟨hkey, property_resolved_fits ?_⟩
    rw [Leaf.property, hform _ _ (by rw [hc]; decide), hc]
    decide
  | classDecl =>
    simp only [hc, Option.some.injEq, Prod.mk.injEq] at h
    obtain ⟨rfl, rfl⟩ := h
    refine ⟨hkey, property_own_fits ?_⟩
    rw [Leaf.property, hform _ _ (by rw [hc]; decide), hc]
    rfl
  | variableDecl | exportAssignment | importDecl =>
    simp only [hc, Option.some.injEq, Prod.mk.injEq] at h
    obtain ⟨rfl, rfl⟩ := h
    refine ⟨hkey, nameless_fits (by decide) ?_⟩
    rw [hform _ _ (by rw [hc]; decide), hc]
    decide

/-- Every declaration of a grown tree has grown itself, if only from nothing. -/
theorem Grown.below {room : Nat} {node : Json} {root : Decl} (h : w.Grown room node root)
    {address : List Nat} {d : Decl} (hd : root.below? address = some d) :
    ∃ room' node', w.Grown room' node' d := by
  induction address generalizing room node root with
  | nil =>
    cases hd
    exact ⟨room, node, h⟩
  | cons i rest ih =>
    obtain ⟨⟨key, child⟩, hi, hrest⟩ := Option.bind_eq_some_iff.mp hd
    obtain ⟨room', q, u, -, -, hgrown⟩ := h.child hi
    by_cases hempty : child.children = []
    · exact ih (show w.Grown 0 u child from hempty) hrest
    · obtain ⟨body, -, hgrown⟩ := hgrown hempty
      exact ih hgrown hrest

theorem Grown.entries {room : Nat} {node : Json} {parent : Decl} (h : w.Grown room node parent) :
    (Ordered.keys parent.children).Nodup ∧
      ∀ key d, (key, d) ∈ parent.children → key ≠ "" ∧ d.Fits key := by
  refine ⟨?_, ?_⟩
  · rw [Grown] at h
    rw [h]
    exact Ordered.nodup_keys_ofList _
  · intro key d hmem
    obtain ⟨i, hi⟩ := List.mem_iff_getElem?.mp hmem
    obtain ⟨room', q, u, -, htag, -⟩ := h.child hi
    obtain ⟨-, -, hc⟩ := of_mem_tagged (List.mem_of_getElem? htag)
    obtain ⟨hkey, hfits⟩ := declares?_fits (contributionWith_declares hc).1
    exact ⟨hkey, hfits.of_fill⟩

/-- In every context of a walked tree the keys are distinct and not empty, and every
child fits its key. No leaf has the form of a missing or an unnamed kind. -/
theorem walk_entries_fit (w : Walker) (ast : Json) (s : State) (address : List Nat)
    (parent : Decl)
    (hp : (w.walk ast s).context.toDecl.below? address = some parent) :
    (Ordered.keys parent.children).Nodup ∧
      ∀ key d, (key, d) ∈ parent.children → key ≠ "" ∧ d.Fits key ∧
        ∀ l, d = .leaf l → l.form ≠ "Unknown" ∧ ∀ n, l.form ≠ KindTable.unnamed n := by
  have hroot : w.Grown (w.options.maxDepth + 1) ast (w.walk ast s).context.toDecl := by
    rw [walk_context]
    rfl
  obtain ⟨room, node, hparent⟩ := hroot.below hp
  obtain ⟨hnodup, hentries⟩ := hparent.entries
  refine ⟨hnodup, ?_⟩
  intro key d hmem
  obtain ⟨hkey, hfits⟩ := hentries key d hmem
  refine ⟨hkey, hfits, ?_⟩
  rintro l rfl
  exact DeclKind.forms_known hfits.form

/-- A function whose kind is a number and whose name is printed as nothing. -/
theorem walk_entries_fit_unnamed :
    let w : Walker := ⟨⟨[(5, "FunctionDeclaration")]⟩, fun _ => "", .default⟩
    let unnamed : Json := .object [("kind", .ofNat 5), ("expression", .object [])]
    let named : Json :=
      .object [("kind", .string "ClassDeclaration"), ("name", .object [("text", .string "A")])]
    let block : Json := .object [("statements", .array [unnamed, named])]
    let ast : Json := .object [("kind", .string "ModuleDeclaration"), ("flags", .ofNat 16),
      ("name", .object [("text", .string "N")]), ("body", block)]
    let leaf : Leaf := ⟨.propertyDecl, none, "FunctionDeclaration", unnamed⟩
    let parent : Decl := .context .namespaceDecl "N" [("INVALID NAME REF", .leaf leaf),
      ("A", .leaf ⟨.propertyDecl, some "A", "ClassDeclaration", named⟩)]
    (w.walk ast w.start).context.toDecl.below? [0] = some parent ∧
      ("INVALID NAME REF", .leaf leaf) ∈ parent.children ∧
      (Ordered.keys parent.children).Nodup ∧ leaf.Fits "INVALID NAME REF" ∧
      ∀ n, leaf.form ≠ KindTable.unnamed n := by
  intro w unnamed named block ast leaf parent
  have hparent : (w.walk ast w.start).context.toDecl.below? [0] = some parent := rfl
  have hmem : ("INVALID NAME REF", .leaf leaf) ∈ parent.children := List.mem_cons_self
  obtain ⟨hnodup, hentries⟩ := walk_entries_fit w ast w.start [0] parent hparent
  obtain ⟨-, hfits, hform⟩ := hentries _ _ hmem
  exact ⟨hparent, hmem, hnodup, hfits, (hform leaf rfl).2⟩

end Walker

end DeclTree
