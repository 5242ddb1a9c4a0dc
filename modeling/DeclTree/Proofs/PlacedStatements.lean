import DeclTree.Proofs.PlacedTerms

/-!
# Every program is placed

Statements and declarations are made as types and expressions are: of the range of the part
that is read and of what its descendants are read as. So a part whose descendants are read in
place is read in place (`InPlaceBelow.inPlace`), by induction every part is (`inPlace_read`),
and every lowered program is placed in the tree it is read from (`placed_program`).

A class that extends a type is the one place where a node that is already built gets another
field (`addArguments`). What the fold over the clause holds at each step is `Extended`.
-/

namespace DeclTree.Lower

open Cst Cst.Head Cst.Tree

variable {p q : Part}

namespace InPlaceBelow

theorem statementsIn (h : InPlaceBelow p) : ∀ v ∈ (statementsIn p.head).1, Placed p v := by
  intro v hv
  obtain ⟨l, hl, rfl⟩ := List.mem_map.mp hv
  obtain ⟨q, hq, hl⟩ := List.mem_filterMap.mp hl
  have hbelow := below_of_mem_main hq
  exact ((h q hbelow).statement [] l hl).mono hbelow.within

theorem block (h : InPlaceBelow p) (kind : String) : Placed p (block kind p.head).node :=
  ((Draft.PlacedAt.new p _).putItems h.statementsIn (by decide)).build

theorem moduleBlock (h : InPlaceBelow p) (hq : q.Below p) : Placed p (moduleBlock q).node :=
  h.lift hq (·.block "ModuleBlock")

/-- The node of a block that may be missing. -/
theorem innerBlock (h : InPlaceBelow p) {o : Option Part} (ho : ∀ q ∈ o, q.Below p) :
    ∀ v ∈ (o.map Lower.moduleBlock).map (·.node), Placed p v := by
  rw [Option.map_map]
  exact Option.forall_mem_map.mpr fun q hq => h.moduleBlock (ho q hq)

end InPlaceBelow

theorem placed_fieldIdentifier (p : Part) (name : String) :
    ∀ v ∈ (p.head.field? name).map (identifier ·.info), Placed p v :=
  placed_field (fun _ => placed_identifier_of_below) name

theorem placed_container {u : Part} (flags : Nat) (modifiers : List String)
    {name body : Option Json} (hname : ∀ v ∈ name, Placed u v) (hbody : ∀ v ∈ body, Placed u v) :
    Placed u (container u.info flags modifiers name body) :=
  ((Draft.PlacedAt.new u _).put (.number flags) (by decide)
    |>.modifiers modifiers
    |>.put? hname (by decide)
    |>.put? hbody (by decide)).build

theorem placed_nestedContainer {name : Part} (hname : name.Below p) (flags : Nat)
    {body : Option Json} (hbody : ∀ v ∈ body, Placed p v) (modifiers : List String)
    (segments : List String) :
    ∀ v ∈ nestedContainer p.info name.info flags body modifiers segments, Placed p v := by
  induction segments generalizing modifiers with
  | nil => exact hbody
  | cons segment rest ih =>
    intro v hv
    obtain rfl := Option.some.inj hv
    refine placed_container flags modifiers (fun w hw => ?_) (ih [])
    obtain rfl := Option.some.inj hw
    exact (placed_identifierNamed name segment).mono hname.within

theorem placed_getD {u : Part} {o : Option Json} {v : Json} (ho : ∀ w ∈ o, Placed u w)
    (hv : Placed u v) : Placed u (o.getD v) := by
  cases o with
  | none => exact hv
  | some w => exact ho w rfl

theorem placed_heritageClause {u : Part} (token : String) {types : List Json}
    (htypes : ∀ v ∈ types, Placed u v) : Placed u (heritageClause u.info token types) :=
  ((Draft.PlacedAt.new u _).put (.text token) (by decide) |>.putItems htypes (by decide)).build

/-- What an extends clause holds: the expression of a part below it, with or without arguments
that are read from anywhere in the clause. -/
inductive Extended (p : Part) : Json → Prop
  | bare {q : Part} (below : q.Below p) {expression : Json} (inside : Placed q expression) :
      Extended p (.object [("kind", .string "ExpressionWithTypeArguments"),
        ("pos", .ofNat q.info.start), ("end", .ofNat q.info.stop), ("expression", expression)])
  | applied {q r : Part} (below : q.Below p) {expression : Json} (inside : Placed q expression)
      (apart : r ∈ p.head.main) (kind : r.kind = "type_arguments") {arguments : List Json}
      (beside : ∀ v ∈ arguments, Placed p v) :
      Extended p (.object [("kind", .string "ExpressionWithTypeArguments"),
        ("pos", .ofNat q.info.start), ("end", .ofNat q.info.stop), ("expression", expression),
        ("typeArguments", .array arguments)])

theorem Extended.placed {v : Json} (hp : p.kind = "extends_clause") (h : Extended p v) :
    Placed p v := by
  cases h with
  | bare below inside =>
    exact .node below.within _ fun e he => List.mem_singleton.mp he ▸ inside
  | applied below inside apart kind beside =>
    exact .extended below.within ⟨p, .root, hp, _, apart, kind⟩ inside beside

/-- Arguments go to the type read last, and in place of those it already has. -/
theorem extended_addArguments {r : Part} (hr : r ∈ p.head.main)
    (hkind : r.kind = "type_arguments") {arguments types : List Json}
    (harguments : ∀ v ∈ arguments, Placed p v) (htypes : ∀ v ∈ types, Extended p v) :
    ∀ v ∈ addArguments arguments types, Extended p v := by
  cases types with
  | nil => exact htypes
  | cons last rest =>
    obtain ⟨hlast, hrest⟩ := List.forall_mem_cons.mp htypes
    cases hlast with
    | bare below inside =>
      exact List.forall_mem_cons.mpr ⟨.applied below inside hr hkind harguments, hrest⟩
    | applied below inside =>
      exact List.forall_mem_cons.mpr ⟨.applied below inside hr hkind harguments, hrest⟩

namespace InPlaceBelow

theorem containerDeclaration (h : InPlaceBelow p) (flags : Nat) (modifiers : List String) :
    Placed p (containerDeclaration p.head flags modifiers).node := by
  have hbody := h.innerBlock (o := p.head.field? "body") fun _ => below_of_field?
  simp only [Lower.containerDeclaration]
  split
  · exact placed_container flags modifiers (fun v hv => absurd hv (by simp)) hbody
  · rename_i name hname
    have hbelow := below_of_field? hname
    split
    · refine placed_container flags modifiers (fun v hv => ?_) hbody
      obtain rfl := Option.some.inj hv
      exact placed_stringLiteral_of_below hbelow
    · exact placed_getD (placed_nestedContainer hbelow flags hbody modifiers _) (placed_textOnly p)

theorem exportAssignment (h : InPlaceBelow p) (hq : q.Below p) (isEquals : Bool) :
    Placed p (exportAssignment p.head q isEquals) :=
  ((Draft.PlacedAt.new p _).put (.truth isEquals) (by decide)
    |>.put (h.expression hq) (by decide)).build

theorem exportClause (p : Part) : Placed p (exportClause p.head) := by
  have hclause : ∀ v ∈ (p.head.childOfKind? "export_clause").map (textOnly ·.info), Placed p v :=
    Option.forall_mem_map.mpr fun q hq => placed_textOnly_of_below (below_of_childOfKind? hq)
  exact ((Draft.PlacedAt.new p _).put? hclause (by decide)
    |>.put? (placed_field (fun _ => placed_stringLiteral_of_below) "source") (by decide)).build

/-- A statement below, or a node in its place. -/
theorem statementOr (h : InPlaceBelow p) {o : Option Part} (ho : ∀ q ∈ o, q.Below p)
    (modifiers : List String) {v : Json} (hv : Placed p v) :
    Placed p ((o.bind (·.attr.statement modifiers)).getD (quiet v)).node := by
  cases hl : o.bind (·.attr.statement modifiers) with
  | none => exact hv
  | some l =>
    obtain ⟨q, hq, hl⟩ := Option.bind_eq_some_iff.mp hl
    exact ((h q (ho q hq)).statement modifiers l hl).mono (ho q hq).within

theorem exportRest (h : InPlaceBelow p) (isDefault : Bool) (modifiers : List String) :
    Placed p (exportRest p.head isDefault modifiers).node := by
  simp only [Lower.exportRest]
  split
  · rename_i value hvalue
    have hbelow := below_of_field? (Option.ite_none_right_eq_some.mp hvalue).2
    split
    · exact h.statementOr (o := some value) (fun q hq => Option.some.inj hq ▸ hbelow) modifiers
        (placed_textOnly_of_below hbelow)
    · exact h.exportAssignment hbelow false
  · split
    · rename_i expression hassigned
      exact h.exportAssignment (below_of_firstMain? (Option.ite_none_right_eq_some.mp hassigned).2)
        true
    · split
      · exact ((Draft.PlacedAt.new p _).put?
          (placed_firstMain fun _ => placed_identifier_of_below) (by decide)).build
      · exact exportClause p

theorem exported (h : InPlaceBelow p) : Placed p (exported p.head).node := by
  simp only [Lower.exported]
  split
  · rename_i l hl
    obtain ⟨q, hq, hl⟩ := Option.bind_eq_some_iff.mp hl
    have hbelow := below_of_field? hq
    exact ((h q hbelow).statement _ l hl).mono hbelow.within
  · exact h.exportRest _ _

theorem ambient (h : InPlaceBelow p) (modifiers : List String) :
    Placed p (ambient p.head modifiers).node := by
  simp only [Lower.ambient]
  split
  · refine placed_container 0 _ (fun v hv => ?_)
      (h.innerBlock (o := p.head.childOfKind? _) fun _ => below_of_childOfKind?)
    obtain rfl := Option.some.inj hv
    exact placed_identifierNamed p "global"
  · exact h.statementOr (fun _ => below_of_firstMain?) _ (placed_textOnly p)

theorem expressionStatement (h : InPlaceBelow p) (modifiers : List String) :
    Placed p (expressionStatement p.head modifiers).node := by
  rw [Lower.expressionStatement]
  split
  · rename_i inner hinner
    have hbelow := below_of_firstMain? (Option.filter_eq_some_iff.mp hinner).1
    exact h.lift hbelow (·.containerDeclaration _ _)
  · have hinner := placed_firstMain fun _ => h.expression
    exact ((Draft.PlacedAt.new p _).put? hinner (by decide)).build

theorem function (h : InPlaceBelow p) (modifiers : List String) :
    Placed p (function p.head modifiers) :=
  (h.signature ((Draft.PlacedAt.new p _).modifiers _
    |>.mark _ _ (by decide)
    |>.put? (placed_fieldIdentifier p "name") (by decide))).build

theorem extendedTypes (h : InPlaceBelow p) : ∀ v ∈ extendedTypes p.head, Extended p v := by
  -- the invariant of the fold: every type held so far is `Extended`
  have hfold : ∀ (parts : List Part) (types : List Json), (∀ q ∈ parts, q ∈ p.head.main) →
      (∀ v ∈ types, Extended p v) → ∀ v ∈ parts.foldl (fun types q =>
        if q.kind == "type_arguments" then addArguments (Lower.typesIn q.head) types
        else ((Draft.new "ExpressionWithTypeArguments" q.info).put "expression"
          (expressionOf q)).build :: types) types, Extended p v := by
    intro parts
    induction parts with
    | nil => exact fun types _ htypes => htypes
    | cons q rest ih =>
      intro types hparts htypes
      obtain ⟨hq, hrest⟩ := List.forall_mem_cons.mp hparts
      have hbelow := below_of_mem_main hq
      refine ih _ hrest ?_
      dsimp only
      split
      · rename_i hkind
        exact extended_addArguments hq (beq_iff_eq.mp hkind)
          (fun v hv => h.lift hbelow (·.typesIn v hv)) htypes
      · exact List.forall_mem_cons.mpr ⟨.bare hbelow (h q hbelow).expression, htypes⟩
  exact hfold p.head.main [] (fun _ hq => hq) fun v hv => absurd hv List.not_mem_nil

theorem heritageOf (h : InPlaceBelow p) : ∀ v ∈ heritageOf? p, Placed p v := by
  intro v hv
  rw [heritageOf?] at hv
  split at hv
  · rename_i hkind
    obtain rfl := Option.some.inj hv
    exact placed_heritageClause _ fun v hv =>
      (h.extendedTypes v (List.mem_reverse.mp hv)).placed (beq_iff_eq.mp hkind)
  · split at hv
    · obtain rfl := Option.some.inj hv
      exact placed_heritageClause _ h.typesIn
    · cases hv

theorem classHeritage (h : InPlaceBelow p) : ∀ v ∈ classHeritage p.head, Placed p v := by
  refine h.listed (fun _ => below_of_childOfKind?) fun q hq v hv => ?_
  obtain ⟨clause, hclause, hv⟩ := List.mem_filterMap.mp hv
  exact hq.lift (below_of_mem_main hclause) (·.heritageOf v hv)

theorem method (h : InPlaceBelow p) : Placed p (method p) := by
  have hshown : ∀ isConstructor : Bool, ∀ v ∈ (if isConstructor = true then none
      else (p.head.field? "name").map Lower.propertyName), Placed p v :=
    fun _ v hv => h.fieldName v (Option.ite_none_left_eq_some.mp hv).2
  exact (h.signature ((Draft.PlacedAt.new p _).modifiers _
    |>.put? (hshown _) (by decide)
    |>.optional _)).build

theorem property (h : InPlaceBelow p) : Placed p (property p) :=
  ((Draft.PlacedAt.new p _).modifiers _
    |>.put? h.fieldName (by decide)
    |>.optional _
    |>.put? (h.fieldClause "type") (by decide)
    |>.put? (h.fieldExpression "value") (by decide)).build

theorem classMember (h : InPlaceBelow p) : ∀ v ∈ classMember? p, Placed p v := by
  intro v hv
  rw [classMember?] at hv
  split at hv
  · obtain rfl := Option.some.inj hv
    exact h.method
  · split at hv
    · obtain rfl := Option.some.inj hv
      exact h.property
    · split at hv
      · cases hv
      · obtain rfl := Option.some.inj hv
        exact placed_textOnly p

theorem classDeclaration (h : InPlaceBelow p) (modifiers : List String) :
    Placed p (classDeclaration p.head modifiers) := by
  have hmembers : ∀ v ∈ (bodyParts p.head).filterMap classMember?, Placed p v := by
    intro v hv
    obtain ⟨q, hq, hv⟩ := List.mem_filterMap.mp hv
    exact h.lift (below_of_mem_bodyParts hq) (·.classMember v hv)
  exact ((Draft.PlacedAt.new p _).modifiers _
    |>.put? (placed_fieldIdentifier p "name") (by decide)
    |>.putSome h.typeParameters (by decide)
    |>.putSome h.classHeritage (by decide)
    |>.putItems hmembers (by decide)).build

theorem interfaceDeclaration (h : InPlaceBelow p) (modifiers : List String) :
    Placed p (interfaceDeclaration p.head modifiers) := by
  have hheritage := h.listed (o := p.head.childOfKind? "extends_type_clause")
    (fun _ => below_of_childOfKind?) fun q hq =>
      List.forall_mem_singleton.mpr (placed_heritageClause "ExtendsKeyword" hq.typesIn)
  have hmembers : ∀ v ∈ (bodyParts p.head).map Lower.typeMember, Placed p v :=
    List.forall_mem_map.mpr fun q hq => h.lift (below_of_mem_bodyParts hq) (·.typeMember)
  exact ((Draft.PlacedAt.new p _).modifiers _
    |>.put? (placed_fieldIdentifier p "name") (by decide)
    |>.putSome h.typeParameters (by decide)
    |>.putSome hheritage (by decide)
    |>.putItems hmembers (by decide)).build

theorem typeAlias (h : InPlaceBelow p) (modifiers : List String) :
    Placed p (typeAlias p.head modifiers) :=
  ((Draft.PlacedAt.new p _).modifiers _
    |>.put? (placed_fieldIdentifier p "name") (by decide)
    |>.putSome h.typeParameters (by decide)
    |>.put? (h.fieldType "value") (by decide)).build

/-- A member may be its own name. -/
theorem enumMember (h : InPlaceBelow p) (hp : InPlace p) : Placed p (enumMember p) := by
  simp only [Lower.enumMember]
  split
  · exact ((Draft.PlacedAt.new p _).put? h.fieldName (by decide)
      |>.put? (h.fieldExpression "value") (by decide)).build
  · refine ((Draft.PlacedAt.new p _).put ?_ (by decide)).build
    rw [Lower.propertyName]
    split
    · have hinner := placed_firstMain fun _ => h.expression
      exact ((Draft.PlacedAt.new p _).put? hinner (by decide)).build
    · exact hp.expression

theorem enumDeclaration (h : InPlaceBelow p) (modifiers : List String) :
    Placed p (enumDeclaration p.head modifiers) := by
  have hmembers : ∀ v ∈ (bodyParts p.head).map Lower.enumMember, Placed p v := by
    refine List.forall_mem_map.mpr fun q hq => ?_
    have hbelow := below_of_mem_bodyParts hq
    exact h.lift hbelow (·.enumMember (h q hbelow))
  exact ((Draft.PlacedAt.new p _).modifiers _
    |>.put? (placed_fieldIdentifier p "name") (by decide)
    |>.putItems hmembers (by decide)).build

theorem declarator (h : InPlaceBelow p) : Placed p (declarator p) :=
  ((Draft.PlacedAt.new p _).put?
      (placed_field (fun q hq => (placed_bindingName q).mono hq.within) "name") (by decide)
    |>.put? (h.fieldClause "type") (by decide)
    |>.put? (h.fieldExpression "value") (by decide)).build

theorem variableStatement (h : InPlaceBelow p) (modifiers : List String) :
    Placed p (variableStatement p.head modifiers) := by
  have hdeclarators := h.filteredMain (fun _ hq => hq.declarator) (·.kind == "variable_declarator")
  have hlist : Placed p (((Draft.new "VariableDeclarationList" p.info).put "flags"
      (.ofNat (listFlags p.head))).putItems "declarations" _).build :=
    ((Draft.PlacedAt.new p _).put (.number _) (by decide)
      |>.putItems hdeclarators (by decide)).build
  exact (((Draft.PlacedAt.new p _).modifiers _).put hlist (by decide)).build

theorem importSpecifier (h : InPlaceBelow p) : Placed p (importSpecifier p) := by
  simp only [Lower.importSpecifier]
  split
  · rename_i other hother
    exact ((Draft.PlacedAt.new p _).put? (h.fieldExpression "name") (by decide)
      |>.put (placed_identifier_of_below (below_of_field? hother)) (by decide)).build
  · exact ((Draft.PlacedAt.new p _).put? (h.fieldExpression "name") (by decide)).build

theorem childIdentifier (p : Part) : ∀ v ∈ childIdentifier? p, Placed p v :=
  Option.forall_mem_map.mpr fun _ hq => placed_identifier_of_below (below_of_childOfKind? hq)

theorem addImport (h : InPlaceBelow p) (hq : q.Below p) {d : Draft} (hd : d.PlacedAt p) :
    (addImport d q).PlacedAt p := by
  rw [Lower.addImport]
  split
  · exact hd.put (placed_identifier_of_below hq) (by decide)
  · split
    · have hnamespace : ((Draft.new "NamespaceImport" q.info).put? "name"
          (childIdentifier? q)).PlacedAt q :=
        (Draft.PlacedAt.new q _).put? (childIdentifier q) (by decide)
      exact hd.put (hnamespace.build.mono hq.within) (by decide)
    · split
      · have hspecifiers := (h.of_below hq).filteredMain (fun _ hr => hr.importSpecifier)
          (·.kind == "import_specifier")
        have hnamed : ((Draft.new "NamedImports" q.info).putItems "elements" _).PlacedAt q :=
          (Draft.PlacedAt.new q _).putItems hspecifiers (by decide)
        exact hd.put (hnamed.build.mono hq.within) (by decide)
      · exact hd

theorem importClause (h : InPlaceBelow p) : Placed p (importClause p) := by
  have hfold : ∀ (parts : List Part) (d : Draft), (∀ q ∈ parts, q.Below p) → d.PlacedAt p →
      (parts.foldl Lower.addImport d).PlacedAt p := by
    intro parts
    induction parts with
    | nil => exact fun d _ hd => hd
    | cons q rest ih =>
      intro d hparts hd
      obtain ⟨hq, hrest⟩ := List.forall_mem_cons.mp hparts
      exact ih _ hrest (h.addImport hq hd)
  exact (hfold p.head.main _ (fun _ => below_of_mem_main) (Draft.PlacedAt.new p _)).build

theorem requiredModule (p : Part) : Placed p (requiredModule p) :=
  ((Draft.PlacedAt.new p _).put (placed_stringLiteral p) (by decide)).build

theorem importStatement (h : InPlaceBelow p) : Placed p (importStatement p.head) := by
  rw [Lower.importStatement]
  split
  · rename_i clause hclause
    have hbelow := below_of_childOfKind? hclause
    have hname : ∀ v ∈ childIdentifier? clause, Placed p v :=
      fun v hv => (childIdentifier clause v hv).mono hbelow.within
    have hsource : ∀ v ∈ (clause.head.field? "source").map Lower.requiredModule, Placed p v :=
      fun v hv => (placed_field (fun q hq => (requiredModule q).mono hq.within) "source" v
        hv).mono hbelow.within
    exact ((Draft.PlacedAt.new p _).put? hname (by decide) |>.put? hsource (by decide)).build
  · have hclause : ∀ v ∈ (p.head.childOfKind? "import_clause").map Lower.importClause, Placed p v :=
      Option.forall_mem_map.mpr fun q hq => h.lift (below_of_childOfKind? hq) (·.importClause)
    exact ((Draft.PlacedAt.new p _).put? hclause (by decide)
      |>.put? (placed_field (fun _ => placed_stringLiteral_of_below) "source") (by decide)).build

theorem importAlias (p : Part) (modifiers : List String) :
    Placed p (importAlias p.head modifiers) := by
  have htarget : ∀ v ∈ p.head.main[1]?.map (entityName ·.info), Placed p v :=
    Option.forall_mem_map.mpr fun q hq =>
      placed_entityName_of_below (below_of_mem_main (List.mem_of_getElem? hq))
  exact ((Draft.PlacedAt.new p _).modifiers _
    |>.put? (placed_firstMain fun _ => placed_identifier_of_below) (by decide)
    |>.put? htarget (by decide)).build

theorem readStatement (h : InPlaceBelow p) (modifiers : List String) :
    ∀ l ∈ readStatement p.head modifiers, Placed p l.node := by
  have hsome : ∀ {m : Lowered}, Placed p m.node → ∀ l ∈ some m, Placed p l.node :=
    fun hm l hl => Option.some.inj hl ▸ hm
  rw [Lower.readStatement]
  cases Ordered.get? statementForms p.head.kind with
  | none => exact hsome (placed_textOnly p)
  | some form =>
    cases form with
    | hashBang => exact fun l hl => absurd hl (by simp)
    | exported => exact hsome h.exported
    | ambient => exact hsome (h.ambient _)
    | expression => exact hsome (h.expressionStatement _)
    | container flags => exact hsome (h.containerDeclaration _ _)
    | function => exact hsome (h.function _)
    | classLike => exact hsome (h.classDeclaration _)
    | interface => exact hsome (h.interfaceDeclaration _)
    | typeAlias => exact hsome (h.typeAlias _)
    | enum => exact hsome (h.enumDeclaration _)
    | «variables» => exact hsome (h.variableStatement _)
    | imported => exact hsome h.importStatement
    | importAlias => exact hsome (importAlias p _)
    | block => exact hsome (h.block _)
    | malformed => exact hsome (placed_textOnly p)

theorem inPlace (h : InPlaceBelow p) (hp : p.attr = readings p.head) : InPlace p where
  type := by
    rw [typeOf, hp]
    exact h.readType
  expression := by
    rw [expressionOf, hp]
    exact h.readExpression
  statement modifiers := by
    rw [hp]
    exact h.readStatement modifiers

end InPlaceBelow

mutual

theorem inPlace_within : ∀ t u : Cst, u.Within t → InPlace (read u)
  | .node attr i fields siblings, u, hu => by
    have hbelow := inPlace_withinAll siblings
    cases hu with
    | root =>
      refine InPlaceBelow.inPlace (fun q hq => ?_) (attr_read _)
      obtain ⟨c, hc, hq⟩ := hq
      rw [children_read] at hc
      obtain ⟨c, hmem, rfl⟩ := List.mem_map.mp hc
      obtain ⟨v, hv, rfl⟩ := exists_of_within_read hq
      exact hbelow c hmem v hv
    | deeper hc hu => exact hbelow _ hc u hu

theorem inPlace_withinAll : ∀ ts : List Cst, ∀ t ∈ ts, ∀ u : Cst, u.Within t → InPlace (read u)
  | [] => fun _ ht => absurd ht List.not_mem_nil
  | t :: rest => List.forall_mem_cons.mpr ⟨inPlace_within t, inPlace_withinAll rest⟩

end

theorem inPlace_read (t : Cst) : InPlace (read t) := inPlace_within t t .root

theorem inPlaceBelow_read (t : Cst) : InPlaceBelow (read t) := by
  intro q hq
  obtain ⟨v, _, rfl⟩ := exists_of_within_read hq.within
  exact inPlace_read v

theorem argumentsApart_of_read {t : Cst} (h : ArgumentsApart (read t)) : ArgumentsApart t := by
  obtain ⟨clause, hclause, hkind, q, hq, harguments⟩ := h
  obtain ⟨c, hc, rfl⟩ := exists_of_within_read hclause
  rw [main_read] at hq
  obtain ⟨a, ha, rfl⟩ := List.mem_map.mp hq
  rw [kind_read] at hkind harguments
  exact ⟨c, hc, hkind, a, ha, harguments⟩

/-- A value placed in a tree that was read is placed in the tree itself. -/
theorem Placed.of_read {t : Cst} {v : Json} (h : Placed (read t) v) : Placed t v := by
  generalize hp : read t = p at h
  induction h generalizing t with
  | text s => exact .text s
  | truth b => exact .truth b
  | number n => exact .number n
  | token kind => exact .token kind
  | items _ ih => exact .items fun v hv => ih v hv hp
  | node within kind _ ih =>
    subst hp
    obtain ⟨c, hc, rfl⟩ := exists_of_within_read within
    rw [info_read]
    exact .node hc kind fun e he => ih e he rfl
  | extended within apart _ _ ih ihBeside =>
    subst hp
    obtain ⟨c, hc, rfl⟩ := exists_of_within_read within
    rw [info_read]
    exact .extended hc (argumentsApart_of_read apart) (ih rfl) fun v hv => ihBeside v hv rfl

/-- A lowered program is placed in the tree it is read from. -/
theorem placed_program (t : Cst) (language : Language) (fileName : Option String) :
    Placed t (program t language fileName).node := by
  have hname : ∀ v ∈ fileName.map Json.string, Placed (read t) v :=
    Option.forall_mem_map.mpr fun name _ => .text name
  exact Placed.of_read ((Draft.PlacedAt.new (read t) _).put? hname (by decide)
    |>.putItems (inPlaceBelow_read t).statementsIn (by decide)).build

end DeclTree.Lower
