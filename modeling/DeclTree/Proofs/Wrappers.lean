import DeclTree.Proofs.PlainStatements
import DeclTree.Proofs.Reading

/-!
# Wrappers around declarations

An export, an ambient declaration and, for a bare namespace, an expression statement wrap
a declaration (`Wraps`). Through a wrapper a statement is read as the wrapped node with
other modifiers (`Wraps.statement`), and modifiers are all that a declaration takes from
around it (`readStatement_sameDeclaration`). So a declaration inside any chain of wrappers
is lowered as it would be alone, up to its modifiers.

`Rewrapped` relates two lists of statements that differ by wrappers, at any depth of the
namespaces and modules in them. Programs with such statements come to the same plain
program (`plain_program`), so they are walked alike and have the same members.
-/

namespace DeclTree.Lower

namespace Draft

/-- Whether a field stays when modifiers are taken out. -/
def stays (key : String) : Bool := key != "modifiers"

/-- A draft without its modifiers. -/
def unmodified (d : Draft) : Draft := ⟨d.fields.filter fun e => stays e.1⟩

theorem without_modifiers_build (d : Draft) :
    d.build.without "modifiers" = d.unmodified.build := rfl

theorem unmodified_put (d : Draft) {key : String} (h : key ≠ "modifiers") (v : Json) :
    (d.put key v).unmodified = d.unmodified.put key v := by
  have hstays : stays key = true := by simp [stays, h]
  exact congrArg Draft.mk (Ordered.put_filter hstays d.fields v).symm

theorem unmodified_put? (d : Draft) {key : String} (h : key ≠ "modifiers") (v : Option Json) :
    (d.put? key v).unmodified = d.unmodified.put? key v := by
  cases v with
  | none => rfl
  | some v => exact unmodified_put d h v

theorem unmodified_putItems (d : Draft) {key : String} (h : key ≠ "modifiers")
    (items : List Json) : (d.putItems key items).unmodified = d.unmodified.putItems key items :=
  unmodified_put d h (.array items)

theorem unmodified_putSome (d : Draft) {key : String} (h : key ≠ "modifiers")
    (items : List Json) : (d.putSome key items).unmodified = d.unmodified.putSome key items := by
  rw [putSome, putSome]
  split
  · rfl
  · exact unmodified_putItems d h items

theorem unmodified_mark (d : Draft) {key : String} (h : key ≠ "modifiers") (kind : String)
    (on : Bool) : (d.mark key kind on).unmodified = d.unmodified.mark key kind on := by
  cases on with
  | false => rfl
  | true => exact unmodified_put d h (token kind)

@[simp] theorem unmodified_modifiers (d : Draft) (kinds : List String) :
    (d.modifiers kinds).unmodified = d.unmodified := by
  rw [modifiers, putSome]
  split
  · rfl
  · have hdropped : stays "modifiers" = false := rfl
    exact congrArg Draft.mk (Ordered.filter_put_of_dropped hdropped d.fields _)

end Draft

/-- Two lowered statements that differ in their modifiers only. -/
structure SameDeclaration (l l' : Lowered) : Prop where
  node : l.node.without "modifiers" = l'.node.without "modifiers"
  events : l.events = l'.events

theorem SameDeclaration.plain {l l' : Lowered} (h : SameDeclaration l l') :
    l.node.plain = l'.node.plain := by
  rw [← Json.plain_without_modifiers, h.node, Json.plain_without_modifiers]

/-- The grammar kinds of declarations. -/
def declarationKinds : List String := [
  "function_declaration", "generator_function_declaration", "function_signature",
  "class_declaration", "abstract_class_declaration", "interface_declaration",
  "type_alias_declaration", "enum_declaration", "lexical_declaration", "variable_declaration",
  "internal_module", "module", "import_alias"]

/-- Forms of statements that do nothing with modifiers but keep them. -/
def StatementForm.keepsModifiers : StatementForm → Bool
  | .container _ | .function | .classLike | .interface | .typeAlias | .enum | .variables
  | .importAlias => true
  | _ => false

theorem declarationKinds_keepModifiers : ∀ kind ∈ declarationKinds,
    (Ordered.get? statementForms kind).any StatementForm.keepsModifiers = true := by decide

theorem container_without_modifiers (info : Cst.Info) (flags : Nat) (modifiers : List String)
    (name body : Option Json) :
    (container info flags modifiers name body).without "modifiers" =
      (container info flags [] name body).without "modifiers" := by
  simp (disch := decide) only [container, Draft.without_modifiers_build, Draft.unmodified_put?,
    Draft.unmodified_modifiers]

theorem containerDeclaration_sameDeclaration (n : Source) (flags : Nat)
    (modifiers : List String) :
    SameDeclaration (containerDeclaration n flags modifiers) (containerDeclaration n flags []) := by
  refine ⟨?_, rfl⟩
  simp only [containerDeclaration]
  cases n.field? "name" with
  | none => exact container_without_modifiers _ _ _ _ _
  | some name =>
    dsimp only
    split
    · exact container_without_modifiers _ _ _ _ _
    · cases segments name.text with
      | nil => rfl
      | cons segment rest => exact container_without_modifiers _ _ _ _ _

/-- A declaration takes nothing from around it but modifiers. -/
theorem readStatement_sameDeclaration {n : Source} (h : n.kind ∈ declarationKinds)
    (modifiers : List String) :
    ∃ l l₀, readStatement n modifiers = some l ∧ readStatement n [] = some l₀ ∧
      SameDeclaration l l₀ := by
  have hkeeps := declarationKinds_keepModifiers n.kind h
  cases hform : Ordered.get? statementForms n.kind with
  | none =>
    rw [hform] at hkeeps
    cases hkeeps
  | some form =>
    rw [hform] at hkeeps
    simp only [readStatement, hform]
    cases form with
    | container flags =>
      exact ⟨_, _, rfl, rfl, containerDeclaration_sameDeclaration n flags modifiers⟩
    | function =>
      refine ⟨_, _, rfl, rfl, ?_, rfl⟩
      simp (disch := decide) only [quiet, function, putSignature, Draft.without_modifiers_build,
        Draft.unmodified_put?, Draft.unmodified_putItems, Draft.unmodified_putSome,
        Draft.unmodified_mark, Draft.unmodified_modifiers]
    | classLike =>
      refine ⟨_, _, rfl, rfl, ?_, rfl⟩
      simp (disch := decide) only [quiet, classDeclaration, Draft.without_modifiers_build,
        Draft.unmodified_put?, Draft.unmodified_putItems, Draft.unmodified_putSome,
        Draft.unmodified_modifiers]
    | interface =>
      refine ⟨_, _, rfl, rfl, ?_, rfl⟩
      simp (disch := decide) only [quiet, interfaceDeclaration, Draft.without_modifiers_build,
        Draft.unmodified_put?, Draft.unmodified_putItems, Draft.unmodified_putSome,
        Draft.unmodified_modifiers]
    | typeAlias =>
      refine ⟨_, _, rfl, rfl, ?_, rfl⟩
      simp (disch := decide) only [quiet, typeAlias, Draft.without_modifiers_build,
        Draft.unmodified_put?, Draft.unmodified_putSome, Draft.unmodified_modifiers]
    | enum =>
      refine ⟨_, _, rfl, rfl, ?_, rfl⟩
      simp (disch := decide) only [quiet, enumDeclaration, Draft.without_modifiers_build,
        Draft.unmodified_put?, Draft.unmodified_putItems, Draft.unmodified_modifiers]
    | «variables» =>
      refine ⟨_, _, rfl, rfl, ?_, rfl⟩
      simp (disch := decide) only [quiet, variableStatement, Draft.without_modifiers_build,
        Draft.unmodified_put, Draft.unmodified_modifiers]
    | importAlias =>
      refine ⟨_, _, rfl, rfl, ?_, rfl⟩
      simp (disch := decide) only [quiet, importAlias, Draft.without_modifiers_build,
        Draft.unmodified_put?, Draft.unmodified_modifiers]
    | _ => cases hkeeps

/-- `outer` is a wrapper around `inner`. -/
inductive Wraps (outer inner : Cst) : Prop
  | exported (kind : outer.kind = "export_statement")
      (declaration : outer.head.field? "declaration" = some inner)
  | ambient (kind : outer.kind = "ambient_declaration")
      (first : outer.head.firstMain? = some inner)
      (notGlobal : outer.head.hasToken "global" = false)
  | bare (kind : outer.kind = "expression_statement")
      (first : outer.head.firstMain? = some inner) (container : inner.kind = "internal_module")

/-- `d` inside a chain of wrappers, which may be empty. -/
inductive Wrapped (d : Cst) : Cst → Prop
  | alone : Wrapped d d
  | inside {inner outer : Cst} : Wrapped d inner → Wraps outer inner → Wrapped d outer

theorem statement_export {outer inner : Cst} (hkind : outer.kind = "export_statement")
    (hinner : outer.head.field? "declaration" = some inner)
    (hsome : ∀ modifiers, ((read inner).attr.statement modifiers).isSome)
    (modifiers : List String) :
    ∃ added, (read outer).attr.statement modifiers = (read inner).attr.statement added := by
  have hform : Ordered.get? statementForms "export_statement" = some .exported := rfl
  rw [statement_read outer, readStatement, head_kind_read, hkind, hform]
  simp only [exported, field?_read, hinner, Option.map_some, Option.bind_some]
  generalize (if (read outer).head.hasToken "default" then ["ExportKeyword", "DefaultKeyword"]
    else ["ExportKeyword"]) = added
  obtain ⟨l, hl⟩ := Option.isSome_iff_exists.mp (hsome added)
  refine ⟨added, ?_⟩
  rw [hl]

theorem statement_ambient {outer inner : Cst} (hkind : outer.kind = "ambient_declaration")
    (hinner : outer.head.firstMain? = some inner)
    (hglobal : outer.head.hasToken "global" = false)
    (hsome : ∀ modifiers, ((read inner).attr.statement modifiers).isSome)
    (modifiers : List String) :
    (read outer).attr.statement modifiers =
      (read inner).attr.statement (modifiers ++ ["DeclareKeyword"]) := by
  have hform : Ordered.get? statementForms "ambient_declaration" = some .ambient := rfl
  rw [statement_read outer, readStatement, head_kind_read, hkind, hform]
  simp only [ambient, hasToken_read, hglobal, Bool.false_eq_true, if_false, firstMain?_read,
    hinner, Option.map_some, Option.bind_some]
  obtain ⟨l, hl⟩ := Option.isSome_iff_exists.mp (hsome (modifiers ++ ["DeclareKeyword"]))
  rw [hl, Option.getD_some]

theorem statement_container {c : Cst} {flags : Nat}
    (hform : Ordered.get? statementForms c.kind = some (.container flags))
    (modifiers : List String) :
    (read c).attr.statement modifiers =
      some (containerDeclaration (read c).head flags modifiers) := by
  rw [statement_read, readStatement, head_kind_read, hform]

theorem statement_bare {outer inner : Cst} (hkind : outer.kind = "expression_statement")
    (hinner : outer.head.firstMain? = some inner) (hcontainer : inner.kind = "internal_module")
    (modifiers : List String) :
    (read outer).attr.statement modifiers = (read inner).attr.statement modifiers := by
  have hform : Ordered.get? statementForms "expression_statement" = some .expression := rfl
  have hnamespace : Ordered.get? statementForms inner.kind = some (.container namespaceFlags) := by
    rw [hcontainer]
    rfl
  rw [statement_container hnamespace, statement_read, readStatement, head_kind_read, hkind, hform]
  simp only [expressionStatement, firstMain?_read, hinner, Option.map_some, Option.filter_some,
    kind_read, hcontainer, beq_self_eq_true, if_true]

/-- A wrapper is read as what it wraps, with other modifiers. -/
theorem Wraps.statement {outer inner : Cst} (h : Wraps outer inner)
    (hsome : ∀ modifiers, ((read inner).attr.statement modifiers).isSome)
    (modifiers : List String) :
    ∃ added, (read outer).attr.statement modifiers = (read inner).attr.statement added := by
  cases h with
  | exported hkind hinner => exact statement_export hkind hinner hsome modifiers
  | ambient hkind hinner hglobal =>
    exact ⟨_, statement_ambient hkind hinner hglobal hsome modifiers⟩
  | bare hkind hinner hcontainer => exact ⟨_, statement_bare hkind hinner hcontainer modifiers⟩

theorem Wrapped.statement {d t : Cst} (h : Wrapped d t)
    (hd : ∀ modifiers, ((read d).attr.statement modifiers).isSome) (modifiers : List String) :
    ∃ added, (read t).attr.statement modifiers = (read d).attr.statement added := by
  induction h generalizing modifiers with
  | alone => exact ⟨modifiers, rfl⟩
  | @inside inner outer _ hwraps ih =>
    have hsome : ∀ modifiers, ((read inner).attr.statement modifiers).isSome := by
      intro modifiers
      obtain ⟨added, hsame⟩ := ih modifiers
      rw [hsame]
      exact hd added
    obtain ⟨between, houter⟩ := hwraps.statement hsome modifiers
    obtain ⟨added, hinner⟩ := ih between
    exact ⟨added, houter.trans hinner⟩

theorem statement_sameDeclaration {d : Cst} (hd : d.kind ∈ declarationKinds)
    (modifiers : List String) :
    ∃ l l₀, (read d).attr.statement modifiers = some l ∧ (read d).attr.statement [] = some l₀ ∧
      SameDeclaration l l₀ := by
  rw [statement_read]
  refine readStatement_sameDeclaration ?_ modifiers
  rw [head_kind_read]
  exact hd

/-- Inside any chain of wrappers a declaration is lowered as it is alone, up to modifiers. -/
theorem Wrapped.sameDeclaration {d t : Cst} (h : Wrapped d t) (hd : d.kind ∈ declarationKinds)
    (modifiers : List String) :
    ∃ l l₀, (read t).attr.statement modifiers = some l ∧ (read d).attr.statement [] = some l₀ ∧
      SameDeclaration l l₀ := by
  have hsome : ∀ modifiers, ((read d).attr.statement modifiers).isSome := by
    intro modifiers
    obtain ⟨l, -, hl, -, -⟩ := statement_sameDeclaration hd modifiers
    rw [hl]
    rfl
  obtain ⟨added, ht⟩ := h.statement hsome modifiers
  rw [ht]
  exact statement_sameDeclaration hd added

/-- The grammar kinds of namespaces and modules. -/
def containerKinds : List String := ["internal_module", "module"]

theorem containerKinds_form {kind : String} (h : kind ∈ containerKinds) :
    ∃ flags, Ordered.get? statementForms kind = some (.container flags) := by
  simp only [containerKinds, List.mem_cons, List.not_mem_nil, or_false] at h
  rcases h with rfl | rfl
  · exact ⟨namespaceFlags, rfl⟩
  · exact ⟨0, rfl⟩

/-- The second list is the first with wrappers around some of its declarations, and around
declarations in the bodies of its namespaces and modules. -/
inductive Rewrapped : List Cst → List Cst → Prop
  | nil : Rewrapped [] []
  | same (t : Cst) {ts ts' : List Cst} : Rewrapped ts ts' → Rewrapped (t :: ts) (t :: ts')
  | wrapped {d t : Cst} {ts ts' : List Cst} (hkind : d.kind ∈ declarationKinds) :
      Wrapped d t → Rewrapped ts ts' → Rewrapped (d :: ts) (t :: ts')
  | within {c c' t body body' : Cst} {ts ts' : List Cst} (hkind : c.kind ∈ containerKinds)
      (hsame : c'.kind = c.kind)
      (hname : (c'.head.field? "name").map Cst.Tree.info =
        (c.head.field? "name").map Cst.Tree.info)
      (hbody : c.head.field? "body" = some body) (hbody' : c'.head.field? "body" = some body') :
      Rewrapped body.head.main body'.head.main → Wrapped c' t → Rewrapped ts ts' →
        Rewrapped (c :: ts) (t :: ts')

theorem plain_container (info : Cst.Info) (flags : Nat) (modifiers : List String)
    (name body : Option Json) :
    (container info flags modifiers name body).plain =
      (((Draft.mk [("kind", .string "ModuleDeclaration"), ("flags", .ofNat flags)]).put? "name"
        name).put? "body" (body.map Json.plain)).build := by
  rw [← Json.plain_without_modifiers, container_without_modifiers, Json.plain_without_modifiers]
  cases name with
  | none => cases body <;> rfl
  | some name => cases body <;> rfl

/-- Nested declarations are plain as far as their innermost body is. -/
theorem plain_nestedContainer (info info' name : Cst.Info) (flags : Nat)
    {body body' : Option Json} (h : body'.map Json.plain = body.map Json.plain)
    (segments modifiers modifiers' : List String) :
    (nestedContainer info' name flags body' modifiers' segments).map Json.plain =
      (nestedContainer info name flags body modifiers segments).map Json.plain := by
  induction segments generalizing modifiers modifiers' with
  | nil => exact h
  | cons segment rest ih =>
    rw [nestedContainer, nestedContainer, Option.map_some, Option.map_some, plain_container,
      plain_container, ih [] []]

/-- What there is to see of a lowered statement, wrapped or not. -/
def outcome (l : Lowered) : Json × List Event := (l.node.plain, l.events)

theorem SameDeclaration.outcome {l l' : Lowered} (h : SameDeclaration l l') :
    Lower.outcome l = Lower.outcome l' :=
  Prod.ext h.plain h.events

theorem plain_nodes (ls : List Lowered) :
    (ls.map (·.node)).map Json.plain = (ls.map outcome).map Prod.fst := by
  simp only [List.map_map]
  rfl

theorem events_eq (ls : List Lowered) :
    ls.flatMap (·.events) = (ls.map outcome).flatMap Prod.snd := by
  rw [List.flatMap_map]
  rfl

theorem moduleBlock_outcome {body body' : Cst}
    (h : (lowerAll body'.head.main).map outcome = (lowerAll body.head.main).map outcome) :
    outcome (moduleBlock (read body')) = outcome (moduleBlock (read body)) := by
  have hplain : ∀ (info : Cst.Info) (nodes : List Json),
      ((Draft.new "ModuleBlock" info).putItems "statements" nodes).build.plain =
        .object [("kind", .string "ModuleBlock"), ("statements", .array (nodes.map Json.plain))] := by
    intro info nodes
    rw [← Json.plainAll_eq]
    rfl
  rw [outcome, outcome, moduleBlock, moduleBlock, block_read, block_read]
  simp only [hplain, plain_nodes, events_eq, h]

theorem segments_ne_nil (text : String) : segments text ≠ [] := by
  intro h
  rw [segments, List.map_eq_nil_iff, Text.split, List.map_eq_nil_iff] at h
  exact Text.splitChars_ne_nil '.' text.toList h

/-- Containers of one name show the same when the statements in their bodies do. -/
theorem containerDeclaration_outcome {c c' body body' : Cst} (flags : Nat)
    (modifiers modifiers' : List String)
    (hname : (c'.head.field? "name").map Cst.Tree.info = (c.head.field? "name").map Cst.Tree.info)
    (hbody : c.head.field? "body" = some body) (hbody' : c'.head.field? "body" = some body')
    (h : (lowerAll body'.head.main).map outcome = (lowerAll body.head.main).map outcome) :
    outcome (containerDeclaration (read c').head flags modifiers') =
      outcome (containerDeclaration (read c).head flags modifiers) := by
  have hblock := moduleBlock_outcome h
  have hplain : (moduleBlock (read body')).node.plain = (moduleBlock (read body)).node.plain :=
    congrArg Prod.fst hblock
  have hevents : (moduleBlock (read body')).events = (moduleBlock (read body)).events :=
    congrArg Prod.snd hblock
  have hbodies : (some (moduleBlock (read body')).node).map Json.plain =
      (some (moduleBlock (read body)).node).map Json.plain := congrArg some hplain
  refine Prod.ext ?_ ?_
  · simp only [outcome, containerDeclaration, field?_read, hbody, hbody', Option.map_some]
    cases hn : c.head.field? "name" with
    | none =>
      rw [hn, Option.map_none, Option.map_eq_none_iff] at hname
      simp only [hname, Option.map_none, plain_container, Option.map_some, hplain]
    | some name =>
      rw [hn, Option.map_some, Option.map_eq_some_iff] at hname
      obtain ⟨name', hn', hinfo⟩ := hname
      have hkind : name'.kind = name.kind := congrArg Cst.Info.kind hinfo
      have htext : name'.text = name.text := congrArg Cst.Info.text hinfo
      simp only [hn', Option.map_some, kind_read, info_read, text_read, hkind, hinfo, htext]
      split
      · simp only [plain_container, Option.map_some, hplain]
      · obtain ⟨segment, rest, hs⟩ := List.exists_cons_of_ne_nil (segments_ne_nil name.text)
        have hnested := plain_nestedContainer (read c).head.info (read c').head.info name.info flags
          hbodies (segments name.text) modifiers modifiers'
        rw [hs] at hnested ⊢
        exact Option.some.inj hnested
  · simp only [outcome, containerDeclaration, field?_read, hbody, hbody', Option.map_some]
    exact hevents

theorem lowerAll_cons (t : Cst) (ts : List Cst) :
    lowerAll (t :: ts) = ((read t).attr.statement []).toList ++ lowerAll ts := by
  rw [lowerAll, List.filterMap_cons]
  cases (read t).attr.statement [] <;> rfl

/-- Statements that differ by wrappers show the same. -/
theorem Rewrapped.outcomes {ts ts' : List Cst} (h : Rewrapped ts ts') :
    (lowerAll ts').map outcome = (lowerAll ts).map outcome := by
  induction h with
  | nil => rfl
  | same t _ ih => rw [lowerAll_cons, lowerAll_cons, List.map_append, List.map_append, ih]
  | wrapped hkind hwrapped _ ih =>
    obtain ⟨l, l₀, hl, hl₀, hsame⟩ := hwrapped.sameDeclaration hkind []
    rw [lowerAll_cons, lowerAll_cons, List.map_append, List.map_append, ih, hl, hl₀]
    simp only [Option.toList_some, List.map_cons, List.map_nil, hsame.outcome]
  | @within c c' t body body' ts ts' hkind hsame hname hbody hbody' _ hwrapped _ ihbody ih =>
    obtain ⟨flags, hform⟩ := containerKinds_form hkind
    have hform' : Ordered.get? statementForms c'.kind = some (.container flags) := by
      rw [hsame, hform]
    have hsome : ∀ modifiers, ((read c').attr.statement modifiers).isSome := by
      intro modifiers
      rw [statement_container hform']
      rfl
    obtain ⟨added, ht⟩ := hwrapped.statement hsome []
    rw [lowerAll_cons, lowerAll_cons, List.map_append, List.map_append, ih, ht,
      statement_container hform', statement_container hform]
    simp only [Option.toList_some, List.map_cons, List.map_nil,
      containerDeclaration_outcome flags [] added hname hbody hbody' ihbody]

theorem plain_program (t : Cst) (language : Language) (fileName : Option String) :
    (program t language fileName).node.plain =
      (((Draft.mk [("kind", .string "SourceFile")]).put? "fileName" (fileName.map .string)).putItems
        "statements" (((lowerAll t.head.main).map outcome).map Prod.fst)).build := by
  rw [← plain_nodes, ← Json.plainAll_eq]
  simp only [program, sourceFile, statementsIn_read]
  cases fileName <;> rfl

/-- A declaration inside any chain of wrappers is lowered as it is alone, except for its
modifiers. A program with such wrappers, anywhere in its namespaces and modules, is walked
into the same tree and has the same members. -/
theorem wrappers_are_transparent :
    (∀ d t : Cst, d.kind ∈ declarationKinds → Wrapped d t → ∀ modifiers : List String,
      ∃ l l₀, (read t).attr.statement modifiers = some l ∧ (read d).attr.statement [] = some l₀ ∧
        l.node.without "modifiers" = l₀.node.without "modifiers" ∧ l.events = l₀.events) ∧
    ∀ root root' : Cst, Rewrapped root.head.main root'.head.main →
      ∀ (language : Language) (fileName : Option String),
        let ast := (program root language fileName).node
        let ast' := (program root' language fileName).node
        (∀ (w : Walker) (s : Walker.State),
          (w.walk ast' s).context.toJson = (w.walk ast s).context.toJson ∧
            (w.walk ast' s).state.scope = (w.walk ast s).state.scope) ∧
        ∀ (kinds : KindTable) (name : String),
          findMembers kinds ast' name = findMembers kinds ast name := by
  refine ⟨?_, ?_⟩
  · intro d t hkind hwrapped modifiers
    obtain ⟨l, l₀, hl, hl₀, hsame⟩ := hwrapped.sameDeclaration hkind modifiers
    exact ⟨l, l₀, hl, hl₀, hsame.node, hsame.events⟩
  · intro root root' h language fileName ast ast'
    have hplain : ast'.plain = ast.plain := by
      rw [plain_program, plain_program, h.outcomes]
    refine ⟨fun w s => w.walk_of_plain hplain s, ?_⟩
    intro kinds name
    rw [← findMembers_plain kinds ast', hplain, findMembers_plain]

/-- A class, alone and as an exported ambient declaration: the same class but for two modifiers. -/
theorem wrappers_are_transparent_class :
    let name : Cst := .node () ⟨"type_identifier", true, 21, 22, "C"⟩ [] []
    let declaration : Cst :=
      .node () ⟨"class_declaration", true, 15, 25, "class C \x7b\x7d"⟩ [("name", [0])] [name]
    let declared : Cst :=
      .node () ⟨"ambient_declaration", true, 7, 25, "declare class C \x7b\x7d"⟩ [] [declaration]
    let exported : Cst :=
      .node () ⟨"export_statement", true, 0, 25, "export declare class C \x7b\x7d"⟩
        [("declaration", [0])] [declared]
    let program (statement : Cst) : Json :=
      (Lower.program (.node () ⟨"program", true, 0, 25, ""⟩ [] [statement]) .typeScript none).node
    declaration.kind ∈ declarationKinds ∧ Wrapped declaration exported ∧
      Rewrapped [declaration] [exported] ∧
      (∃ l l₀, (read exported).attr.statement [] = some l ∧
        (read declaration).attr.statement [] = some l₀ ∧
        l.node.without "modifiers" = l₀.node.without "modifiers" ∧ l.events = l₀.events) ∧
      ∀ (w : Walker) (s : Walker.State),
        (w.walk (program exported) s).context.toJson =
            (w.walk (program declaration) s).context.toJson ∧
          (w.walk (program exported) s).state.scope =
            (w.walk (program declaration) s).state.scope := by
  intro name declaration declared exported program
  have hkind : declaration.kind ∈ declarationKinds := by decide
  have hdeclared : Wraps declared declaration := .ambient rfl rfl rfl
  have hexported : Wraps exported declared := .exported rfl rfl
  have hwrapped : Wrapped declaration exported := .inside (.inside .alone hdeclared) hexported
  have hrewrapped : Rewrapped [declaration] [exported] := .wrapped hkind hwrapped .nil
  refine ⟨hkind, hwrapped, hrewrapped, ?_, ?_⟩
  · exact wrappers_are_transparent.1 declaration exported hkind hwrapped []
  · exact (wrappers_are_transparent.2 (.node () ⟨"program", true, 0, 25, ""⟩ [] [declaration])
      (.node () ⟨"program", true, 0, 25, ""⟩ [] [exported]) hrewrapped .typeScript none).1

end DeclTree.Lower
