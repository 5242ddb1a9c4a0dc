import DeclTree.Proofs.Contribution
import DeclTree.Proofs.Wrappers

/-!
# Dotted names and nested declarations

A namespace or module with a dotted name stands for one declaration per segment. Lowered,
each is the body of the one before, without a block of statements; written out, each is
the only statement in the block of the one before (`Nested`). The two have different
trees, but a walk does the same at every level: it enters under the name of the segment,
spends one level of depth and collects one statement. `Nested.collectedAlike` carries this
through all levels, with any number of levels left, so every pass through the one is a
pass through the other.
-/

namespace DeclTree

namespace Json

theorem get?_without (v : Json) {key removed : String} (h : key ≠ removed) :
    (v.without removed).get? key = v.get? key := by
  cases v with
  | object fields =>
    have hkeep : (fun k => k != removed) key = true := by simp [h]
    exact @Ordered.get?_filter String _ Json (fun k => k != removed) key hkeep fields
  | _ => rfl

end Json

namespace Lower

theorem get?_container (info : Cst.Info) (flags : Nat) (modifiers : List String)
    (name body : Option Json) {key : String} (h : key ≠ "modifiers") :
    (container info flags modifiers name body).get? key =
      (container info flags [] name body).get? key := by
  rw [← Json.get?_without _ h, container_without_modifiers, Json.get?_without _ h]

theorem body_container (info : Cst.Info) (flags : Nat) (modifiers : List String)
    (name body : Option Json) :
    (container info flags modifiers name body).field? "body" = body.filter (!·.isNull) := by
  rw [Json.field?, get?_container _ _ _ _ _ (by decide)]
  cases name <;> cases body <;> rfl

/-- A container is what its flags make of it. -/
theorem classify_container (kinds : KindTable) (namespaces : List Int) (info : Cst.Info)
    (flags : Nat) (modifiers : List String) (name body : Option Json) :
    Statement.classify kinds namespaces (container info flags modifiers name body) =
      if (Word.signed? flags).any namespaces.contains then .namespaceDecl else .moduleDecl := by
  have hkind : (container info flags modifiers name body).kind? =
      some (.string "ModuleDeclaration") := by
    rw [Json.kind?, Json.field?, get?_container _ _ _ _ _ (by decide)]
    cases name <;> cases body <;> rfl
  have hget : (container info flags [] name body).get? "flags" = some (.ofNat flags) := by
    cases name <;> cases body <;> rfl
  have hflags : (container info flags modifiers name body).flags? = Word.signed? flags := by
    rw [Json.flags?, get?_container _ _ _ _ _ (by decide), hget, Option.bind_some, Json.ofNat,
      Json.signed?, Number.signed?]
  have hmodule : kinds.classify (some (.string "ModuleDeclaration")) = .moduleDeclaration := rfl
  simp only [Statement.classify, hkind, hmodule, Statement.isNamespace, hflags]
  cases Word.signed? flags <;> rfl

/-- The name of a container is the text of its identifier. -/
theorem resolve_container (kinds : KindTable) (print : Printer) (info named : Cst.Info)
    (flags : Nat) (modifiers : List String) (segment : String) (body : Option Json) :
    Name.resolve kinds print
        (container info flags modifiers (some (identifierNamed named segment)) body) =
      Name.ofText segment := by
  have hname : (container info flags modifiers (some (identifierNamed named segment))
      body).field? "name" = some (identifierNamed named segment) := by
    rw [Json.field?, get?_container _ _ _ _ _ (by decide)]
    cases body <;> rfl
  have hother : ∀ key ∈ ["type", "moduleSpecifier", "expression", "declarationList"],
      (container info flags modifiers (some (identifierNamed named segment)) body).field? key =
        none := by
    intro key hkey
    simp only [List.mem_cons, List.not_mem_nil, or_false] at hkey
    rcases hkey with rfl | rfl | rfl | rfl <;>
      rw [Json.field?, get?_container _ _ _ _ _ (by decide)] <;> cases body <;> rfl
  have htext : (identifierNamed named segment).text? = nonEmpty segment := rfl
  simp only [Name.resolve, Name.direct?, Json.textOf?, hname, Option.bind_some, htext,
    hother "type" (by decide), hother "moduleSpecifier" (by decide),
    hother "expression" (by decide), hother "declarationList" (by decide), Option.bind_none,
    Option.or_none]
  rw [nonEmpty, Name.ofText]
  cases segment.isEmpty <;> rfl

theorem units_container (info : Cst.Info) (flags : Nat) (modifiers : List String)
    (name body : Option Json) :
    (container info flags modifiers name body).units =
      [container info flags modifiers name body] := by
  have hnone : (container info flags modifiers name body).statements? = none := by
    rw [Json.statements?, Json.sequence?, get?_container _ _ _ _ _ (by decide)]
    cases name <;> cases body <;> rfl
  rw [Json.units, hnone]
  rfl

/-- Fill a context from a body, when there is one. -/
def descendInto (descend : Walker.Descent) (body : Option Json) (depth : Nat) (p : Walker.Pass) :
    Walker.Pass :=
  match body.filter (!·.isNull) with
  | some b => descend b (depth + 1) p
  | none => p

theorem descendBody_container (descend : Walker.Descent) (info : Cst.Info) (flags : Nat)
    (modifiers : List String) (name body : Option Json) (depth : Nat) (p : Walker.Pass) :
    Walker.descendBody descend (container info flags modifiers name body) depth p =
      descendInto descend body depth p := by
  rw [Walker.descendBody, body_container]
  rfl

/-- Containers of one name are collected alike when their bodies are traversed alike. -/
theorem collectWith_container (w : Walker) (descend : Walker.Descent)
    (info info' named named' : Cst.Info) (flags : Nat) (modifiers modifiers' : List String)
    (segment : String) {body body' : Option Json} (depth : Nat)
    (h : ∀ p, descendInto descend body' depth p = descendInto descend body depth p)
    (p : Walker.Pass) :
    w.collectWith descend
        (container info' flags modifiers' (some (identifierNamed named' segment)) body') depth p =
      w.collectWith descend
        (container info flags modifiers (some (identifierNamed named segment)) body) depth p := by
  rw [Walker.collectWith, Walker.collectWith, classify_container, classify_container]
  cases (Word.signed? flags).any w.options.namespaceFlags.contains with
  | true =>
    simp only [if_true, Walker.collectNamespace, Walker.openNamespace, Walker.resolve,
      resolve_container, descendBody_container, h]
  | false =>
    simp only [Bool.false_eq_true, if_false, Walker.collectModule, Walker.openModule,
      Walker.resolve, resolve_container, descendBody_container, h]

/-- `t` declares a container of a kind, with a name that is no string and with a body. -/
structure DeclaresContainer (t : Cst) (kind text : String) (body : Option Cst) : Prop where
  kind : t.kind = kind
  name : ∃ name, t.head.field? "name" = some name ∧ name.kind ≠ "string" ∧ name.text = text
  body : t.head.field? "body" = body

/-- Containers of the given names, each the only statement in the block of the one before, the
last with `body`. Inside a block they may be wrapped, as a bare namespace is by a parser. -/
inductive Nested (kind : String) (body : Option Cst) : List String → Cst → Prop
  | innermost {segment : String} {t : Cst} :
      DeclaresContainer t kind segment body → Nested kind body [segment] t
  | around {segment : String} {rest : List String} {t block statement inner : Cst} :
      DeclaresContainer t kind segment (some block) → block.head.main = [statement] →
        Wrapped inner statement → Nested kind body rest inner →
        Nested kind body (segment :: rest) t

/-- The block that a body comes to. -/
def blockOf (body : Option Cst) : Option Lowered := body.map fun b => moduleBlock (read b)

def nodeOf (body : Option Cst) : Option Json := (blockOf body).map (·.node)

def eventsOf (body : Option Cst) : List Event := ((blockOf body).map (·.events)).getD []

theorem statement_declaresContainer {t : Cst} {kind text : String} {body : Option Cst}
    {flags : Nat} (h : DeclaresContainer t kind text body)
    (hform : Ordered.get? statementForms kind = some (.container flags)) :
    ∃ named, ∀ modifiers, (read t).attr.statement modifiers =
      some ⟨(nestedContainer t.info named flags (nodeOf body) modifiers (segments text)).getD
        (textOnly t.info), eventsOf body⟩ := by
  obtain ⟨name, hname, hstring, htext⟩ := h.name
  refine ⟨name.info, ?_⟩
  intro modifiers
  rw [statement_container (h.kind ▸ hform)]
  simp only [containerDeclaration, field?_read, hname, h.body, Option.map_some, kind_read,
    info_read, text_read, head_info_read, beq_eq_false_iff_ne.mpr hstring, Bool.false_eq_true,
    if_false, htext]
  cases body <;> rfl

/-- Two statements that every walk collects alike, with any number of levels left. -/
def CollectedAlike (v v' : Json) : Prop :=
  ∀ (w : Walker) (room depth : Nat) (p : Walker.Pass),
    w.collectWith (w.traverseWithin room) v' depth p =
      w.collectWith (w.traverseWithin room) v depth p

/-- Nodes with one statement each are traversed alike when the statements are collected alike. -/
theorem CollectedAlike.traverseWithin {v v' node node' : Json} (h : CollectedAlike v v')
    (hunits : node.units = [v]) (hunits' : node'.units = [v']) (w : Walker) (room depth : Nat)
    (p : Walker.Pass) : w.traverseWithin room node' depth p = w.traverseWithin room node depth p := by
  cases room with
  | zero => rfl
  | succ room =>
    rw [Walker.traverseWithin_succ, Walker.traverseWithin_succ, hunits, hunits']
    exact h w room depth p

theorem CollectedAlike.descendInto {v v' node node' : Json} (h : CollectedAlike v v')
    (hunits : node.units = [v]) (hunits' : node'.units = [v']) (hnode : node.isNull = false)
    (hnode' : node'.isNull = false) (w : Walker) (room depth : Nat) (p : Walker.Pass) :
    Lower.descendInto (w.traverseWithin room) (some node') depth p =
      Lower.descendInto (w.traverseWithin room) (some node) depth p := by
  simp only [Lower.descendInto, Option.filter_some, hnode, hnode', Bool.not_false, if_true]
  exact h.traverseWithin hunits hunits' w room (depth + 1) p

/-- A block with one statement has it as its only unit. -/
theorem units_moduleBlock {block statement : Cst} {l : Lowered}
    (hmain : block.head.main = [statement]) (hl : (read statement).attr.statement [] = some l) :
    (moduleBlock (read block)).node.units = [l.node] := by
  have hall : lowerAll block.head.main = [l] := by
    rw [hmain, lowerAll_cons, hl]
    rfl
  rw [moduleBlock, block_read, hall]
  rfl

theorem eventsOf_block {block statement : Cst} {l : Lowered}
    (hmain : block.head.main = [statement]) (hl : (read statement).attr.statement [] = some l) :
    eventsOf (some block) = l.events := by
  have hall : lowerAll block.head.main = [l] := by
    rw [hmain, lowerAll_cons, hl]
    rfl
  have hevents : eventsOf (some block) = (moduleBlock (read block)).events := rfl
  rw [hevents, moduleBlock, block_read, hall]
  exact List.append_nil l.events

theorem segments_of_isSegment {s : String} (h : IsSegment s) : segments s = [s] := by
  have hjoin := segments_intercalate (List.cons_ne_nil s []) (by simpa using h)
  rwa [String.intercalate_singleton] at hjoin

/-- At every level a walk does the same for a segment as for the declaration of it alone. The
dotted form is `nestedContainer` at the place of one node, whatever the place. -/
theorem Nested.collectedAlike {kind : String} {body : Option Cst} {names : List String}
    {nested : Cst} {flags : Nat} (h : Nested kind body names nested)
    (hform : Ordered.get? statementForms kind = some (.container flags))
    (hnames : ∀ s ∈ names, IsSegment s) (info named : Cst.Info) (modifiers : List String) :
    ∃ l, (read nested).attr.statement modifiers = some l ∧ l.events = eventsOf body ∧
      ∀ modifiers', ∃ node,
        nestedContainer info named flags (nodeOf body) modifiers' names = some node ∧
          node.units = [node] ∧ node.isNull = false ∧ CollectedAlike node l.node := by
  induction h generalizing modifiers with
  | @innermost segment t hdeclares =>
    obtain ⟨own, hstatement⟩ := statement_declaresContainer hdeclares hform
    have hsegments := segments_of_isSegment (hnames segment (by simp))
    refine ⟨_, hstatement modifiers, rfl, ?_⟩
    intro modifiers'
    refine ⟨_, rfl, units_container _ _ _ _ _, rfl, ?_⟩
    intro w room depth p
    rw [hsegments]
    exact collectWith_container w _ info t.info named own flags modifiers' modifiers segment depth
      (fun _ => rfl) p
  | @around segment rest t block statement inner hdeclares hmain hwrapped hinner ih =>
    obtain ⟨own, hstatement⟩ := statement_declaresContainer hdeclares hform
    have hsegments := segments_of_isSegment (hnames segment (by simp))
    have hrest := ih (fun s hs => hnames s (List.mem_cons_of_mem _ hs))
    have hsome : ∀ modifiers, ((read inner).attr.statement modifiers).isSome := by
      intro modifiers
      obtain ⟨l, hl, -⟩ := hrest modifiers
      rw [hl]
      rfl
    obtain ⟨added, hadded⟩ := hwrapped.statement hsome []
    obtain ⟨l, hl, hevents, hnodes⟩ := hrest added
    obtain ⟨node, hnode, hunits, hnull, halike⟩ := hnodes []
    rw [hl] at hadded
    refine ⟨_, hstatement modifiers, (eventsOf_block hmain hadded).trans hevents, ?_⟩
    intro modifiers'
    refine ⟨_, rfl, units_container _ _ _ _ _, rfl, ?_⟩
    intro w room depth p
    rw [hsegments, hnode]
    exact collectWith_container w _ info t.info named own flags modifiers' modifiers segment depth
      (halike.descendInto hunits (units_moduleBlock hmain hadded) hnull rfl w room depth) p

/-- Programs that differ in one statement are walked alike when it is collected alike. -/
theorem CollectedAlike.walk {v v' root root' : Json} (h : CollectedAlike v v')
    {before after : List Json} (hroot : root.statements? = some (before ++ v :: after))
    (hroot' : root'.statements? = some (before ++ v' :: after)) (w : Walker) (s : Walker.State) :
    w.walk root' s = w.walk root s := by
  have hunits : root.units = before ++ v :: after := by
    rw [Json.units, hroot]
    rfl
  have hunits' : root'.units = before ++ v' :: after := by
    rw [Json.units, hroot']
    rfl
  have htraverse : ∀ p, w.traverse root' 0 p = w.traverse root 0 p := by
    intro p
    rw [Walker.traverse, Walker.traverse, Nat.sub_zero, Walker.traverseWithin_succ,
      Walker.traverseWithin_succ, hunits, hunits', List.foldl_append, List.foldl_append,
      List.foldl_cons, List.foldl_cons, h]
  rw [Walker.walk, Walker.walk, htraverse]

theorem statements?_program_split {root t : Cst} {before after : List Cst} {l : Lowered}
    (hmain : root.head.main = before ++ t :: after) (hl : (read t).attr.statement [] = some l)
    (language : Language) (fileName : Option String) :
    (program root language fileName).node.statements? =
      some ((lowerAll before).map (·.node) ++ l.node :: (lowerAll after).map (·.node)) := by
  have hsplit : lowerAll root.head.main = lowerAll before ++ l :: lowerAll after := by
    rw [hmain, lowerAll, List.filterMap_append, List.filterMap_cons, hl]
    rfl
  rw [statements?_program, hsplit, List.map_append, List.map_cons]

/-- One declaration with a dotted name and one declaration per segment, each alone in the block
of the one before, are the same program. In every context, at every depth and under every
limit a walk makes the same pass through them: the same tree, the same namespace and the same
events in the same order. -/
theorem dotted_name_is_nested {kind : String} {names : List String} {body : Option Cst}
    {dotted nested : Cst} (hkind : kind ∈ containerKinds) (hne : names ≠ [])
    (hnames : ∀ s ∈ names, IsSegment s)
    (hdotted : DeclaresContainer dotted kind (".".intercalate names) body)
    (hnested : Nested kind body names nested) :
    (∀ modifiers : List String, ∃ l l', (read dotted).attr.statement modifiers = some l ∧
      (read nested).attr.statement modifiers = some l' ∧ l'.events = l.events ∧
      ∀ (w : Walker) (depth : Nat) (p : Walker.Pass),
        w.collect l'.node depth p = w.collect l.node depth p) ∧
    ∀ (root root' : Cst) (before after : List Cst),
      root.head.main = before ++ dotted :: after → root'.head.main = before ++ nested :: after →
      ∀ (language : Language) (fileName : Option String) (w : Walker) (s : Walker.State),
        w.walk (program root' language fileName).node s =
          w.walk (program root language fileName).node s := by
  obtain ⟨flags, hform⟩ := containerKinds_form hkind
  obtain ⟨named, hstatement⟩ := statement_declaresContainer hdotted hform
  have hboth : ∀ modifiers : List String, ∃ l l', (read dotted).attr.statement modifiers = some l ∧
      (read nested).attr.statement modifiers = some l' ∧ l'.events = l.events ∧
      CollectedAlike l.node l'.node := by
    intro modifiers
    obtain ⟨l', hl', hevents, hnodes⟩ :=
      hnested.collectedAlike hform hnames dotted.info named modifiers
    obtain ⟨node, hnode, -, -, halike⟩ := hnodes modifiers
    refine ⟨_, l', hstatement modifiers, hl', hevents, ?_⟩
    rw [segments_intercalate hne hnames, hnode]
    exact halike
  refine ⟨?_, ?_⟩
  · intro modifiers
    obtain ⟨l, l', hl, hl', hevents, halike⟩ := hboth modifiers
    exact ⟨l, l', hl, hl', hevents, fun w depth p => halike w _ depth p⟩
  · intro root root' before after hmain hmain' language fileName w s
    obtain ⟨l, l', hl, hl', -, halike⟩ := hboth []
    exact halike.walk (statements?_program_split hmain hl language fileName)
      (statements?_program_split hmain' hl' language fileName) w s

/-- `A.B` with an empty block, and `B` as a bare namespace in the block of `A`. -/
theorem dotted_name_is_nested_pair :
    let name (text : String) : Cst := .node () ⟨"identifier", true, 10, 13, text⟩ [] []
    let block (statements : List Cst) : Cst :=
      .node () ⟨"statement_block", true, 14, 16, ""⟩ [] statements
    let container (text : String) (statements : List Cst) : Cst :=
      .node () ⟨"internal_module", true, 0, 16, ""⟩ [("name", [0]), ("body", [1])]
        [name text, block statements]
    let inner := container "B" []
    let statement : Cst := .node () ⟨"expression_statement", true, 0, 16, ""⟩ [] [inner]
    let dotted := container "A.B" []
    let nested := container "A" [statement]
    let names := ["A", "B"]
    "internal_module" ∈ containerKinds ∧ names ≠ [] ∧ (∀ s ∈ names, IsSegment s) ∧
      DeclaresContainer dotted "internal_module" (".".intercalate names) (some (block [])) ∧
      Nested "internal_module" (some (block [])) names nested ∧
      ∃ l l', (read dotted).attr.statement [] = some l ∧
        (read nested).attr.statement [] = some l' ∧ l'.events = l.events ∧
        ∀ (w : Walker) (depth : Nat) (p : Walker.Pass),
          w.collect l'.node depth p = w.collect l.node depth p := by
  intro name block container inner statement dotted nested names
  have hkind : "internal_module" ∈ containerKinds := by decide
  have hne : names ≠ [] := by decide
  have hnames : ∀ s ∈ names, IsSegment s := by decide
  have hdotted : DeclaresContainer dotted "internal_module" (".".intercalate names)
      (some (block [])) := ⟨rfl, ⟨name "A.B", rfl, by decide, rfl⟩, rfl⟩
  have hinner : Nested "internal_module" (some (block [])) ["B"] inner :=
    .innermost ⟨rfl, ⟨name "B", rfl, by decide, rfl⟩, rfl⟩
  have hwrapped : Wrapped inner statement := .inside .alone (.bare rfl rfl rfl)
  have hnested : Nested "internal_module" (some (block [])) names nested :=
    .around ⟨rfl, ⟨name "A", rfl, by decide, rfl⟩, rfl⟩ rfl hwrapped hinner
  exact ⟨hkind, hne, hnames, hdotted, hnested,
    (dotted_name_is_nested hkind hne hnames hdotted hnested).1 []⟩

end Lower

end DeclTree
