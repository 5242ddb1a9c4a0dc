import DeclTree.Lower.Program
import DeclTree.Node
import DeclTree.Proofs.Descendants

/-!
# Readings and the tree they are read from

Reading a concrete tree changes nothing but the attributes. So the children, the fields
and the tokens of a node that was read are those of the node itself, each read
(`main_read`, `field?_read`), and its three readings come from its own head
(`attr_read`). The statements of a lowered program are the readings of the main children
of its root (`statements?_program`).
-/

namespace DeclTree.Lower

theorem attr_read (t : Cst) : (read t).attr = readings (read t).head :=
  Cst.Tree.attr_annotate readings t

@[simp] theorem info_read (t : Cst) : (read t).info = t.info :=
  Cst.Tree.info_annotate readings t

@[simp] theorem head_info_read (t : Cst) : (read t).head.info = t.info := info_read t

@[simp] theorem kind_read (t : Cst) : (read t).kind = t.kind :=
  congrArg Cst.Info.kind (info_read t)

@[simp] theorem head_kind_read (t : Cst) : (read t).head.kind = t.kind := kind_read t

@[simp] theorem text_read (t : Cst) : (read t).text = t.text :=
  congrArg Cst.Info.text (info_read t)

@[simp] theorem head_text_read (t : Cst) : (read t).head.text = t.text := text_read t

@[simp] theorem children_read (t : Cst) : (read t).children = t.children.map read :=
  Cst.Tree.children_annotate readings t

@[simp] theorem head_children_read (t : Cst) : (read t).head.children = t.children.map read :=
  children_read t

theorem head_fields_read (t : Cst) : (read t).head.fields = t.head.fields := by
  cases t
  rfl

theorem isMain_read (t : Cst) : (read t).isMain = t.isMain := by
  rw [Cst.Tree.isMain, Cst.Tree.isMain, info_read, kind_read]

theorem isToken_read (t : Cst) (kind : String) : (read t).isToken kind = t.isToken kind := by
  rw [Cst.Tree.isToken, Cst.Tree.isToken, info_read, kind_read]

theorem at?_read (siblings : List Cst) (path : Cst.Path) :
    Cst.Tree.at? (siblings.map read) path = (Cst.Tree.at? siblings path).map read := by
  induction path generalizing siblings with
  | nil => rfl
  | cons i rest ih =>
    cases rest with
    | nil => simp only [Cst.Tree.at?, List.getElem?_map]
    | cons j rest =>
      simp only [Cst.Tree.at?, List.getElem?_map]
      cases siblings[i]? with
      | none => rfl
      | some t =>
        have hbelow := ih t.children
        simpa only [Option.map_some, Option.bind_some, children_read] using hbelow

@[simp] theorem field?_read (t : Cst) (name : String) :
    (read t).head.field? name = (t.head.field? name).map read := by
  rw [Cst.Head.field?, Cst.Head.field?, head_fields_read, head_children_read]
  cases Ordered.get? t.head.fields name with
  | none => rfl
  | some path => exact at?_read t.children path

@[simp] theorem main_read (t : Cst) : (read t).head.main = t.head.main.map read := by
  have hmain : Cst.Tree.isMain ∘ read = Cst.Tree.isMain := funext isMain_read
  rw [Cst.Head.main, head_children_read, List.filter_map, hmain]
  rfl

@[simp] theorem firstMain?_read (t : Cst) :
    (read t).head.firstMain? = (t.head.firstMain?).map read := by
  rw [Cst.Head.firstMain?, main_read, List.head?_map]
  rfl

@[simp] theorem childOfKind?_read (t : Cst) (kind : String) :
    (read t).head.childOfKind? kind = (t.head.childOfKind? kind).map read := by
  have hkind : (fun p : Part => p.kind == kind) ∘ read = fun c : Cst => c.kind == kind := by
    funext c
    exact congrArg (· == kind) (kind_read c)
  rw [Cst.Head.childOfKind?, head_children_read, List.find?_map, hkind]
  rfl

@[simp] theorem fieldOrChild?_read (t : Cst) (name kind : String) :
    (read t).head.fieldOrChild? name kind = (t.head.fieldOrChild? name kind).map read := by
  rw [Cst.Head.fieldOrChild?, Cst.Head.fieldOrChild?, field?_read, childOfKind?_read]
  cases t.head.field? name <;> rfl

@[simp] theorem hasToken_read (t : Cst) (kind : String) :
    (read t).head.hasToken kind = t.head.hasToken kind := by
  have htoken : (fun p : Part => p.isToken kind) ∘ read = fun c : Cst => c.isToken kind := by
    funext c
    exact isToken_read c kind
  rw [Cst.Head.hasToken, head_children_read, List.any_map, htoken]
  rfl

/-- What is within a tree that was read is the reading of what is within the tree. -/
theorem exists_of_within_read {t : Cst} {u : Part} (h : u.Within (read t)) :
    ∃ v : Cst, v.Within t ∧ u = read v := by
  generalize hp : read t = p at h
  induction h generalizing t with
  | root => exact ⟨t, .root, hp.symm⟩
  | deeper hc _ ih =>
    subst hp
    rw [children_read] at hc
    obtain ⟨c, hmem, rfl⟩ := List.mem_map.mp hc
    obtain ⟨v, hv, rfl⟩ := ih rfl
    exact ⟨v, .deeper hmem hv, rfl⟩

theorem below_of_mem_bodyParts {p q : Part} (hq : q ∈ bodyParts p.head) : q.Below p := by
  rw [bodyParts] at hq
  cases hbody : p.head.field? "body" with
  | none => simp [hbody] at hq
  | some body =>
    rw [hbody] at hq
    exact (Cst.Head.below_of_mem_main hq).trans_within (Cst.Head.below_of_field? hbody).within

theorem type_read (t : Cst) : (read t).attr.type = readType (read t).head := by
  rw [attr_read]
  rfl

theorem expression_read (t : Cst) : (read t).attr.expression = readExpression (read t).head := by
  rw [attr_read]
  rfl

theorem statement_read (t : Cst) : (read t).attr.statement = readStatement (read t).head := by
  rw [attr_read]
  rfl

/-- What the statements of a list come to. -/
def lowerAll (statements : List Cst) : List Lowered :=
  statements.filterMap fun s => (read s).attr.statement []

theorem statementsIn_read (t : Cst) :
    statementsIn (read t).head =
      ((lowerAll t.head.main).map (·.node), (lowerAll t.head.main).flatMap (·.events)) := by
  simp only [statementsIn, lowerAll, main_read, List.filterMap_map, Function.comp_def]

theorem block_read (kind : String) (t : Cst) :
    block kind (read t).head =
      ⟨((Draft.new kind t.info).putItems "statements" ((lowerAll t.head.main).map (·.node))).build,
        (lowerAll t.head.main).flatMap (·.events)⟩ := by
  simp only [block, statementsIn_read, head_info_read]

theorem statements?_program (t : Cst) (language : Language) (fileName : Option String) :
    (program t language fileName).node.statements? = some ((lowerAll t.head.main).map (·.node)) := by
  simp only [program, sourceFile, statementsIn_read]
  cases fileName <;> rfl

end DeclTree.Lower
