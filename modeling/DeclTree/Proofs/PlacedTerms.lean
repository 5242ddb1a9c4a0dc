import DeclTree.Proofs.Placement
import DeclTree.Proofs.Reading
import Mathlib.Data.Option.Basic

/-!
# Types and expressions are placed

A part is read in place when its three readings are placed in it (`InPlace`). A part whose
descendants are read in place (`InPlaceBelow`) has its type, its expression and its signature
placed in itself, since they are made of its own range and of readings of its descendants.
-/

namespace DeclTree.Lower

open Cst Cst.Head Cst.Tree

/-- Whatever a part is read as is placed in it. -/
structure InPlace (p : Part) : Prop where
  type : Placed p (typeOf p)
  expression : Placed p (expressionOf p)
  statement : ∀ modifiers, ∀ l ∈ p.attr.statement modifiers, Placed p l.node

/-- Every descendant of a part is read in place. -/
def InPlaceBelow (p : Part) : Prop := ∀ q : Part, q.Below p → InPlace q

variable {p q : Part}

theorem placed_identifier_of_below (h : q.Below p) : Placed p (identifier q.info) :=
  (placed_identifier q).mono h.within

theorem placed_stringLiteral_of_below (h : q.Below p) : Placed p (stringLiteral q.info) :=
  (placed_stringLiteral q).mono h.within

theorem placed_entityName_of_below (h : q.Below p) : Placed p (entityName q.info) :=
  (placed_entityName q).mono h.within

theorem placed_textOnly_of_below (h : q.Below p) : Placed p (textOnly q.info) :=
  (placed_textOnly q).mono h.within

/-- What a field is made into is placed when it is placed for every descendant. -/
theorem placed_field {f : Part → Json} (hf : ∀ q : Part, q.Below p → Placed p (f q))
    (name : String) : ∀ v ∈ (p.head.field? name).map f, Placed p v :=
  Option.forall_mem_map.mpr fun q hq => hf q (below_of_field? hq)

theorem placed_firstMain {f : Part → Json} (hf : ∀ q : Part, q.Below p → Placed p (f q)) :
    ∀ v ∈ p.head.firstMain?.map f, Placed p v :=
  Option.forall_mem_map.mpr fun q hq => hf q (below_of_firstMain? hq)

theorem placed_main {f : Part → Json} (hf : ∀ q : Part, q.Below p → Placed p (f q)) :
    ∀ v ∈ p.head.main.map f, Placed p v :=
  List.forall_mem_map.mpr fun q hq => hf q (below_of_mem_main hq)

theorem placed_bindingName (q : Part) : Placed q (bindingName q) := by
  rw [bindingName]
  split
  · exact placed_identifier q
  · exact placed_textOnly q

namespace InPlaceBelow

theorem of_within (h : InPlaceBelow p) (hq : q.Within p) : InPlaceBelow q :=
  fun r hr => h r (hr.trans_within hq)

theorem of_below (h : InPlaceBelow p) (hq : q.Below p) : InPlaceBelow q := h.of_within hq.within

/-- What is made of a part below alone. -/
theorem lift (h : InPlaceBelow p) (hq : q.Below p) {v : Json} (hv : InPlaceBelow q → Placed q v) :
    Placed p v :=
  (hv (h.of_below hq)).mono hq.within

/-- What a part below lists, if there is such a part. -/
theorem listed (h : InPlaceBelow p) {o : Option Part} (ho : ∀ q ∈ o, q.Below p)
    {f : Part → List Json} (hf : ∀ q : Part, InPlaceBelow q → ∀ v ∈ f q, Placed q v) :
    ∀ v ∈ (match o with | some q => f q | none => []), Placed p v := by
  intro v hv
  cases o with
  | none => cases hv
  | some q => exact h.lift (ho q rfl) (hf q · v hv)

/-! ### Types, expressions and signatures -/

theorem type (h : InPlaceBelow p) (hq : q.Below p) : Placed p (typeOf q) :=
  (h q hq).type.mono hq.within

theorem expression (h : InPlaceBelow p) (hq : q.Below p) : Placed p (expressionOf q) :=
  (h q hq).expression.mono hq.within

theorem typesIn (h : InPlaceBelow p) : ∀ v ∈ typesIn p.head, Placed p v :=
  placed_main fun _ hq => h.type hq

theorem expressionsIn (h : InPlaceBelow p) : ∀ v ∈ expressionsIn p.head, Placed p v :=
  placed_main fun _ hq => h.expression hq

theorem clauseType (h : InPlaceBelow p) : ∀ v ∈ clauseType? p, Placed p v :=
  placed_firstMain fun _ hq => h.type hq

/-- The type in the clause that a field names. -/
theorem fieldClause (h : InPlaceBelow p) (name : String) :
    ∀ v ∈ (p.head.field? name).bind clauseType?, Placed p v := by
  intro v hv
  obtain ⟨clause, hclause, hv⟩ := Option.mem_bind_iff.mp hv
  have hbelow := below_of_field? hclause
  exact h.lift hbelow (·.clauseType v hv)

theorem fieldType (h : InPlaceBelow p) (name : String) :
    ∀ v ∈ (p.head.field? name).map typeOf, Placed p v :=
  placed_field (fun _ hq => h.type hq) name

theorem fieldExpression (h : InPlaceBelow p) (name : String) :
    ∀ v ∈ (p.head.field? name).map expressionOf, Placed p v :=
  placed_field (fun _ hq => h.expression hq) name

theorem typeArguments (h : InPlaceBelow p) : ∀ v ∈ typeArguments p.head, Placed p v :=
  h.listed (fun _ => below_of_fieldOrChild?) fun _ hq => hq.typesIn

theorem propertyName (h : InPlaceBelow p) (hq : q.Below p) : Placed p (propertyName q) := by
  rw [Lower.propertyName]
  split
  · exact (((Draft.PlacedAt.new q _).put? (placed_firstMain fun _ hr =>
      (h.of_below hq).expression hr) (by decide)).build).mono hq.within
  · exact h.expression hq

theorem fieldName (h : InPlaceBelow p) :
    ∀ v ∈ (p.head.field? "name").map Lower.propertyName, Placed p v :=
  placed_field (fun _ hq => h.propertyName hq) "name"

theorem parameter (h : InPlaceBelow p) : Placed p (parameter p) := by
  rw [Lower.parameter]
  split
  · exact ((Draft.PlacedAt.new p _).put (placed_identifier p) (by decide)).build
  · refine ((Draft.PlacedAt.new p _).modifiers _
      |>.mark _ _ (by decide)
      |>.put? ?_ (by decide)
      |>.optional _
      |>.put? (h.fieldClause "type") (by decide)
      |>.put? (h.fieldExpression "value") (by decide)).build
    -- the name of a rest parameter is a main child of its pattern, any other name is the pattern
    split
    · rename_i r hr
      have hbelow := below_of_field? (Option.filter_eq_some_iff.mp hr).1
      intro v hv
      exact (placed_firstMain (fun q hq => (placed_bindingName q).mono hq.within) v hv).mono
        hbelow.within
    · exact placed_field (fun q hq => (placed_bindingName q).mono hq.within) "pattern"

/-- The items of a sequence of descendants, filtered and each made from itself alone. -/
theorem filteredMain (h : InPlaceBelow p) {f : Part → Json}
    (hf : ∀ q : Part, InPlaceBelow q → Placed q (f q)) (keep : Part → Bool) :
    ∀ v ∈ (p.head.main.filter keep).map f, Placed p v := by
  refine List.forall_mem_map.mpr fun q hq => ?_
  have hbelow := below_of_mem_main (List.mem_filter.mp hq).1
  exact (hf q (h.of_below hbelow)).mono hbelow.within

theorem parameters (h : InPlaceBelow p) : ∀ v ∈ parameters p.head, Placed p v :=
  h.listed (fun _ => below_of_fieldOrChild?) fun _ hq =>
    hq.filteredMain (fun _ hr => hr.parameter) _

theorem typeParameter (h : InPlaceBelow p) : Placed p (typeParameter p) :=
  ((Draft.PlacedAt.new p _).put?
      (placed_field (fun _ hq => placed_identifier_of_below hq) "name") (by decide)
    |>.put? (h.fieldClause "constraint") (by decide)
    |>.put? (h.fieldClause "value") (by decide)).build

theorem typeParameters (h : InPlaceBelow p) : ∀ v ∈ typeParameters p.head, Placed p v :=
  h.listed (fun _ => below_of_fieldOrChild?) fun _ hq =>
    hq.filteredMain (fun _ hr => hr.typeParameter) _

theorem returnType (h : InPlaceBelow p) : ∀ v ∈ returnType? p.head, Placed p v := by
  intro v hv
  rw [returnType?] at hv
  cases hfield : p.head.field? "return_type" with
  | some clause =>
    rw [hfield] at hv
    exact h.fieldClause "return_type" v (hfield ▸ hv)
  | none =>
    rw [hfield] at hv
    exact h.fieldClause "type" v hv

theorem signature (h : InPlaceBelow p) {d : Draft} (hd : d.PlacedAt p) :
    (putSignature d p.head).PlacedAt p :=
  hd.putSome h.typeParameters (by decide)
    |>.putItems h.parameters (by decide)
    |>.put? h.returnType (by decide)

theorem typeMember (h : InPlaceBelow p) : Placed p (typeMember p) := by
  have hnew := Draft.PlacedAt.new p
  rw [Lower.typeMember]
  split
  · exact ((hnew _).modifiers _
      |>.put? h.fieldName (by decide)
      |>.optional _
      |>.put? (h.fieldClause "type") (by decide)).build
  · split
    · exact (h.signature (((hnew _).put? h.fieldName (by decide)).optional _)).build
    · split
      · exact (h.signature (hnew _)).build
      · split
        · exact (h.signature (hnew _)).build
        · exact placed_textOnly p

theorem typeMembers (h : InPlaceBelow p) : ∀ v ∈ typeMembers p.head, Placed p v :=
  placed_main fun _ hq => h.lift hq (·.typeMember)

theorem literalType (h : InPlaceBelow p) : Placed p (literalType p.head) := by
  rw [Lower.literalType]
  split
  · rename_i literal hliteral
    split
    · exact (Draft.PlacedAt.new p _).build
    · have hinner := h.expression (below_of_firstMain? hliteral)
      exact ((Draft.PlacedAt.new p _).put hinner (by decide)).build
  · exact placed_textOnly p

theorem keywordType (p : Part) : Placed p (keywordType p.head) := by
  rw [Lower.keywordType]
  split
  · exact (Draft.PlacedAt.new p _).build
  · exact placed_textOnly p

mutual

theorem operandsOf (kind : String) : ∀ p : Part, InPlace p → InPlaceBelow p →
    ∀ v ∈ operandsOf kind p, Placed p v
  | .node attr i fields siblings, hp, h => by
    intro v hv
    rw [Lower.operandsOf] at hv
    split at hv
    · obtain ⟨q, hq, hv⟩ := operandsAll kind siblings (fun q hq => h q (below_of_mem_children hq))
        (fun q hq => h.of_below (below_of_mem_children hq)) v hv
      exact hv.mono (below_of_mem_children hq).within
    · obtain rfl := List.mem_singleton.mp hv
      exact hp.type

theorem operandsAll (kind : String) : ∀ ps : List Part, (∀ q ∈ ps, InPlace q) →
    (∀ q ∈ ps, InPlaceBelow q) → ∀ v ∈ operandsAll kind ps, ∃ q ∈ ps, Placed q v
  | [], _, _ => by
    intro v hv
    cases hv
  | q :: rest, hq, h => by
    intro v hv
    rw [Lower.operandsAll, List.mem_append] at hv
    rcases hv with hv | hv
    · refine ⟨q, List.mem_cons_self, ?_⟩
      split at hv
      · exact operandsOf kind q (hq q List.mem_cons_self) (h q List.mem_cons_self) v hv
      · cases hv
    · obtain ⟨r, hr, hv⟩ := operandsAll kind rest (fun r hr => hq r (List.mem_cons_of_mem _ hr))
        (fun r hr => h r (List.mem_cons_of_mem _ hr)) v hv
      exact ⟨r, List.mem_cons_of_mem _ hr, hv⟩

end

theorem operands (h : InPlaceBelow p) (kind : String) :
    ∀ v ∈ Lower.operandsAll kind p.head.children, Placed p v := by
  intro v hv
  obtain ⟨q, hq, hv⟩ := operandsAll kind p.children (fun q hq => h q (below_of_mem_children hq))
    (fun q hq => h.of_below (below_of_mem_children hq)) v hv
  exact hv.mono (below_of_mem_children hq).within

theorem readType (h : InPlaceBelow p) : Placed p (readType p.head) := by
  have hnew := Draft.PlacedAt.new p
  have hinner : ∀ v ∈ p.head.firstMain?.map typeOf, Placed p v := placed_firstMain fun _ => h.type
  rw [Lower.readType]
  cases Ordered.get? typeForms p.head.kind with
  | none => exact placed_textOnly p
  | some form =>
    cases form with
    | keyword => exact keywordType p
    | name => exact ((hnew _).put (placed_identifier p) (by decide)).build
    | dottedName => exact ((hnew _).put (placed_entityName p) (by decide)).build
    | generic =>
      exact ((hnew _).put? (placed_field (fun _ => placed_entityName_of_below) "name") (by decide)
        |>.putSome h.typeArguments (by decide)).build
    | array => exact ((hnew _).put? hinner (by decide)).build
    | operands kind => exact ((hnew _).putItems (h.operands _) (by decide)).build
    | wrapped kind => exact ((hnew _).put? hinner (by decide)).build
    | literal => exact h.literalType
    | tuple => exact ((hnew _).putItems h.typesIn (by decide)).build
    | object => exact ((hnew _).putItems h.typeMembers (by decide)).build
    | function =>
      exact ((hnew _).putSome h.typeParameters (by decide)
        |>.putItems h.parameters (by decide)
        |>.put? (h.fieldType "return_type") (by decide)).build
    | constructor =>
      exact ((hnew _).putSome h.typeParameters (by decide)
        |>.putItems h.parameters (by decide)
        |>.put? (h.fieldType "type") (by decide)).build
    | query => exact ((hnew _).put? (placed_firstMain fun _ => h.expression) (by decide)).build
    | operator kind =>
      exact ((hnew _).put (.text kind) (by decide) |>.put? hinner (by decide)).build
    | lookup =>
      have hindex : ∀ v ∈ p.head.main[1]?.map typeOf, Placed p v :=
        Option.forall_mem_map.mpr fun q hq => h.type (below_of_mem_main (List.mem_of_getElem? hq))
      exact ((hnew _).put? hinner (by decide) |>.put? hindex (by decide)).build
    | self => exact (hnew _).build

theorem binary (h : InPlaceBelow p) {kind object objectField key field : String}
    (hobject : object ∉ Draft.leading) (hkey : key ∉ Draft.leading) :
    Placed p (binary p.head kind object objectField key field) :=
  ((Draft.PlacedAt.new p _).put? (h.fieldExpression _) hobject
    |>.put? (h.fieldExpression _) hkey).build

/-- The expressions in a list that a field names. -/
theorem arguments (h : InPlaceBelow p) {list : Part} (hlist : list.Below p) :
    ∀ v ∈ Lower.expressionsIn list.head, Placed p v :=
  fun v hv => h.lift hlist (·.expressionsIn v hv)

theorem callExpression (h : InPlaceBelow p) : Placed p (callExpression p.head) := by
  have hnew := Draft.PlacedAt.new p
  rw [Lower.callExpression]
  split
  · rename_i list hlist
    have hbelow := below_of_field? (Option.filter_eq_some_iff.mp hlist).1
    exact ((hnew _).put? (h.fieldExpression "function") (by decide)
      |>.putSome h.typeArguments (by decide)
      |>.putItems (h.arguments hbelow) (by decide)).build
  · exact ((hnew _).put (.text _) (by decide)).build

theorem readExpression (h : InPlaceBelow p) : Placed p (readExpression p.head) := by
  have hnew := Draft.PlacedAt.new p
  rw [Lower.readExpression]
  cases Ordered.get? expressionForms p.head.kind with
  | none => exact placed_textOnly p
  | some form =>
    cases form with
    | identifier => exact placed_identifier p
    | text kind => exact ((hnew _).put (.text _) (by decide)).build
    | string => exact placed_stringLiteral p
    | template =>
      dsimp only
      split
      · exact ((hnew _).put (.text _) (by decide)).build
      · exact placed_textOnly p
    | keyword kind => exact (hnew _).build
    | dottedName => exact placed_entityName p
    | member => exact h.binary (by decide) (by decide)
    | subscript => exact h.binary (by decide) (by decide)
    | call => exact h.callExpression
    | construct =>
      have harguments := h.listed (o := p.head.field? "arguments") (fun _ => below_of_field?)
        fun _ hq => hq.expressionsIn
      exact ((hnew _).put? (h.fieldExpression "constructor") (by decide)
        |>.putSome h.typeArguments (by decide)
        |>.putItems harguments (by decide)).build
    | parenthesized =>
      exact ((hnew _).put? (placed_firstMain fun _ => h.expression) (by decide)).build

end InPlaceBelow

end DeclTree.Lower
