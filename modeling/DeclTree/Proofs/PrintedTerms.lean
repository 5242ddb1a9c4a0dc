import DeclTree.Proofs.PrintedDrafts
import DeclTree.Proofs.Reading

/-!
# The printed text of types and expressions

What a concrete node prints as, once it is read as a type or as an expression and
normalized: one lemma for each kind, from what the readings of its parts print as. Each
lemma goes through the three steps at once, so it is here that the field names of the
reading, of the normal form and of the printer meet.

Operands of unions and intersections are merged on reading. Merged or not, their texts are
joined to the same text (`shows_operands`), provided that no operand comes to nothing.
-/

namespace DeclTree.Lower

open SourceText

variable {kinds : KindTable} {t : Cst}

/-! ### Parts of a node -/

/-- The main children of the list in a field or, without that field, of a kind. -/
def listed (t : Cst) (name kind : String) : List Cst :=
  ((t.head.fieldOrChild? name kind).map (·.head.main)).getD []

def typeArgumentsIn (t : Cst) : List Cst := listed t "type_arguments" "type_arguments"

def parametersIn (t : Cst) : List Cst :=
  (listed t "parameters" "formal_parameters").filter fun p => parameterKinds.contains p.kind

def typeParametersIn (t : Cst) : List Cst :=
  (listed t "type_parameters" "type_parameters").filter (·.kind == "type_parameter")

/-- The type in a clause of a node. -/
def clause? (t : Cst) (name : String) : Option Cst := (t.head.field? name).bind (·.head.firstMain?)

theorem typeArguments_read (t : Cst) :
    typeArguments (read t).head = (typeArgumentsIn t).map fun c => typeOf (read c) := by
  rw [typeArguments, typeArgumentsIn, listed, fieldOrChild?_read]
  cases t.head.fieldOrChild? "type_arguments" "type_arguments" with
  | none => rfl
  | some list => simp [typesIn]

theorem parameters_read (t : Cst) :
    parameters (read t).head = (parametersIn t).map fun c => parameter (read c) := by
  rw [parameters, parametersIn, listed, fieldOrChild?_read]
  cases t.head.fieldOrChild? "parameters" "formal_parameters" with
  | none => rfl
  | some list => simp [List.filter_map, Function.comp_def]

theorem typeParameters_read (t : Cst) :
    typeParameters (read t).head = (typeParametersIn t).map fun c => typeParameter (read c) := by
  rw [typeParameters, typeParametersIn, listed, fieldOrChild?_read]
  cases t.head.fieldOrChild? "type_parameters" "type_parameters" with
  | none => rfl
  | some list => simp [List.filter_map, Function.comp_def]

theorem clauseType?_read (t : Cst) (name : String) :
    ((read t).head.field? name).bind clauseType? = (clause? t name).map fun c => typeOf (read c) := by
  rw [clause?, field?_read]
  cases t.head.field? name with
  | none => rfl
  | some clause => simp [clauseType?, Function.comp_def]

/-- Every reading as a type is a node. -/
theorem isNull_typeOf (t : Cst) : (typeOf (read t)).isNull = false := by
  have hkeyword : ∀ n, (keywordType n).isNull = false := by
    intro n
    rw [keywordType]
    split <;> rfl
  have hliteral : ∀ n, (literalType n).isNull = false := by
    intro n
    rw [literalType]
    split
    · split <;> rfl
    · rfl
  rw [typeOf, type_read, readType]
  cases Ordered.get? typeForms (read t).head.kind with
  | none => rfl
  | some form =>
    cases form with
    | keyword => exact hkeyword _
    | literal => exact hliteral _
    | _ => rfl

theorem isNull_clause {name : String} {v : Json}
    (h : ((clause? t name).map fun c => typeOf (read c)) = some v) : v.isNull = false := by
  obtain ⟨c, -, rfl⟩ := Option.map_eq_some_iff.mp h
  exact isNull_typeOf c

/-! ### Types -/

theorem shows_predefined (hform : Ordered.get? typeForms t.kind = some .keyword)
    (htext : t.text ∈ Ordered.keys predefined) :
    ∃ kind, kind ∉ looseKinds ∧ Shows kinds (typeOf (read t)) kind t.text := by
  -- the printer's table of keywords inverts this one
  have hwords : ∀ e ∈ predefined, e.2 ∉ looseKinds ∧ keyword? e.2 = some e.1 := by decide
  have hread : typeOf (read t) = keywordType (read t).head := by
    rw [typeOf, type_read]
    simp only [readType, head_kind_read, hform]
  rw [hread, keywordType, head_text_read]
  cases hword : Ordered.get? predefined t.text with
  | none => exact absurd htext ((Ordered.get?_eq_none_iff predefined t.text).mp hword)
  | some kind =>
    obtain ⟨htight, hkeyword⟩ := hwords _ (Ordered.mem_of_get? hword)
    have hform : form? kind = some (.keyword t.text) := by rw [form?, hkeyword]
    exact ⟨kind, htight, rfl, printed_keyword rfl hform⟩

theorem shows_typeName (hform : Ordered.get? typeForms t.kind = some .name) :
    Shows kinds (typeOf (read t)) "TypeReference" t.text := by
  have hread : typeOf (read t) =
      ((Draft.new "TypeReference" t.info).put "typeName" (identifier t.info)).build := by
    rw [typeOf, type_read]
    simp only [readType, head_kind_read, hform, head_info_read]
  rw [hread]
  exact shows_bareReference t.info (shows_identifier t.info)

theorem shows_dottedType (hform : Ordered.get? typeForms t.kind = some .dottedName)
    (htext : IsDotted t.text) :
    Shows kinds (typeOf (read t)) "TypeReference" t.text := by
  have hread : typeOf (read t) =
      ((Draft.new "TypeReference" t.info).put "typeName" (entityName t.info)).build := by
    rw [typeOf, type_read]
    simp only [readType, head_kind_read, hform, head_info_read]
  rw [hread]
  obtain ⟨kind, -, htarget⟩ := shows_entityName htext
  exact shows_bareReference t.info htarget

theorem shows_generic {name : Cst} (hform : Ordered.get? typeForms t.kind = some .generic)
    (hname : t.head.field? "name" = some name) (htext : IsDotted name.text) :
    Shows kinds (typeOf (read t)) "TypeReference"
      (name.text ++ inAngles ((typeArgumentsIn t).map fun c => printed kinds (typeOf (read c)))) := by
  have hread : typeOf (read t) =
      (((Draft.new "TypeReference" t.info).put "typeName" (entityName name.info)).putSome
        "typeArguments" ((typeArgumentsIn t).map fun c => typeOf (read c))).build := by
    rw [typeOf, type_read]
    simp only [readType, head_kind_read, hform, head_info_read, field?_read, hname,
      typeArguments_read, Option.map_some, info_read, Draft.put?_some]
  rw [hread]
  obtain ⟨kind, -, htarget⟩ := shows_entityName htext
  have hshows := shows_reference t.info htarget
    ((typeArgumentsIn t).map fun c => typeOf (read c))
  rwa [List.map_map] at hshows

/-- The element type must bind as tight as `[]`. -/
theorem shows_array {c : Cst} {kind text : String}
    (hform : Ordered.get? typeForms t.kind = some .array) (hinner : t.head.firstMain? = some c)
    (h : Shows kinds (typeOf (read c)) kind text) (htight : kind ∉ looseKinds) :
    Shows kinds (typeOf (read t)) "ArrayType" (text ++ "[]") := by
  have hread : typeOf (read t) =
      ((Draft.new "ArrayType" t.info).put "elementType" (typeOf (read c))).build := by
    rw [typeOf, type_read]
    simp only [readType, head_kind_read, hform, head_info_read, firstMain?_read, hinner,
      Option.map_some, Draft.put?_some]
  rw [hread]
  refine ⟨rfl, ?_⟩
  rw [printed_array rfl rfl (Draft.field?_put_self _ h.isNull _) (h.needsParens htight), h.text_eq]

/-- Kinds of types around one inner type, with the text before and after it. -/
def enclosures : List (String × String × String) := [
  ("parenthesized_type", "(", ")"),
  ("optional_type", "", "?"),
  ("rest_type", "...", ""),
  ("index_type_query", "keyof ", ""),
  ("readonly_type", "readonly ", "")]

theorem shows_wrapped {c : Cst} {kind inner text before after : String} {ps : List Piece}
    (hform : Ordered.get? typeForms t.kind = some (.wrapped kind))
    (hps : form? kind = some (.pieces ps))
    (hjoin : ∀ v, String.join (ps.map (pieceOf kinds v)) =
      before ++ pieceOf kinds v (.part "type") ++ after)
    (hinner : t.head.firstMain? = some c) (h : Shows kinds (typeOf (read c)) inner text) :
    Shows kinds (typeOf (read t)) kind (before ++ text ++ after) := by
  have hread : typeOf (read t) =
      ((Draft.new kind t.info).put "type" (typeOf (read c))).build := by
    rw [typeOf, type_read]
    simp only [readType, head_kind_read, hform, head_info_read, firstMain?_read, hinner,
      Option.map_some, Draft.put?_some]
  rw [hread]
  exact shows_single t.info (by decide) hps hjoin h

theorem shows_typeOperator {c : Cst} {kind inner text word : String}
    (hform : Ordered.get? typeForms t.kind = some (.operator kind))
    (hword : keyword? kind = some word) (hinner : t.head.firstMain? = some c)
    (h : Shows kinds (typeOf (read c)) inner text) :
    Shows kinds (typeOf (read t)) "TypeOperator" (word ++ " " ++ text) := by
  have hread : typeOf (read t) = (((Draft.new "TypeOperator" t.info).put "operator"
      (.string kind)).put "type" (typeOf (read c))).build := by
    rw [typeOf, type_read]
    simp only [readType, head_kind_read, hform, head_info_read, firstMain?_read, hinner,
      Option.map_some, Draft.put?_some]
  have hoperator : (typeOf (read t)).field? "operator" = some (.string kind) := by
    rw [hread, Draft.field?_put_of_ne _ _ (by decide), Draft.field?_put_self _ rfl]
  rw [hread] at hoperator ⊢
  refine ⟨rfl, ?_⟩
  rw [printed_pieces rfl rfl]
  simp (disch := decide) only [List.map_cons, List.map_nil, pieceOf_word, pieceOf_part,
    pieceOf_operator _ _ hoperator, hword, Draft.field?_put_self _ h.isNull,
    Option.map_some, Option.getD_some, h.text_eq, String.join_cons, String.join_nil,
    String.append_empty, String.append_assoc]

theorem shows_enclosed {c : Cst} {before after inner text : String}
    (hkind : (t.kind, before, after) ∈ enclosures) (hinner : t.head.firstMain? = some c)
    (h : Shows kinds (typeOf (read c)) inner text) :
    ∃ kind, kind ∉ looseKinds ∧ Shows kinds (typeOf (read t)) kind (before ++ text ++ after) := by
  simp only [enclosures, List.mem_cons, List.not_mem_nil, or_false, Prod.mk.injEq] at hkind
  rcases hkind with ⟨hkind, rfl, rfl⟩ | ⟨hkind, rfl, rfl⟩ | ⟨hkind, rfl, rfl⟩ |
    ⟨hkind, rfl, rfl⟩ | ⟨hkind, rfl, rfl⟩
  · have hform : Ordered.get? typeForms t.kind = some (.wrapped "ParenthesizedType") := by
      rw [hkind]
      rfl
    exact ⟨_, by decide, shows_wrapped hform rfl (by simp [String.append_assoc]) hinner h⟩
  · have hform : Ordered.get? typeForms t.kind = some (.wrapped "OptionalType") := by
      rw [hkind]
      rfl
    exact ⟨_, by decide, shows_wrapped hform rfl (by simp) hinner h⟩
  · have hform : Ordered.get? typeForms t.kind = some (.wrapped "RestType") := by
      rw [hkind]
      rfl
    exact ⟨_, by decide, shows_wrapped hform rfl (by simp) hinner h⟩
  · have hform : Ordered.get? typeForms t.kind = some (.operator "KeyOfKeyword") := by
      rw [hkind]
      rfl
    have hshows := shows_typeOperator hform rfl hinner h
    exact ⟨"TypeOperator", by decide, by rwa [String.append_empty]⟩
  · have hform : Ordered.get? typeForms t.kind = some (.operator "ReadonlyKeyword") := by
      rw [hkind]
      rfl
    have hshows := shows_typeOperator hform rfl hinner h
    exact ⟨"TypeOperator", by decide, by rwa [String.append_empty]⟩

theorem shows_tuple (hform : Ordered.get? typeForms t.kind = some .tuple) :
    Shows kinds (typeOf (read t)) "TupleType"
      ("[" ++ ", ".intercalate (t.head.main.map fun c => printed kinds (typeOf (read c))) ++ "]") := by
  have hread : typeOf (read t) = ((Draft.new "TupleType" t.info).putItems "elements"
      (t.head.main.map fun c => typeOf (read c))).build := by
    rw [typeOf, type_read]
    simp only [readType, head_kind_read, hform, head_info_read, typesIn, main_read, List.map_map,
      Function.comp_def]
  have hshows := @shows_items kinds t.info "TupleType" "elements" "[" "]" _ ", "
    (t.head.main.map fun c => typeOf (read c)) (by decide) rfl (by simp [String.append_assoc])
  rw [List.map_map] at hshows
  rw [hread]
  exact hshows

theorem shows_lookup {object index : Cst} {rest : List Cst} {kind kind' text text' : String}
    (hform : Ordered.get? typeForms t.kind = some .lookup)
    (hmain : t.head.main = object :: index :: rest)
    (hobject : Shows kinds (typeOf (read object)) kind text)
    (hindex : Shows kinds (typeOf (read index)) kind' text') :
    Shows kinds (typeOf (read t)) "IndexedAccessType" (text ++ "[" ++ text' ++ "]") := by
  have hread : typeOf (read t) = (((Draft.new "IndexedAccessType" t.info).put "objectType"
      (typeOf (read object))).put "indexType" (typeOf (read index))).build := by
    rw [typeOf, type_read]
    simp only [readType, head_kind_read, hform, head_info_read, Cst.Head.firstMain?, main_read,
      hmain, List.map_cons, List.head?_cons, Option.map_some, Draft.put?_some,
      List.getElem?_cons_succ, List.getElem?_cons_zero]
  rw [hread]
  exact shows_pair t.info (by decide) (by decide) (by decide) rfl (by simp [String.append_assoc])
    hobject hindex

theorem shows_literal {literal : Cst} {kind text : String}
    (hform : Ordered.get? typeForms t.kind = some .literal)
    (hinner : t.head.firstMain? = some literal) (hliteral : literal.kind ≠ "undefined")
    (h : Shows kinds (expressionOf (read literal)) kind text) :
    Shows kinds (typeOf (read t)) "LiteralType" text := by
  have hread : typeOf (read t) = ((Draft.new "LiteralType" t.info).put "literal"
      (expressionOf (read literal))).build := by
    rw [typeOf, type_read]
    simp only [readType, head_kind_read, hform, literalType, head_info_read, firstMain?_read,
      hinner, Option.map_some, kind_read, beq_eq_false_iff_ne.mpr hliteral, Bool.false_eq_true,
      if_false]
  have htext : "" ++ text ++ "" = text := by simp
  rw [hread, ← htext]
  exact shows_single t.info (by decide) rfl (by simp) h

theorem shows_undefined {literal : Cst} (hform : Ordered.get? typeForms t.kind = some .literal)
    (hinner : t.head.firstMain? = some literal) (hliteral : literal.kind = "undefined") :
    Shows kinds (typeOf (read t)) "UndefinedKeyword" "undefined" := by
  have hread : typeOf (read t) = (Draft.new "UndefinedKeyword" t.info).build := by
    rw [typeOf, type_read]
    simp only [readType, head_kind_read, hform, literalType, head_info_read, firstMain?_read,
      hinner, Option.map_some, kind_read, hliteral, beq_self_eq_true, if_true]
  rw [hread]
  exact ⟨rfl, printed_keyword rfl rfl⟩

theorem shows_query {name : Cst} {kind text : String}
    (hform : Ordered.get? typeForms t.kind = some .query)
    (hinner : t.head.firstMain? = some name) (h : Shows kinds (expressionOf (read name)) kind text) :
    Shows kinds (typeOf (read t)) "TypeQuery" ("typeof " ++ text) := by
  have hread : typeOf (read t) = ((Draft.new "TypeQuery" t.info).put "exprName"
      (expressionOf (read name))).build := by
    rw [typeOf, type_read]
    simp only [readType, head_kind_read, hform, head_info_read, firstMain?_read, hinner,
      Option.map_some, Draft.put?_some]
  rw [hread, ← @String.append_empty ("typeof " ++ text)]
  exact shows_single t.info (by decide) rfl (by simp) h

theorem shows_function {result : Cst} {kind text : String}
    (hform : Ordered.get? typeForms t.kind = some .function)
    (hresult : t.head.field? "return_type" = some result)
    (h : Shows kinds (typeOf (read result)) kind text) :
    Shows kinds (typeOf (read t)) "FunctionType"
      (inAngles ((typeParametersIn t).map fun c => printed kinds (typeParameter (read c))) ++ "(" ++
        ", ".intercalate ((parametersIn t).map fun c => printed kinds (parameter (read c))) ++
        ") => " ++ text) := by
  have hread : typeOf (read t) = ((((Draft.new "FunctionType" t.info).putSome "typeParameters"
      ((typeParametersIn t).map fun c => typeParameter (read c))).putItems "parameters"
      ((parametersIn t).map fun c => parameter (read c))).put "type"
      (typeOf (read result))).build := by
    rw [typeOf, type_read]
    simp only [readType, head_kind_read, hform, head_info_read, typeParameters_read,
      parameters_read, field?_read, hresult, Option.map_some, Draft.put?_some]
  have hnew : (Draft.new "FunctionType" t.info).build.field? "typeParameters" = none := rfl
  have hshown : (typeOf (read t)).kind? = some (.string "FunctionType") := by
    rw [hread, Json.kind?, Draft.field?_put_of_ne _ _ (by decide),
      Draft.field?_putItems_of_ne _ _ (by decide), Draft.field?_putSome_of_ne _ _ (by decide)]
    rfl
  rw [hread] at hshown ⊢
  refine ⟨hshown, ?_⟩
  rw [printed_pieces hshown rfl]
  simp (disch := decide) only [List.map_cons, List.map_nil, pieceOf_word, pieceOf_part,
    pieceOf_list, pieceOf_angled, itemTexts, Draft.field?_put_of_ne, Draft.field?_putItems_of_ne,
    Draft.field?_put_self _ h.isNull, Draft.field?_putItems_self,
    Draft.array?_putSome_self _ _ hnew, Option.bind_some, Json.array?, Option.map_some,
    Option.getD_some, h.text_eq, List.map_map, Function.comp_def, String.join_cons,
    String.join_nil, String.append_empty, String.append_assoc]

/-- Kinds of types with operands and what stands between the operands. -/
def separators : List (String × String) := [("union_type", " | "), ("intersection_type", " & ")]

theorem operandsAll_eq (kind : String) (ps : List Part) :
    operandsAll kind ps = (ps.filter Cst.Tree.isMain).flatMap (operandsOf kind) := by
  induction ps with
  | nil => rw [operandsAll]; rfl
  | cons p rest ih =>
    rw [operandsAll, ih]
    cases hmain : p.isMain <;> simp [hmain]

theorem operandsOf_eq (kind : String) (p : Part) :
    operandsOf kind p =
      if p.kind == kind then p.head.main.flatMap (operandsOf kind) else [typeOf p] := by
  cases p
  rw [operandsOf, operandsAll_eq]
  rfl

theorem operandsOf_read_of_ne {kind : String} (h : t.kind ≠ kind) :
    operandsOf kind (read t) = [typeOf (read t)] := by
  rw [operandsOf_eq, kind_read, if_neg]
  simpa using h

theorem operandsOf_read_self (t : Cst) :
    operandsOf t.kind (read t) = t.head.main.flatMap fun c => operandsOf t.kind (read c) := by
  rw [operandsOf_eq, kind_read, if_pos (beq_self_eq_true t.kind), main_read, List.flatMap_map]

theorem intercalate_flatMap (sep : String) {α : Type} {xs : List α} {f : α → List String}
    (h : ∀ x ∈ xs, f x ≠ []) :
    sep.intercalate (xs.flatMap f) = sep.intercalate (xs.map fun x => sep.intercalate (f x)) := by
  induction xs with
  | nil => rfl
  | cons x rest ih =>
    have hrest : ∀ y ∈ rest, f y ≠ [] := fun y hy => h y (List.mem_cons_of_mem x hy)
    cases rest with
    | nil => simp
    | cons y ys =>
      have hne : (y :: ys).flatMap f ≠ [] := by simp [hrest y List.mem_cons_self]
      rw [List.flatMap_cons, String.intercalate_append_of_ne_nil (h x List.mem_cons_self) hne,
        ih hrest]
      exact String.intercalate_cons_cons.symm

theorem separators_form {kind sep : String} (h : (kind, sep) ∈ separators) :
    ∃ shown, Ordered.get? typeForms kind = some (.operands shown) ∧
      form? shown = some (.pieces [.list "types" sep]) := by
  simp only [separators, List.mem_cons, List.not_mem_nil, or_false, Prod.mk.injEq] at h
  rcases h with ⟨rfl, rfl⟩ | ⟨rfl, rfl⟩
  · exact ⟨"UnionType", rfl, rfl⟩
  · exact ⟨"IntersectionType", rfl, rfl⟩

theorem shows_merged {kind sep : String}
    (hform : Ordered.get? typeForms t.kind = some (.operands kind))
    (hps : form? kind = some (.pieces [.list "types" sep])) :
    Shows kinds (typeOf (read t)) kind
      (sep.intercalate ((operandsOf t.kind (read t)).map (printed kinds))) := by
  have hoperands : operandsAll t.kind (t.children.map read) = operandsOf t.kind (read t) := by
    rw [operandsOf_eq, kind_read, if_pos (beq_self_eq_true t.kind), operandsAll_eq,
      ← head_children_read]
    rfl
  have hread : typeOf (read t) =
      ((Draft.new kind t.info).putItems "types" (operandsOf t.kind (read t))).build := by
    rw [typeOf, type_read]
    simp only [readType, head_kind_read, hform, head_info_read, head_children_read, hoperands]
  have hshows := @shows_items kinds t.info kind "types" "" "" _ sep (operandsOf t.kind (read t))
    (by decide) hps (by simp)
  rw [String.empty_append, String.append_empty] at hshows
  rw [hread]
  exact hshows

/-- A type prints as its operands do, for any kind of operands. -/
theorem joined_operandsOf {kind sep : String} (h : (kind, sep) ∈ separators) (c : Cst) :
    sep.intercalate ((operandsOf kind (read c)).map (printed kinds)) =
      printed kinds (typeOf (read c)) := by
  by_cases hkind : c.kind = kind
  · obtain ⟨shown, hform, hps⟩ := separators_form h
    rw [← hkind] at hform ⊢
    exact (shows_merged hform hps).text_eq.symm
  · rw [operandsOf_read_of_ne hkind, List.map_singleton, String.intercalate_singleton]

/-- Operands are joined to the same text whether or not those of one kind are merged. -/
theorem shows_operands {sep : String} (h : (t.kind, sep) ∈ separators)
    (hsome : ∀ c ∈ t.head.main, operandsOf t.kind (read c) ≠ []) :
    ∃ kind, Shows kinds (typeOf (read t)) kind
      (sep.intercalate (t.head.main.map fun c => printed kinds (typeOf (read c)))) := by
  obtain ⟨kind, hform, hps⟩ := separators_form h
  have hne : ∀ c ∈ t.head.main, (operandsOf t.kind (read c)).map (printed kinds) ≠ [] := by
    intro c hc
    simpa using hsome c hc
  have hjoined : sep.intercalate ((operandsOf t.kind (read t)).map (printed kinds)) =
      sep.intercalate (t.head.main.map fun c => printed kinds (typeOf (read c))) := by
    rw [operandsOf_read_self, List.map_flatMap, intercalate_flatMap sep hne]
    simp only [joined_operandsOf h]
  refine ⟨kind, ?_⟩
  rw [← hjoined]
  exact shows_merged hform hps

/-! ### Expressions -/

theorem shows_name (hform : Ordered.get? expressionForms t.kind = some .identifier) :
    Shows kinds (expressionOf (read t)) "Identifier" t.text := by
  have hread : expressionOf (read t) = identifier t.info := by
    rw [expressionOf, expression_read]
    simp only [readExpression, head_kind_read, hform, head_info_read]
  rw [hread]
  exact shows_identifier t.info

theorem shows_ownText {kind : String}
    (hform : Ordered.get? expressionForms t.kind = some (.text kind))
    (hown : form? kind = some .own) : Shows kinds (expressionOf (read t)) kind t.text := by
  have hread : expressionOf (read t) = ((Draft.new kind t.info).putText t.text).build := by
    rw [expressionOf, expression_read]
    simp only [readExpression, head_kind_read, hform, head_info_read, head_text_read]
  rw [hread]
  exact ⟨rfl, printed_own rfl hown rfl⟩

theorem shows_keyword {kind word : String}
    (hform : Ordered.get? expressionForms t.kind = some (.keyword kind))
    (hword : form? kind = some (.keyword word)) : Shows kinds (expressionOf (read t)) kind word := by
  have hread : expressionOf (read t) = (Draft.new kind t.info).build := by
    rw [expressionOf, expression_read]
    simp only [readExpression, head_kind_read, hform, head_info_read]
  rw [hread]
  exact ⟨rfl, printed_keyword rfl hword⟩

theorem shows_dottedExpression (hform : Ordered.get? expressionForms t.kind = some .dottedName)
    (htext : IsDotted t.text) :
    ∃ kind, kind ∉ looseKinds ∧ Shows kinds (expressionOf (read t)) kind t.text := by
  have hread : expressionOf (read t) = entityName t.info := by
    rw [expressionOf, expression_read]
    simp only [readExpression, head_kind_read, hform, head_info_read]
  rw [hread]
  exact shows_entityName htext

theorem shows_member {object property : Cst} {kind kind' text text' : String}
    (hform : Ordered.get? expressionForms t.kind = some .member)
    (hobject : t.head.field? "object" = some object)
    (hproperty : t.head.field? "property" = some property)
    (h : Shows kinds (expressionOf (read object)) kind text)
    (h' : Shows kinds (expressionOf (read property)) kind' text') :
    Shows kinds (expressionOf (read t)) "PropertyAccessExpression" (text ++ "." ++ text') := by
  have hread : expressionOf (read t) = (((Draft.new "PropertyAccessExpression" t.info).put
      "expression" (expressionOf (read object))).put "name"
      (expressionOf (read property))).build := by
    rw [expressionOf, expression_read]
    simp only [readExpression, head_kind_read, hform, binary, head_info_read, field?_read, hobject,
      hproperty, Option.map_some, Draft.put?_some]
  rw [hread, ← @String.append_empty (text ++ "." ++ text')]
  exact shows_pair t.info (by decide) (by decide) (by decide) rfl (by simp [String.append_assoc])
    h h'

theorem shows_subscript {object index : Cst} {kind kind' text text' : String}
    (hform : Ordered.get? expressionForms t.kind = some .subscript)
    (hobject : t.head.field? "object" = some object) (hindex : t.head.field? "index" = some index)
    (h : Shows kinds (expressionOf (read object)) kind text)
    (h' : Shows kinds (expressionOf (read index)) kind' text') :
    Shows kinds (expressionOf (read t)) "ElementAccessExpression" (text ++ "[" ++ text' ++ "]") := by
  have hread : expressionOf (read t) = (((Draft.new "ElementAccessExpression" t.info).put
      "expression" (expressionOf (read object))).put "argumentExpression"
      (expressionOf (read index))).build := by
    rw [expressionOf, expression_read]
    simp only [readExpression, head_kind_read, hform, binary, head_info_read, field?_read, hobject,
      hindex, Option.map_some, Draft.put?_some]
  rw [hread]
  exact shows_pair t.info (by decide) (by decide) (by decide) rfl (by simp [String.append_assoc])
    h h'

theorem shows_parenthesized {c : Cst} {kind text : String}
    (hform : Ordered.get? expressionForms t.kind = some .parenthesized)
    (hinner : t.head.firstMain? = some c) (h : Shows kinds (expressionOf (read c)) kind text) :
    Shows kinds (expressionOf (read t)) "ParenthesizedExpression" ("(" ++ text ++ ")") := by
  have hread : expressionOf (read t) = ((Draft.new "ParenthesizedExpression" t.info).put
      "expression" (expressionOf (read c))).build := by
    rw [expressionOf, expression_read]
    simp only [readExpression, head_kind_read, hform, head_info_read, firstMain?_read, hinner,
      Option.map_some, Draft.put?_some]
  rw [hread]
  exact shows_single t.info (by decide) rfl (by simp [String.append_assoc]) h

theorem shows_call {callee arguments : Cst} {kind text : String}
    (hform : Ordered.get? expressionForms t.kind = some .call)
    (hcallee : t.head.field? "function" = some callee)
    (harguments : t.head.field? "arguments" = some arguments)
    (hlist : arguments.kind = "arguments") (h : Shows kinds (expressionOf (read callee)) kind text) :
    Shows kinds (expressionOf (read t)) "CallExpression"
      (text ++ inAngles ((typeArgumentsIn t).map fun c => printed kinds (typeOf (read c))) ++ "(" ++
        ", ".intercalate (arguments.head.main.map fun c => printed kinds (expressionOf (read c))) ++
        ")") := by
  have hread : expressionOf (read t) = ((((Draft.new "CallExpression" t.info).put "expression"
      (expressionOf (read callee))).putSome "typeArguments"
      ((typeArgumentsIn t).map fun c => typeOf (read c))).putItems "arguments"
      (arguments.head.main.map fun c => expressionOf (read c))).build := by
    rw [expressionOf, expression_read]
    simp only [readExpression, head_kind_read, hform, callExpression, head_info_read, field?_read,
      hcallee, harguments, Option.map_some, Option.filter_some, kind_read, hlist, beq_self_eq_true,
      if_true, typeArguments_read, expressionsIn, main_read, List.map_map, Function.comp_def,
      Draft.put?_some]
  have hnew : ((Draft.new "CallExpression" t.info).put "expression"
      (expressionOf (read callee))).build.field? "typeArguments" = none := rfl
  have hshown : (expressionOf (read t)).kind? = some (.string "CallExpression") := by
    rw [hread, Json.kind?, Draft.field?_putItems_of_ne _ _ (by decide),
      Draft.field?_putSome_of_ne _ _ (by decide), Draft.field?_put_of_ne _ _ (by decide)]
    rfl
  rw [hread] at hshown ⊢
  refine ⟨hshown, ?_⟩
  rw [printed_pieces hshown rfl]
  simp (disch := decide) only [List.map_cons, List.map_nil, pieceOf_word, pieceOf_part,
    pieceOf_list, pieceOf_angled, itemTexts, Draft.field?_putItems_of_ne,
    Draft.field?_putSome_of_ne, Draft.field?_put_self _ h.isNull, Draft.field?_putItems_self,
    Draft.array?_putSome_self _ _ hnew, Option.bind_some, Json.array?, Option.map_some,
    Option.getD_some, h.text_eq, List.map_map, Function.comp_def, String.join_cons,
    String.join_nil, String.append_empty, String.append_assoc]

/-! ### Parameters -/

theorem shows_bareParameter (hkind : t.kind = "identifier") :
    Shows kinds (parameter (read t)) "Parameter" t.text := by
  have hread : parameter (read t) =
      ((Draft.new "Parameter" t.info).put "name" (identifier t.info)).build := by
    simp only [parameter, kind_read, hkind, beq_self_eq_true, if_true, info_read]
  have hname : Shows kinds (identifier t.info) "Identifier" t.text := shows_identifier t.info
  have hshows := shows_parameterDraft (kind?_modified t.info []) (field?_modified t.info []) false
    false hname none nofun none
  have htext : "" ++ t.text ++ "" ++ ledBy ": " none = t.text := by simp [ledBy]
  rw [hread, ← htext]
  exact hshows

/-- The name that a parameter binds, and whether it stands for all arguments that are left. -/
def binding? (t : Cst) : Option (Bool × Cst) :=
  (t.head.field? "pattern").bind fun pattern =>
    if pattern.kind = "rest_pattern" then pattern.head.firstMain?.map (true, ·)
    else some (false, pattern)

theorem parameter_read {rest : Bool} {name : Cst} (hkind : t.kind ≠ "identifier")
    (hbinding : binding? t = some (rest, name)) (hname : name.kind ∈ ["identifier", "this"]) :
    parameter (read t) = (((((((Draft.new "Parameter" t.info).modifiers
      (memberModifiers (read t).head)).mark "dotDotDotToken" "DotDotDotToken" rest).put "name"
      (identifier name.info)).optional (t.kind == "optional_parameter")).put? "type"
      ((clause? t "type").map fun c => typeOf (read c))).put? "initializer"
      ((t.head.field? "value").map fun c => expressionOf (read c))).build := by
  have hidentifier : bindingName (read name) = identifier name.info := by
    simp only [List.mem_cons, List.not_mem_nil, or_false] at hname
    rcases hname with hname | hname <;> simp [bindingName, hname]
  have hvalue : ((read t).head.field? "value").map expressionOf =
      (t.head.field? "value").map fun c => expressionOf (read c) := by
    rw [field?_read, Option.map_map]
    rfl
  obtain ⟨pattern, hpattern, hbinding⟩ := Option.bind_eq_some_iff.mp hbinding
  have hread : (read t).head.field? "pattern" = some (read pattern) := by
    rw [field?_read, hpattern, Option.map_some]
  by_cases hrest : pattern.kind = "rest_pattern"
  · rw [if_pos hrest] at hbinding
    obtain ⟨inner, hinner, heq⟩ := Option.map_eq_some_iff.mp hbinding
    cases heq
    simp only [parameter, kind_read, beq_eq_false_iff_ne.mpr hkind, Bool.false_eq_true, if_false,
      info_read, hread, Option.filter_some, hrest, beq_self_eq_true, if_true, firstMain?_read,
      hinner, Option.map_some, hidentifier, Option.isSome_some, Draft.put?_some, clauseType?_read,
      hvalue]
  · rw [if_neg hrest] at hbinding
    cases hbinding
    simp only [parameter, kind_read, beq_eq_false_iff_ne.mpr hkind, Bool.false_eq_true, if_false,
      info_read, hread, Option.filter_some, beq_eq_false_iff_ne.mpr hrest, Option.map_some,
      hidentifier, Option.isSome_none, Draft.put?_some, clauseType?_read, hvalue]

theorem shows_parameter {rest : Bool} {name : Cst} (hkind : t.kind ≠ "identifier")
    (hbinding : binding? t = some (rest, name)) (hname : name.kind ∈ ["identifier", "this"]) :
    Shows kinds (parameter (read t)) "Parameter"
      ((if rest then "..." else "") ++ name.text ++
        (if t.kind = "optional_parameter" then "?" else "") ++
        ledBy ": " ((clause? t "type").map fun c => printed kinds (typeOf (read c)))) := by
  have hshown : Shows kinds (identifier name.info) "Identifier" name.text :=
    shows_identifier name.info
  have hshows := shows_parameterDraft (kind?_modified t.info (memberModifiers (read t).head))
    (field?_modified t.info (memberModifiers (read t).head)) rest (t.kind == "optional_parameter")
    hshown ((clause? t "type").map fun c => typeOf (read c)) (fun _ => isNull_clause)
    ((t.head.field? "value").map fun c => expressionOf (read c))
  rw [parameter_read hkind hbinding hname]
  simpa only [beq_iff_eq, Option.map_map, Function.comp_def] using hshows

theorem shows_typeParameter {name : Cst} (hname : t.head.field? "name" = some name) :
    Shows kinds (typeParameter (read t)) "TypeParameter"
      (name.text ++ ledBy " extends " ((clause? t "constraint").map fun c =>
        printed kinds (typeOf (read c))) ++
        ledBy " = " ((clause? t "value").map fun c => printed kinds (typeOf (read c)))) := by
  have hread : typeParameter (read t) = ((((Draft.new "TypeParameter" t.info).put "name"
      (identifier name.info)).put? "constraint" ((clause? t "constraint").map fun c =>
        typeOf (read c))).put? "default" ((clause? t "value").map fun c =>
        typeOf (read c))).build := by
    have hnamed : (read t).head.field? "name" = some (read name) := by
      rw [field?_read, hname, Option.map_some]
    simp only [typeParameter, info_read, hnamed, Option.map_some, Draft.put?_some,
      clauseType?_read]
  have hshown : Shows kinds (identifier name.info) "Identifier" name.text :=
    shows_identifier name.info
  have hkind : (typeParameter (read t)).kind? = some (.string "TypeParameter") := by
    rw [hread]
    simp (disch := decide) only [Json.kind?, Draft.field?_put?_of_ne, Draft.field?_put_of_ne]
    rfl
  have hdefault : (typeParameter (read t)).field? "default" =
      (clause? t "value").map fun c => typeOf (read c) := by
    rw [hread]
    refine Draft.field?_put?_self _ (fun _ => isNull_clause) ?_
    simp (disch := decide) only [Draft.field?_put?_of_ne, Draft.field?_put_of_ne]
    rfl
  have hconstraint : (typeParameter (read t)).field? "constraint" =
      (clause? t "constraint").map fun c => typeOf (read c) := by
    rw [hread, Draft.field?_put?_of_ne _ _ (by decide)]
    exact Draft.field?_put?_self _ (fun _ => isNull_clause) rfl
  have hnamed : (typeParameter (read t)).field? "name" = some (identifier name.info) := by
    rw [hread]
    simp (disch := decide) only [Draft.field?_put?_of_ne, Draft.field?_put_self _ hshown.isNull]
  refine ⟨hkind, ?_⟩
  rw [hread] at hkind hdefault hconstraint hnamed ⊢
  rw [printed_pieces hkind rfl]
  simp (disch := decide) only [List.map_cons, List.map_nil, pieceOf_part, pieceOf_led, hnamed,
    hconstraint, hdefault, Option.map_some, Option.getD_some, hshown.text_eq, ledBy,
    Option.map_map, Function.comp_def, String.join_cons, String.join_nil, String.append_empty,
    String.append_assoc]

end DeclTree.Lower
