import DeclTree.Proofs.Comments
import Mathlib.Data.List.Basic

/-!
# Comments do not show in a lowered program

Every reading of a node is the same without the comments in it: the children it is made of
are those that are no comments, those of a kind that is not the kind of comments, and those
that fields lead to. The lemmas go through the parts of a program in the order in which they
are lowered (`readings_uncommented`), and `read_uncommented` takes this to whole trees.
-/

namespace DeclTree.Lower

open Cst Cst.Head Cst.Tree

/-! ### Types, expressions and signatures -/

@[simp] theorem typeOf_uncommented (p : Part) : typeOf p.uncommented = typeOf p :=
  congrArg Readings.type (attr_uncommented p)

@[simp] theorem expressionOf_uncommented (p : Part) :
    expressionOf p.uncommented = expressionOf p :=
  congrArg Readings.expression (attr_uncommented p)

@[simp] theorem typesIn_uncommented (p : Part) :
    typesIn p.uncommented.head = typesIn p.head := by
  simp only [typesIn, main_uncommented, List.map_map, Function.comp_def, typeOf_uncommented]

@[simp] theorem expressionsIn_uncommented (p : Part) :
    expressionsIn p.uncommented.head = expressionsIn p.head := by
  simp only [expressionsIn, main_uncommented, List.map_map, Function.comp_def,
    expressionOf_uncommented]

@[simp] theorem clauseType?_uncommented (p : Part) :
    clauseType? p.uncommented = clauseType? p := by
  simp only [clauseType?, firstMain?_uncommented, Option.map_map, Function.comp_def,
    typeOf_uncommented]

@[simp] theorem modifierKind?_uncommented (p : Part) :
    modifierKind? p.uncommented = modifierKind? p := by
  simp only [modifierKind?, kind_uncommented, text_uncommented]

/-- A comment is no modifier. -/
theorem modifierKind?_comment {p : Part} (h : p.isComment = true) : modifierKind? p = none := by
  rw [modifierKind?, beq_iff_eq.mp h]
  rfl

@[simp] theorem memberModifiers_uncommented (p : Part) :
    memberModifiers p.uncommented.head = memberModifiers p.head := by
  have hdropped : ∀ c : Part, (if (!c.isComment) = true then modifierKind? c else none) =
      modifierKind? c := by
    intro c
    cases hc : c.isComment with
    | false => rfl
    | true => exact (modifierKind?_comment hc).symm
  simp only [memberModifiers, head_children_uncommented, List.filterMap_map, Function.comp_def,
    modifierKind?_uncommented, List.filterMap_filter, hdropped]

@[simp] theorem bindingName_uncommented (p : Part) :
    bindingName p.uncommented = bindingName p := by
  simp only [bindingName, kind_uncommented, info_uncommented]

@[simp] theorem propertyName_uncommented (p : Part) :
    propertyName p.uncommented = propertyName p := by
  simp only [propertyName, kind_uncommented, info_uncommented, firstMain?_uncommented,
    Option.map_map, Function.comp_def, expressionOf_uncommented]

mutual

theorem operandsOf_uncommented (kind : String) :
    ∀ p : Part, operandsOf kind p.uncommented = operandsOf kind p
  | .node _ _ _ siblings => by
    rw [uncommented, operandsOf, operandsOf, operandsAll_uncommented kind siblings]

theorem operandsAll_uncommented (kind : String) :
    ∀ ps : List Part, operandsAll kind (uncommentedAll ps) = operandsAll kind ps
  | [] => rfl
  | p :: rest => by
    rw [uncommentedAll, operandsAll]
    cases hp : p.isComment with
    | false =>
      rw [if_neg (by simp), operandsAll, isMain_uncommented, operandsOf_uncommented kind p,
        operandsAll_uncommented kind rest]
    | true =>
      have hmain : p.isMain = false := by
        simp [isMain, beq_iff_eq.mp hp]
      rw [if_pos rfl, operandsAll_uncommented kind rest, hmain]
      rfl

end

variable {p : Part}

theorem typeArguments_uncommented (h : p.FieldsClear) :
    typeArguments p.uncommented.head = typeArguments p.head := by
  rw [typeArguments, typeArguments, fieldOrChild?_uncommented _ _ h (by decide)]
  cases p.head.fieldOrChild? "type_arguments" "type_arguments" with
  | none => rfl
  | some list => exact typesIn_uncommented list

theorem parameter_uncommented (h : p.FieldsClear) : parameter p.uncommented = parameter p := by
  simp only [parameter, kind_uncommented, info_uncommented, field?_uncommented _ h,
    memberModifiers_uncommented, Option.filter_map, Option.map_map, Option.bind_map,
    Function.comp_def, clauseType?_uncommented, expressionOf_uncommented, bindingName_uncommented,
    Option.isSome_map]
  cases (p.head.field? "pattern").filter (·.kind == "rest_pattern") with
  | none => rfl
  | some rest =>
    simp only [Option.map_some, firstMain?_uncommented, Option.map_map, Function.comp_def,
      bindingName_uncommented]

theorem parameters_uncommented (h : p.FieldsClear) :
    parameters p.uncommented.head = parameters p.head := by
  rw [parameters, parameters, fieldOrChild?_uncommented _ _ h (by decide)]
  cases hlist : p.head.fieldOrChild? "parameters" "formal_parameters" with
  | none => rfl
  | some list =>
    have hclear := h.below (below_of_fieldOrChild? hlist)
    simp only [Option.map_some, main_uncommented, List.filter_map, List.map_map,
      Function.comp_def, kind_uncommented]
    refine List.map_congr_left fun q hq => parameter_uncommented (hclear.within ?_)
    exact (below_of_mem_main (List.mem_filter.mp hq).1).within

theorem typeParameter_uncommented (h : p.FieldsClear) :
    typeParameter p.uncommented = typeParameter p := by
  simp [typeParameter, field?_uncommented _ h, Option.bind_map, Function.comp_def]

theorem typeParameters_uncommented (h : p.FieldsClear) :
    typeParameters p.uncommented.head = typeParameters p.head := by
  rw [typeParameters, typeParameters, fieldOrChild?_uncommented _ _ h (by decide)]
  cases hlist : p.head.fieldOrChild? "type_parameters" "type_parameters" with
  | none => rfl
  | some list =>
    have hclear := h.below (below_of_fieldOrChild? hlist)
    simp only [Option.map_some, main_uncommented, List.filter_map, List.map_map,
      Function.comp_def, kind_uncommented]
    refine List.map_congr_left fun q hq => typeParameter_uncommented (hclear.within ?_)
    exact (below_of_mem_main (List.mem_filter.mp hq).1).within

theorem returnType?_uncommented (h : p.FieldsClear) :
    returnType? p.uncommented.head = returnType? p.head := by
  simp only [returnType?, field?_uncommented _ h, ← Option.map_or, Option.bind_map,
    Function.comp_def, clauseType?_uncommented]

theorem putSignature_uncommented (h : p.FieldsClear) (d : Draft) :
    putSignature d p.uncommented.head = putSignature d p.head := by
  rw [putSignature, putSignature, typeParameters_uncommented h, parameters_uncommented h,
    returnType?_uncommented h]

theorem typeMember_uncommented (h : p.FieldsClear) : typeMember p.uncommented = typeMember p := by
  simp [typeMember, field?_uncommented _ h, putSignature_uncommented h, Option.bind_map,
    Function.comp_def]

theorem typeMembers_uncommented (h : p.FieldsClear) :
    typeMembers p.uncommented.head = typeMembers p.head := by
  rw [typeMembers, typeMembers, main_uncommented, List.map_map]
  exact List.map_congr_left fun q hq => typeMember_uncommented (h.below (below_of_mem_main hq))

theorem literalType_uncommented (p : Part) :
    literalType p.uncommented.head = literalType p.head := by
  rw [literalType, literalType, firstMain?_uncommented]
  cases p.head.firstMain? <;> simp

theorem readType_uncommented (h : p.FieldsClear) :
    readType p.uncommented.head = readType p.head := by
  have hoperands : operandsAll p.head.kind p.uncommented.head.children =
      operandsAll p.head.kind p.head.children := by
    have hall := operandsAll_uncommented p.head.kind p.children
    rwa [uncommentedAll_children] at hall
  simp only [readType, head_kind_uncommented]
  cases Ordered.get? typeForms p.head.kind with
  | none => simp
  | some form =>
    cases form with
    | literal => exact literalType_uncommented p
    | operands kind => simp only [hoperands, head_info_uncommented]
    | _ =>
      simp [keywordType, field?_uncommented _ h, typeArguments_uncommented h,
        typeMembers_uncommented h, typeParameters_uncommented h, parameters_uncommented h,
        Function.comp_def]

theorem binary_uncommented (h : p.FieldsClear) (kind object objectField key field : String) :
    binary p.uncommented.head kind object objectField key field =
      binary p.head kind object objectField key field := by
  simp [binary, field?_uncommented _ h, Function.comp_def]

theorem callExpression_uncommented (h : p.FieldsClear) :
    callExpression p.uncommented.head = callExpression p.head := by
  simp only [callExpression, field?_uncommented _ h, Option.filter_map, Function.comp_def,
    kind_uncommented]
  cases (p.head.field? "arguments").filter (·.kind == "arguments") with
  | none => simp
  | some list => simp [typeArguments_uncommented h, Function.comp_def]

theorem readExpression_uncommented (h : p.FieldsClear) :
    readExpression p.uncommented.head = readExpression p.head := by
  simp only [readExpression, head_kind_uncommented]
  cases Ordered.get? expressionForms p.head.kind with
  | none => simp
  | some form =>
    cases form with
    | call => exact callExpression_uncommented h
    | construct =>
      simp only [field?_uncommented _ h, typeArguments_uncommented h]
      cases p.head.field? "arguments" <;> simp [Function.comp_def]
    | _ => simp [binary_uncommented h, Function.comp_def]

/-! ### Statements and declarations -/

@[simp] theorem statementsIn_uncommented (p : Part) :
    statementsIn p.uncommented.head = statementsIn p.head := by
  simp only [statementsIn, main_uncommented, List.filterMap_map, Function.comp_def,
    attr_uncommented]

@[simp] theorem block_uncommented (kind : String) (p : Part) :
    block kind p.uncommented.head = block kind p.head := by
  simp only [block, statementsIn_uncommented, head_info_uncommented]

@[simp] theorem moduleBlock_uncommented (p : Part) :
    moduleBlock p.uncommented = moduleBlock p := block_uncommented "ModuleBlock" p

theorem nameOf?_uncommented (h : p.FieldsClear) :
    nameOf? p.uncommented.head = nameOf? p.head := by
  simp [nameOf?, field?_uncommented _ h, Function.comp_def]

theorem containerDeclaration_uncommented (h : p.FieldsClear) (flags : Nat)
    (modifiers : List String) :
    containerDeclaration p.uncommented.head flags modifiers =
      containerDeclaration p.head flags modifiers := by
  simp only [containerDeclaration, field?_uncommented _ h, Option.map_map, Function.comp_def,
    moduleBlock_uncommented, head_info_uncommented]
  cases p.head.field? "name" <;> simp

@[simp] theorem exportAssignment_uncommented (p value : Part) (isEquals : Bool) :
    exportAssignment p.uncommented.head value.uncommented isEquals =
      exportAssignment p.head value isEquals := by
  simp only [exportAssignment, head_info_uncommented, expressionOf_uncommented]

theorem exportClause_uncommented (h : p.FieldsClear) :
    exportClause p.uncommented.head = exportClause p.head := by
  simp [exportClause, field?_uncommented _ h, Function.comp_def]

theorem exportRest_uncommented (h : p.FieldsClear) (isDefault : Bool) (modifiers : List String) :
    exportRest p.uncommented.head isDefault modifiers =
      exportRest p.head isDefault modifiers := by
  have hvalue : ∀ o : Option Part, (if isDefault then o.map uncommented else none) =
      (if isDefault then o else none).map uncommented := by
    intro o
    cases isDefault <;> rfl
  have hassigned : ∀ o : Option Part, (if p.head.hasToken "=" then o.map uncommented else none) =
      (if p.head.hasToken "=" then o else none).map uncommented := by
    intro o
    cases p.head.hasToken "=" <;> rfl
  simp only [exportRest, field?_uncommented _ h, hvalue, firstMain?_uncommented,
    hasToken_uncommented _ p (by decide : "=" ≠ "comment"), hassigned]
  cases (if isDefault then p.head.field? "value" else none) with
  | some value => simp
  | none =>
    cases (if p.head.hasToken "=" then p.head.firstMain? else none) with
    | some expression => simp
    | none => simp [exportClause_uncommented h, Function.comp_def]

theorem exported_uncommented (h : p.FieldsClear) :
    exported p.uncommented.head = exported p.head := by
  simp only [exported, field?_uncommented _ h, hasToken_uncommented, exportRest_uncommented h,
    Option.bind_map, Function.comp_def, attr_uncommented, ne_eq, String.reduceEq,
    not_false_eq_true]

theorem ambient_uncommented (p : Part) (modifiers : List String) :
    ambient p.uncommented.head modifiers = ambient p.head modifiers := by
  simp [ambient, Option.bind_map, Function.comp_def]

theorem expressionStatement_uncommented (h : p.FieldsClear) (modifiers : List String) :
    expressionStatement p.uncommented.head modifiers = expressionStatement p.head modifiers := by
  simp only [expressionStatement, firstMain?_uncommented, Option.filter_map, Function.comp_def,
    kind_uncommented]
  cases hfirst : p.head.firstMain? with
  | none => simp
  | some inner =>
    have hinner := containerDeclaration_uncommented (h.below (below_of_firstMain? hfirst))
      namespaceFlags modifiers
    cases hkind : inner.kind == "internal_module" <;> simp [Option.filter, hkind, hinner]

theorem function_uncommented (h : p.FieldsClear) (modifiers : List String) :
    function p.uncommented.head modifiers = function p.head modifiers := by
  simp [function, nameOf?_uncommented h, putSignature_uncommented h]

theorem extendedTypes_uncommented (p : Part) :
    extendedTypes p.uncommented.head = extendedTypes p.head := by
  simp [extendedTypes, List.foldl_map]

@[simp] theorem heritageOf?_uncommented (p : Part) : heritageOf? p.uncommented = heritageOf? p := by
  simp [heritageOf?, extendedTypes_uncommented]

theorem classHeritage_uncommented (p : Part) :
    classHeritage p.uncommented.head = classHeritage p.head := by
  rw [classHeritage, classHeritage, childOfKind?_uncommented _ p (by decide)]
  cases p.head.childOfKind? "class_heritage" <;> simp [List.filterMap_map]

theorem method_uncommented (h : p.FieldsClear) : method p.uncommented = method p := by
  simp only [method, field?_uncommented _ h, putSignature_uncommented h]
  cases p.head.field? "name" <;> simp

theorem property_uncommented (h : p.FieldsClear) : property p.uncommented = property p := by
  simp [property, field?_uncommented _ h, Option.bind_map, Function.comp_def]

theorem classMember?_uncommented (h : p.FieldsClear) :
    classMember? p.uncommented = classMember? p := by
  simp [classMember?, method_uncommented h, property_uncommented h]

theorem bodyParts_uncommented (h : p.FieldsClear) :
    bodyParts p.uncommented.head = (bodyParts p.head).map uncommented := by
  rw [bodyParts, bodyParts, field?_uncommented _ h]
  cases p.head.field? "body" <;> simp

theorem classDeclaration_uncommented (h : p.FieldsClear) (modifiers : List String) :
    classDeclaration p.uncommented.head modifiers = classDeclaration p.head modifiers := by
  have hmembers : ((bodyParts p.head).filterMap fun q => classMember? q.uncommented) =
      (bodyParts p.head).filterMap classMember? :=
    List.filterMap_congr fun q hq => classMember?_uncommented (h.below (below_of_mem_bodyParts hq))
  simp [classDeclaration, nameOf?_uncommented h, typeParameters_uncommented h,
    classHeritage_uncommented, bodyParts_uncommented h, List.filterMap_map, hmembers]

theorem interfaceDeclaration_uncommented (h : p.FieldsClear) (modifiers : List String) :
    interfaceDeclaration p.uncommented.head modifiers =
      interfaceDeclaration p.head modifiers := by
  have hmembers : (bodyParts p.head).map (typeMember ∘ uncommented) =
      (bodyParts p.head).map typeMember :=
    List.map_congr_left fun q hq => typeMember_uncommented (h.below (below_of_mem_bodyParts hq))
  simp only [interfaceDeclaration, nameOf?_uncommented h, typeParameters_uncommented h,
    bodyParts_uncommented h, List.map_map, hmembers, head_info_uncommented]
  cases hc : p.head.childOfKind? "extends_type_clause" <;> simp [hc]

theorem typeAlias_uncommented (h : p.FieldsClear) (modifiers : List String) :
    typeAlias p.uncommented.head modifiers = typeAlias p.head modifiers := by
  simp [typeAlias, nameOf?_uncommented h, typeParameters_uncommented h, field?_uncommented _ h,
    Function.comp_def]

theorem enumMember_uncommented (h : p.FieldsClear) : enumMember p.uncommented = enumMember p := by
  simp [enumMember, field?_uncommented _ h, Function.comp_def]

theorem enumDeclaration_uncommented (h : p.FieldsClear) (modifiers : List String) :
    enumDeclaration p.uncommented.head modifiers = enumDeclaration p.head modifiers := by
  have hmembers : (bodyParts p.head).map (enumMember ∘ uncommented) =
      (bodyParts p.head).map enumMember :=
    List.map_congr_left fun q hq => enumMember_uncommented (h.below (below_of_mem_bodyParts hq))
  simp [enumDeclaration, nameOf?_uncommented h, bodyParts_uncommented h, hmembers]

theorem declarator_uncommented (h : p.FieldsClear) : declarator p.uncommented = declarator p := by
  simp [declarator, field?_uncommented _ h, Option.bind_map, Function.comp_def]

theorem variableStatement_uncommented (h : p.FieldsClear) (modifiers : List String) :
    variableStatement p.uncommented.head modifiers = variableStatement p.head modifiers := by
  have hdeclarators : ((p.head.main.filter (·.kind == "variable_declarator")).map
      (declarator ∘ uncommented)) =
      (p.head.main.filter (·.kind == "variable_declarator")).map declarator := by
    refine List.map_congr_left fun q hq => declarator_uncommented (h.below ?_)
    exact below_of_mem_main (List.mem_filter.mp hq).1
  simp only [variableStatement, main_uncommented, List.filter_map, List.map_map,
    Function.comp_def (fun q : Part => q.kind == "variable_declarator"), kind_uncommented,
    hdeclarators]
  simp [listFlags]

theorem importSpecifier_uncommented (h : p.FieldsClear) :
    importSpecifier p.uncommented = importSpecifier p := by
  simp only [importSpecifier, field?_uncommented _ h]
  cases p.head.field? "alias" <;> simp [Function.comp_def]

@[simp] theorem childIdentifier?_uncommented (p : Part) :
    childIdentifier? p.uncommented = childIdentifier? p := by
  simp [childIdentifier?, Function.comp_def]

theorem addImport_uncommented (h : p.FieldsClear) (d : Draft) :
    addImport d p.uncommented = addImport d p := by
  have hspecifiers : ((p.head.main.filter (·.kind == "import_specifier")).map
      (importSpecifier ∘ uncommented)) =
      (p.head.main.filter (·.kind == "import_specifier")).map importSpecifier := by
    refine List.map_congr_left fun q hq => importSpecifier_uncommented (h.below ?_)
    exact below_of_mem_main (List.mem_filter.mp hq).1
  simp only [addImport, kind_uncommented, info_uncommented, childIdentifier?_uncommented,
    main_uncommented, List.filter_map, List.map_map,
    Function.comp_def (fun q : Part => q.kind == "import_specifier"), hspecifiers]

theorem importClause_uncommented (h : p.FieldsClear) :
    importClause p.uncommented = importClause p := by
  rw [importClause, importClause, main_uncommented, List.foldl_map, info_uncommented]
  refine congrArg Draft.build (List.foldl_ext _ _ _ fun d q hq => ?_)
  exact addImport_uncommented (h.below (below_of_mem_main hq)) d

@[simp] theorem requiredModule_uncommented (p : Part) :
    requiredModule p.uncommented = requiredModule p := by
  simp only [requiredModule, info_uncommented]

theorem importStatement_uncommented (h : p.FieldsClear) :
    importStatement p.uncommented.head = importStatement p.head := by
  have hne : "import_require_clause" ≠ "comment" := by decide
  rw [importStatement, importStatement, childOfKind?_uncommented _ p hne]
  cases hclause : p.head.childOfKind? "import_require_clause" with
  | some clause =>
    have hclear := h.below (below_of_childOfKind? hclause)
    simp [field?_uncommented _ hclear, Function.comp_def]
  | none =>
    have himport : ((p.head.childOfKind? "import_clause").map fun c => importClause c.uncommented) =
        (p.head.childOfKind? "import_clause").map importClause := by
      refine Option.map_congr fun clause hclause => ?_
      exact importClause_uncommented (h.below (below_of_childOfKind? hclause))
    simp [field?_uncommented _ h, himport, Function.comp_def]

theorem importAlias_uncommented (p : Part) (modifiers : List String) :
    importAlias p.uncommented.head modifiers = importAlias p.head modifiers := by
  simp [importAlias, Function.comp_def]

theorem readStatement_uncommented (h : p.FieldsClear) :
    readStatement p.uncommented.head = readStatement p.head := by
  funext modifiers
  simp only [readStatement, head_kind_uncommented]
  cases Ordered.get? statementForms p.head.kind with
  | none => simp
  | some form =>
    cases form <;> simp [exported_uncommented h, ambient_uncommented,
      expressionStatement_uncommented h, containerDeclaration_uncommented h,
      function_uncommented h, classDeclaration_uncommented h, interfaceDeclaration_uncommented h,
      typeAlias_uncommented h, enumDeclaration_uncommented h, variableStatement_uncommented h,
      importStatement_uncommented h, importAlias_uncommented]

/-! ### Whole trees -/

theorem readings_uncommented (h : p.FieldsClear) :
    readings p.uncommented.head = readings p.head := by
  rw [readings, readings, readType_uncommented h, readExpression_uncommented h,
    readStatement_uncommented h]

theorem isComment_read (t : Cst) : (read t).isComment = t.isComment := by
  rw [isComment, isComment, kind_read]

theorem along_read (siblings : List Cst) (path : Path) :
    along (siblings.map read) path = (along siblings path).map read := by
  induction path generalizing siblings with
  | nil => rfl
  | cons i rest ih =>
    rw [along, along, List.getElem?_map]
    cases siblings[i]? with
    | none => rfl
    | some t =>
      simp only [Option.map_some, children_read, ih, List.map_cons]

theorem pathUncommented_read (siblings : List Cst) (path : Path) :
    pathUncommented (siblings.map read) path = pathUncommented siblings path := by
  induction path generalizing siblings with
  | nil => rfl
  | cons i rest ih =>
    rw [pathUncommented, pathUncommented, List.getElem?_map]
    cases siblings[i]? with
    | none => simp only [Option.map_none, List.length_map]
    | some t =>
      simp only [Option.map_some, children_read, ih, isComment_read, List.length_map,
        ← List.map_take, List.countP_map, Function.comp_def]

theorem fieldsClear_read {t : Cst} (h : t.FieldsClear) : (read t).FieldsClear := by
  intro u hu name path hpath c hc
  obtain ⟨v, hv, rfl⟩ := exists_of_within_read hu
  rw [head_fields_read] at hpath
  rw [children_read, along_read] at hc
  obtain ⟨d, hd, rfl⟩ := List.mem_map.mp hc
  rw [isComment_read]
  exact h v hv name path hpath d hd

mutual

theorem read_uncommented : ∀ t : Cst, t.FieldsClear → read t.uncommented = (read t).uncommented
  | .node () i fields siblings, h => by
    have hbelow := readAll_uncommented siblings fun c hc => h.below (below_of_mem_children hc)
    have hreadings := readings_uncommented (fieldsClear_read h)
    have hfields : Ordered.mapValues (pathUncommented siblings) fields =
        Ordered.mapValues (pathUncommented (annotateAll readings siblings)) fields := by
      rw [annotateAll_eq_map]
      exact congrArg (Ordered.mapValues · fields)
        (funext fun path => (pathUncommented_read siblings path).symm)
    calc
      read (uncommented (.node () i fields siblings))
      _ = .node (readings (read (.node () i fields siblings)).uncommented.head) i
            (Ordered.mapValues (pathUncommented (annotateAll readings siblings)) fields)
            (uncommentedAll (annotateAll readings siblings)) := by
          simp only [read, uncommented, annotate, hbelow, hfields, head]
      _ = (read (.node () i fields siblings)).uncommented := by
          rw [hreadings]
          rfl

theorem readAll_uncommented : ∀ ts : List Cst, (∀ t ∈ ts, t.FieldsClear) →
    annotateAll readings (uncommentedAll ts) = uncommentedAll (annotateAll readings ts)
  | [], _ => rfl
  | t :: rest, h => by
    have hrest := readAll_uncommented rest fun c hc => h c (List.mem_cons_of_mem _ hc)
    have ht : annotate readings t.uncommented = (annotate readings t).uncommented :=
      read_uncommented t (h t List.mem_cons_self)
    have hkind : (annotate readings t).isComment = t.isComment := isComment_read t
    rw [uncommentedAll, annotateAll, uncommentedAll, hkind]
    split
    · exact hrest
    · rw [annotateAll, ht, hrest]

end

/-- Without its comments a program is lowered to the very same tree, with the same reports, and
so is every node of it read the same as a type, as an expression and as a statement. -/
theorem comments_do_not_show (t : Cst) (h : t.FieldsClear) :
    (∀ (language : Language) (fileName : Option String),
      program t.uncommented language fileName = program t language fileName) ∧
    ∀ u : Cst, u.Within t → (read u.uncommented).attr = (read u).attr := by
  constructor
  · intro language fileName
    have hfile : sourceFile (read t.uncommented).head fileName =
        sourceFile (read t).head fileName := by
      rw [read_uncommented t h, sourceFile, sourceFile, statementsIn_uncommented,
        head_info_uncommented]
    rw [program, program, hfile]
  · intro u hu
    rw [read_uncommented u (h.within hu), attr_uncommented]

/-- `let x /*a*/ : /*b*/ A;`: the type of the variable is its second child once the comment is
out, and the first main child of its clause is the name either way. -/
theorem comments_do_not_show_annotation :
    let leaf (kind text : String) (named : Bool) (start stop : Nat) : Cst :=
      .node () ⟨kind, named, start, stop, text⟩ [] []
    let tree (typePath : Path) (clause declarator : List Cst → List Cst) : Cst :=
      .node () ⟨"program", true, 0, 22, "let x /*a*/ : /*b*/ A;"⟩ []
        [.node () ⟨"lexical_declaration", true, 0, 22, "let x /*a*/ : /*b*/ A;"⟩ []
          [leaf "let" "let" false 0 3,
            .node () ⟨"variable_declarator", true, 4, 21, "x /*a*/ : /*b*/ A"⟩
              [("name", [0]), ("type", typePath)]
              (leaf "identifier" "x" true 4 5 :: declarator
                [.node () ⟨"type_annotation", true, 12, 21, ": /*b*/ A"⟩ []
                  (leaf ":" ":" false 12 13 :: clause [leaf "type_identifier" "A" true 20 21])]),
            leaf ";" ";" false 21 22]]
    let commented : Cst :=
      tree [2] (leaf "comment" "/*b*/" true 14 19 :: ·) (leaf "comment" "/*a*/" true 6 11 :: ·)
    commented.FieldsClear ∧ commented.uncommented = tree [1] id id ∧
      program commented.uncommented .typeScript none = program commented .typeScript none := by
  intro leaf tree commented
  have hclear : commented.FieldsClear := by
    simp only [commented, tree, leaf, FieldsClear, forall_within_node_iff, head, Ordered.get?,
      List.forall_mem_cons, List.not_mem_nil, false_imp_iff, implies_true, and_true, true_and,
      reduceCtorEq]
    intro name path hpath c hc
    obtain rfl | rfl : path = [0] ∨ path = [2] := by grind
    · obtain rfl := List.mem_singleton.mp hc
      rfl
    · obtain rfl := List.mem_singleton.mp hc
      rfl
  exact ⟨hclear, rfl, (comments_do_not_show commented hclear).1 .typeScript none⟩

end DeclTree.Lower
