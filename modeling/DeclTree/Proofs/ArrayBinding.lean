import DeclTree.Proofs.PrintedDrafts

/-!
# Arrays of types that bind looser than `[]`

A type constructor with an operand at its end binds looser than the `[]` after it. Its text is a
header and then the text of that operand (`text_of_holds`), so an array of such a type and such
a type of an array differ in their texts by parentheses only.

Unions, intersections, function and constructor types get parentheses as elements of an array,
and the two texts are never the same. An operator gets none: an array of `keyof T` and `keyof`
of an array of `T` have one text, and so has every operator on an operand without parentheses
of its own (`array_texts_agree_iff`).
-/

namespace DeclTree.SourceText

open DeclTree.Normal

variable {n : Normal} {kind : String}

/-! ### The text of a node of a kind -/

theorem sourceText_of_kind (h : n.kindName? = some kind) :
    n.sourceText = mappingText n (partsOf n) := by
  cases n with
  | mapping fields => rfl
  | _ => cases h

theorem sourceText_pieces {ps : List Piece} (h : n.kindName? = some kind)
    (hform : form? kind = some (.pieces ps)) :
    n.sourceText = String.join (ps.map (pieceText (partsOf n))) := by
  rw [sourceText_of_kind h, mappingText, h, Option.getD_some, hform]

theorem pieceText_part (n : Normal) (key : String) :
    pieceText (partsOf n) (.part key) = ((n.get? key).map sourceText).getD "" := by
  rw [pieceText, Parts.text, get?_partsOf]
  cases n.get? key <;> rfl

/-- The texts of the items of a part. -/
def itemsIn : Option Normal → List String
  | some (.sequence items) => items.map sourceText
  | _ => []

theorem items_eq_itemsIn (n : Normal) (key : String) :
    Parts.items (partsOf n) key = itemsIn (n.get? key) := by
  rw [Parts.items, get?_partsOf]
  cases n.get? key with
  | none => rfl
  | some part =>
    cases part with
    | sequence items => exact printAll_eq items
    | _ => rfl

theorem pieceText_list (n : Normal) (key sep : String) :
    pieceText (partsOf n) (.list key sep) = sep.intercalate (itemsIn (n.get? key)) := by
  rw [pieceText, items_eq_itemsIn]

theorem pieceText_angled (n : Normal) (key : String) :
    pieceText (partsOf n) (.angled key) = inAngles (itemsIn (n.get? key)) := by
  rw [pieceText, items_eq_itemsIn]
  cases itemsIn (n.get? key) <;> rfl

theorem pieceText_operator {key : String} (h : n.get? key = some (.string kind)) :
    pieceText (partsOf n) (.operator key) = (keyword? kind).getD "" := by
  rw [pieceText, get?_partsOf, h]
  rfl

/-- A node is the array type of an element. -/
structure IsArrayOf (element n : Normal) : Prop where
  kind_eq : n.kindName? = some "ArrayType"
  element_eq : n.get? "elementType" = some element

theorem IsArrayOf.text {element : Normal} (h : IsArrayOf element n) :
    n.sourceText = if needsParens element then "(" ++ element.sourceText ++ ")[]"
      else element.sourceText ++ "[]" := by
  have hform : form? "ArrayType" = some .array := rfl
  rw [sourceText_of_kind h.kind_eq, mappingText, h.kind_eq, Option.getD_some, hform]
  simp only [get?_partsOf, h.element_eq, Option.map_some, node_print]
  rfl

/-! ### Types with an operand at the end -/

/-- A type constructor that binds looser than `[]`, with all that stands before its last operand. -/
inductive Loose where
  | union (first : Normal) (more : List Normal)
  | intersection (first : Normal) (more : List Normal)
  | function (typeParameters parameters : Option Normal)
  | constructor (typeParameters parameters : Option Normal)
  | operator (kind : String)

namespace Loose

/-- A node is what the constructor makes of a last operand. -/
def Holds : Loose → Normal → Normal → Prop
  | union first more, x, n =>
    n.kindName? = some "UnionType" ∧ n.get? "types" = some (.sequence (first :: more ++ [x]))
  | intersection first more, x, n =>
    n.kindName? = some "IntersectionType" ∧
      n.get? "types" = some (.sequence (first :: more ++ [x]))
  | function typeParameters parameters, x, n =>
    n.kindName? = some "FunctionType" ∧ n.get? "typeParameters" = typeParameters ∧
      n.get? "parameters" = parameters ∧ n.get? "type" = some x
  | constructor typeParameters parameters, x, n =>
    n.kindName? = some "ConstructorType" ∧ n.get? "typeParameters" = typeParameters ∧
      n.get? "parameters" = parameters ∧ n.get? "type" = some x
  | operator kind, x, n =>
    n.kindName? = some "TypeOperator" ∧ n.get? "operator" = some (.string kind) ∧
      n.get? "type" = some x

def isOperator : Loose → Bool
  | operator _ => true
  | _ => false

/-- The text before the last operand, but for the blank that ends it. -/
def header : Loose → String
  | union first more => " | ".intercalate ((first :: more).map sourceText) ++ " |"
  | intersection first more => " & ".intercalate ((first :: more).map sourceText) ++ " &"
  | function typeParameters parameters =>
    inAngles (itemsIn typeParameters) ++ "(" ++ ", ".intercalate (itemsIn parameters) ++ ") =>"
  | constructor typeParameters parameters =>
    "new " ++ inAngles (itemsIn typeParameters) ++ "(" ++
      ", ".intercalate (itemsIn parameters) ++ ") =>"
  | operator kind => (keyword? kind).getD ""

theorem text_of_operands {sep : String} (h : n.kindName? = some kind)
    (hform : form? kind = some (.pieces [.list "types" sep])) {first x : Normal}
    {more : List Normal} (htypes : n.get? "types" = some (.sequence (first :: more ++ [x]))) :
    n.sourceText = sep.intercalate ((first :: more).map sourceText) ++ sep ++ x.sourceText := by
  have hfirst : (first :: more).map sourceText ≠ [] := by simp
  have hlast : [x.sourceText] ≠ [] := by simp
  have hitems : itemsIn (n.get? "types") = (first :: more).map sourceText ++ [x.sourceText] := by
    rw [htypes, itemsIn, List.map_append, List.map_singleton]
  rw [sourceText_pieces h hform, List.map_singleton, String.join_cons, String.join_nil,
    String.append_empty, pieceText_list, hitems,
    String.intercalate_append_of_ne_nil hfirst hlast, String.intercalate_singleton]

/-- Type parameters, parameters and a result. -/
theorem text_of_signature {x : Normal} (htype : n.get? "type" = some x) :
    String.join ([Piece.angled "typeParameters", .word "(", .list "parameters" ", ", .word ") => ",
        .part "type"].map (pieceText (partsOf n))) =
      inAngles (itemsIn (n.get? "typeParameters")) ++ "(" ++
        ", ".intercalate (itemsIn (n.get? "parameters")) ++ ") =>" ++ " " ++ x.sourceText := by
  have harrow : pieceText (partsOf n) (.word ") => ") = ") =>" ++ " " := by
    rw [pieceText]
    decide
  have hopen : pieceText (partsOf n) (.word "(") = "(" := rfl
  simp only [List.map_cons, List.map_nil, String.join_cons, String.join_nil, String.append_empty,
    pieceText_angled, pieceText_list, pieceText_part, harrow, hopen, htype, Option.map_some,
    Option.getD_some, String.append_assoc]

theorem text_of_holds {c : Loose} {x : Normal} (h : c.Holds x n) :
    n.sourceText = c.header ++ " " ++ x.sourceText := by
  cases c with
  | union first more =>
    obtain ⟨hkind, htypes⟩ := h
    have hsep : " | " = " |" ++ " " := by decide
    rw [text_of_operands hkind rfl htypes, header, @String.append_assoc _ " |" " ", ← hsep]
  | intersection first more =>
    obtain ⟨hkind, htypes⟩ := h
    have hsep : " & " = " &" ++ " " := by decide
    rw [text_of_operands hkind rfl htypes, header, @String.append_assoc _ " &" " ", ← hsep]
  | function typeParameters parameters =>
    obtain ⟨hkind, rfl, rfl, htype⟩ := h
    rw [sourceText_pieces hkind rfl, text_of_signature htype, header]
  | constructor typeParameters parameters =>
    obtain ⟨hkind, rfl, rfl, htype⟩ := h
    have hnew : pieceText (partsOf n) (.word "new ") = "new " := rfl
    rw [sourceText_pieces hkind rfl, List.map_cons, String.join_cons, text_of_signature htype,
      hnew, header]
    simp only [String.append_assoc]
  | operator kind =>
    obtain ⟨hkind, hoperator, htype⟩ := h
    have hblank : pieceText (partsOf n) (.word " ") = " " := rfl
    rw [sourceText_pieces hkind rfl, header]
    simp only [List.map_cons, List.map_nil, String.join_cons, String.join_nil,
      String.append_empty, pieceText_operator hoperator, pieceText_part, hblank, htype,
      Option.map_some, Option.getD_some, String.append_assoc]

/-- Operators alone get no parentheses as elements of an array. -/
theorem needsParens_of_holds {c : Loose} {x : Normal} (h : c.Holds x n) :
    needsParens n = !c.isOperator := by
  have hparens : ∀ kind, n.kindName? = some kind → needsParens n = looseKinds.contains kind := by
    intro kind hkind
    rw [needsParens, hkind]
  cases c with
  | union first more => exact hparens _ h.1
  | intersection first more => exact hparens _ h.1
  | function typeParameters parameters => exact hparens _ h.1
  | constructor typeParameters parameters => exact hparens _ h.1
  | operator kind => exact hparens _ h.1

end Loose

/-! ### The two texts -/

/-- Before a header that ends with a blank and after it, a parenthesis opens at different places. -/
theorem parens_apart (header text : String) :
    "(" ++ (header ++ " " ++ text) ++ ")[]" ≠ header ++ " " ++ ("(" ++ text ++ ")[]") := by
  intro h
  have hchars : ('(' :: header.toList ++ [' ']) ++ (text.toList ++ [')', '[', ']']) =
      (header.toList ++ [' ', '(']) ++ (text.toList ++ [')', '[', ']']) := by
    simpa using congrArg String.toList h
  have hfront := congrArg List.reverse (List.append_cancel_right hchars)
  simp at hfront

/-- The text with a pair of parentheses more is longer. -/
theorem parens_longer (header text : String) :
    "(" ++ (header ++ text) ++ ")[]" ≠ header ++ (text ++ "[]") ∧
      header ++ text ++ "[]" ≠ header ++ ("(" ++ text ++ ")[]") := by
  have hmarks : "(".length = 1 ∧ ")[]".length = 3 ∧ "[]".length = 2 := by decide
  constructor
  all_goals
    intro h
    have hlength := congrArg String.length h
    simp only [String.length_append] at hlength
    omega

/-- An array of a loose type and the loose type of an array have one text exactly when the type
is an operator and its operand stands without parentheses before `[]`. So whatever the other
operands and the parameters are, an array of a union, of an intersection, of a function type or
of a constructor type is told from its other reading. -/
theorem array_texts_agree_iff (c : Loose) {x inner outer array whole : Normal}
    (hinner : c.Holds x inner) (houter : IsArrayOf inner outer) (harray : IsArrayOf x array)
    (hwhole : c.Holds array whole) :
    outer.sourceText = whole.sourceText ↔ c.isOperator = true ∧ needsParens x = false := by
  have hparens := Loose.needsParens_of_holds hinner
  rw [houter.text, Loose.text_of_holds hinner, Loose.text_of_holds hwhole, harray.text]
  obtain ⟨hlonger, hshorter⟩ := parens_longer (c.header ++ " ") x.sourceText
  by_cases hoperator : c.isOperator = true
  · -- without parentheses of its own, what stands before `[]` is the same text
    rw [hparens, hoperator]
    by_cases hx : needsParens x = true
    · simpa [hx] using hshorter
    · simp [hx, String.append_assoc]
  · have hnone : c.isOperator = false := by simpa using hoperator
    rw [hparens, hnone]
    by_cases hx : needsParens x = true
    · simpa [hx] using parens_apart c.header x.sourceText
    · simpa [hx] using hlonger

/-- An array of a union, one of a function type with a union as its result, and one of `keyof`
before a union are told from their other readings; one of `keyof` before a name is not. -/
theorem array_texts_agree_iff_nested :
    let node (kind : String) (fields : List (String × Normal)) : Normal :=
      .mapping (("kind", .string kind) :: fields)
    let name (text : String) : Normal := node "Identifier" [("text", .string text)]
    let array (element : Normal) : Normal := node "ArrayType" [("elementType", element)]
    let union (last : Normal) : Normal := node "UnionType" [("types", .sequence [name "A", last])]
    let function (result : Normal) : Normal :=
      node "FunctionType" [("parameters", .sequence [name "a"]), ("type", result)]
    let keyof (operand : Normal) : Normal :=
      node "TypeOperator" [("operator", .string "KeyOfKeyword"), ("type", operand)]
    (array (union (name "B"))).sourceText ≠ (union (array (name "B"))).sourceText ∧
      (array (function (union (name "B")))).sourceText ≠
        (function (array (union (name "B")))).sourceText ∧
      (array (keyof (union (name "B")))).sourceText ≠
        (keyof (array (union (name "B")))).sourceText ∧
      (array (keyof (name "B"))).sourceText = (keyof (array (name "B"))).sourceText := by
  intro node name array union function keyof
  have harray : ∀ x, x.isNull = false → IsArrayOf x (array x) := by
    intro x hx
    refine ⟨rfl, ?_⟩
    simp [array, node, get?, Ordered.get?, hx]
  have hfunction : ∀ x, x.isNull = false →
      (Loose.function none (some (.sequence [name "a"]))).Holds x (function x) := by
    intro x hx
    refine ⟨rfl, rfl, rfl, ?_⟩
    simp [function, node, get?, Ordered.get?, hx]
  have hkeyof : ∀ x, x.isNull = false → (Loose.operator "KeyOfKeyword").Holds x (keyof x) := by
    intro x hx
    refine ⟨rfl, rfl, ?_⟩
    simp [keyof, node, get?, Ordered.get?, hx]
  have hunion : ∀ x, (Loose.union (name "A") []).Holds x (union x) := fun _ => ⟨rfl, rfl⟩
  have hoperands := array_texts_agree_iff _ (hunion (name "B")) (harray _ rfl) (harray _ rfl)
    (hunion (array (name "B")))
  have hresult := array_texts_agree_iff _ (hfunction (union (name "B")) rfl) (harray _ rfl)
    (harray _ rfl) (hfunction (array (union (name "B"))) rfl)
  have hoperand := array_texts_agree_iff _ (hkeyof (union (name "B")) rfl) (harray _ rfl)
    (harray _ rfl) (hkeyof (array (union (name "B"))) rfl)
  have hname := array_texts_agree_iff _ (hkeyof (name "B") rfl) (harray _ rfl) (harray _ rfl)
    (hkeyof (array (name "B")) rfl)
  have hloose : needsParens (union (name "B")) = true := rfl
  have htight : needsParens (name "B") = false := rfl
  refine ⟨?_, ?_, ?_, ?_⟩
  · rw [Ne, hoperands]
    simp [Loose.isOperator]
  · rw [Ne, hresult]
    simp [Loose.isOperator]
  · rw [Ne, hoperand]
    simp [hloose]
  · rw [hname]
    exact ⟨rfl, htight⟩

/-- An array of `keyof T` has the text of `keyof` of an array of `T`. -/
theorem keyof_array_is_ambiguous :
    let node (kind : String) (fields : List (String × Normal)) : Normal :=
      .mapping (("kind", .string kind) :: fields)
    let name (text : String) : Normal := node "Identifier" [("text", .string text)]
    let array (element : Normal) : Normal := node "ArrayType" [("elementType", element)]
    let keyof (operand : Normal) : Normal :=
      node "TypeOperator" [("operator", .string "KeyOfKeyword"), ("type", operand)]
    (keyword? "KeyOfKeyword").isSome = true ∧
      array (keyof (name "T")) ≠ keyof (array (name "T")) ∧
      (array (keyof (name "T"))).sourceText = "keyof T[]" ∧
      (keyof (array (name "T"))).sourceText = "keyof T[]" := by
  decide

end DeclTree.SourceText
