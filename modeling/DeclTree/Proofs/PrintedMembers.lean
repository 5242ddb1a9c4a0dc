import DeclTree.Proofs.LoweredShape
import DeclTree.Proofs.PrintedTerms

/-!
# The printed text of object types

A member of an object type is printed as its name, its question mark, its parameters and its
type. The type parameters of a method, a call or a construct signature are read but not
printed. So an object type that is laid out as it is printed comes back without them
(`object_type_loses_type_parameters`): it is printed as its own source text exactly when no
member has any.
-/

namespace DeclTree.Lower

open SourceText

variable {kinds : KindTable} {m : Cst}

/-! ### Parts of a member -/

/-- A type is printed as it stands in the source. -/
def PrintsOwnText (kinds : KindTable) (t : Cst) : Prop := printed kinds (typeOf (read t)) = t.text

theorem texts_of_printsOwnText {o : Option Cst} (h : ∀ c, o = some c → PrintsOwnText kinds c) :
    (o.map fun c => printed kinds (typeOf (read c))) = o.map (·.text) :=
  Option.map_congr h

/-- A parameter that binds an identifier, laid out as it is printed. -/
inductive IdentifierParameter (kinds : KindTable) : Cst → Prop
  /-- in an untyped language -/
  | bare {p : Cst} (hkind : p.kind = "identifier") : IdentifierParameter kinds p
  | marked {p name : Cst} {rest : Bool}
      (hkind : p.kind ∈ ["required_parameter", "optional_parameter"])
      (hbinding : binding? p = some (rest, name)) (hname : name.kind ∈ ["identifier", "this"])
      (htype : ∀ c, clause? p "type" = some c → PrintsOwnText kinds c)
      (htext : p.text = (if rest then "..." else "") ++ name.text ++
        (if p.kind = "optional_parameter" then "?" else "") ++
        ledBy ": " ((clause? p "type").map (·.text))) : IdentifierParameter kinds p

theorem IdentifierParameter.text_eq {p : Cst} (h : IdentifierParameter kinds p) :
    printed kinds (parameter (read p)) = p.text := by
  cases h with
  | bare hkind => exact (shows_bareParameter hkind).text_eq
  | marked hkind hbinding hname htype htext =>
    have hne : p.kind ≠ "identifier" := by
      intro heq
      rw [heq] at hkind
      exact absurd hkind (by decide)
    rw [htext, ← texts_of_printsOwnText htype]
    exact (shows_parameter hne hbinding hname).text_eq

/-- The type after the parameters of a signature. -/
def result? (m : Cst) : Option Cst :=
  ((m.head.field? "return_type").or (m.head.field? "type")).bind (·.head.firstMain?)

theorem returnType?_read (m : Cst) :
    returnType? (read m).head = (result? m).map fun c => typeOf (read c) := by
  rw [returnType?, result?, field?_read, field?_read, ← Option.map_or]
  cases (m.head.field? "return_type").or (m.head.field? "type") with
  | none => rfl
  | some clause => simp [clauseType?, Function.comp_def]

theorem isNull_result {v : Json} (h : ((result? m).map fun c => typeOf (read c)) = some v) :
    v.isNull = false := by
  obtain ⟨c, -, rfl⟩ := Option.map_eq_some_iff.mp h
  exact isNull_typeOf c

/-- The name of a member as it is read. -/
def memberName? (m : Cst) : Option Json :=
  (m.head.field? "name").map fun c => propertyName (read c)

theorem memberName?_read (m : Cst) :
    ((read m).head.field? "name").map propertyName = memberName? m := by
  rw [field?_read, Option.map_map]
  rfl

theorem isNull_memberName {v : Json} (h : memberName? m = some v) : v.isNull = false := by
  rw [← memberName?_read] at h
  have hplaced := (inPlaceBelow_read m).fieldName v h
  cases v with
  | null => exact absurd rfl hplaced.ne_null
  | _ => rfl

/-- A plain name is printed as it stands in the source. -/
theorem printed_plainName {c : Cst}
    (hform : Ordered.get? expressionForms c.kind = some .identifier) :
    printed kinds (propertyName (read c)) = c.text := by
  have hplain : c.kind ≠ "computed_property_name" := by
    intro heq
    rw [heq] at hform
    cases hform
  rw [propertyName, kind_read, if_neg (by simpa using hplain)]
  exact (shows_name hform).text_eq

/-! ### Drafts of members -/

section Drafts

variable {d : Draft}

theorem field?_named (name : Option Json) (optional : Bool) {key : String}
    (h : key ∉ ["name", "questionToken"]) :
    ((d.put? "name" name).optional optional).build.field? key = d.build.field? key := by
  simp only [List.mem_cons, List.not_mem_nil, or_false, not_or] at h
  rw [Draft.optional, Draft.field?_mark_of_ne _ _ _ (Ne.symm h.2),
    Draft.field?_put?_of_ne _ _ (Ne.symm h.1)]

theorem name_named {name : Option Json} (hname : ∀ v, name = some v → v.isNull = false)
    (hd : d.build.field? "name" = none) (optional : Bool) :
    ((d.put? "name" name).optional optional).build.field? "name" = name := by
  rw [Draft.optional, Draft.field?_mark_of_ne _ _ _ (by decide)]
  exact Draft.field?_put?_self _ hname hd

theorem question_named (name : Option Json) (hd : d.build.field? "questionToken" = none)
    (optional : Bool) :
    (((d.put? "name" name).optional optional).build.field? "questionToken").isSome = optional := by
  refine Draft.isSome_field?_mark_self _ _ optional ?_
  rw [Draft.field?_put?_of_ne _ _ (by decide), hd]

/-- A signature is in three fields and changes no others. -/
theorem field?_putSignature (n : Source) {key : String}
    (h : key ∉ ["typeParameters", "parameters", "type"]) :
    (putSignature d n).build.field? key = d.build.field? key := by
  simp only [List.mem_cons, List.not_mem_nil, or_false, not_or] at h
  rw [putSignature, Draft.field?_put?_of_ne _ _ (Ne.symm h.2.2),
    Draft.field?_putItems_of_ne _ _ (Ne.symm h.2.1), Draft.field?_putSome_of_ne _ _ (Ne.symm h.1)]

theorem parameters_putSignature (m : Cst) :
    itemTexts kinds (putSignature d (read m).head).build "parameters" =
      (parametersIn m).map fun p => printed kinds (parameter (read p)) := by
  rw [itemTexts, putSignature, Draft.field?_put?_of_ne _ _ (by decide),
    Draft.field?_putItems_self, parameters_read]
  simp [Json.array?, Function.comp_def]

theorem type_putSignature (hd : d.build.field? "type" = none) (m : Cst) :
    (putSignature d (read m).head).build.field? "type" =
      (result? m).map fun c => typeOf (read c) := by
  rw [putSignature, returnType?_read]
  refine Draft.field?_put?_self _ (fun _ => isNull_result) ?_
  rw [Draft.field?_putItems_of_ne _ _ (by decide), Draft.field?_putSome_of_ne _ _ (by decide), hd]

/-- What is printed of a signature: its parameters and its result, after whatever its kind starts
with. -/
theorem printed_signature {kind : String} {front : List Piece}
    (hkind : d.build.kind? = some (.string kind)) (hd : d.build.field? "type" = none)
    (hform : form? kind =
      some (.pieces (front ++ [.list "parameters" ", ", .word ")", .led ": " "type"]))) (m : Cst) :
    printed kinds (putSignature d (read m).head).build =
      String.join (front.map (pieceOf kinds (putSignature d (read m).head).build)) ++
        ", ".intercalate ((parametersIn m).map fun p => printed kinds (parameter (read p))) ++ ")" ++
        ledBy ": " ((result? m).map fun c => printed kinds (typeOf (read c))) := by
  have hshown : (putSignature d (read m).head).build.kind? = some (.string kind) :=
    (field?_putSignature _ (by decide)).trans hkind
  rw [printed_pieces hshown hform, List.map_append, String.join_append]
  simp (disch := decide) only [List.map_cons, List.map_nil, String.join_cons, String.join_nil,
    String.append_empty, pieceOf_word, pieceOf_list, pieceOf_led, parameters_putSignature,
    type_putSignature hd, ledBy, Option.map_map, Function.comp_def, String.append_assoc]

end Drafts

/-! ### Members -/

theorem printed_property (hkind : m.kind = "property_signature") :
    printed kinds (typeMember (read m)) =
      ((memberName? m).map (printed kinds)).getD "" ++ (if m.head.hasToken "?" then "?" else "") ++
        ledBy ": " ((clause? m "type").map fun c => printed kinds (typeOf (read c))) := by
  have hread : typeMember (read m) = (((((Draft.new "PropertySignature" m.info).modifiers
      (memberModifiers (read m).head)).put? "name" (memberName? m)).optional
      (m.head.hasToken "?")).put? "type" ((clause? m "type").map fun c => typeOf (read c))).build := by
    simp only [typeMember, kind_read, hkind, beq_self_eq_true, if_true, info_read,
      memberName?_read, hasToken_read, clauseType?_read]
  have hfresh : ∀ {key}, key ∉ ["kind", "pos", "end", "modifiers"] →
      ((Draft.new "PropertySignature" m.info).modifiers
        (memberModifiers (read m).head)).build.field? key = none :=
    Draft.field?_new_modifiers _ _ _
  have hshown : (typeMember (read m)).kind? = some (.string "PropertySignature") := by
    rw [hread, Json.kind?, Draft.field?_put?_of_ne _ _ (by decide), field?_named _ _ (by decide),
      Draft.field?_modifiers _ _ (by decide)]
    rfl
  have htype : (typeMember (read m)).field? "type" =
      (clause? m "type").map fun c => typeOf (read c) := by
    rw [hread]
    refine Draft.field?_put?_self _ (fun _ => isNull_clause) ?_
    rw [field?_named _ _ (by decide), hfresh (by decide)]
  have hname : (typeMember (read m)).field? "name" = memberName? m := by
    rw [hread, Draft.field?_put?_of_ne _ _ (by decide),
      name_named (fun _ => isNull_memberName) (hfresh (by decide))]
  have hquestion : ((typeMember (read m)).field? "questionToken").isSome = m.head.hasToken "?" := by
    rw [hread, Draft.field?_put?_of_ne _ _ (by decide),
      question_named _ (hfresh (by decide))]
  rw [hread] at hshown htype hname hquestion ⊢
  rw [printed_pieces hshown rfl]
  simp (disch := decide) only [List.map_cons, List.map_nil, pieceOf_part, pieceOf_mark,
    pieceOf_led, hname, hquestion, htype, ledBy, Option.map_map, Function.comp_def,
    String.join_cons, String.join_nil, String.append_empty, String.append_assoc]

theorem printed_method (hkind : m.kind = "method_signature") :
    printed kinds (typeMember (read m)) =
      ((memberName? m).map (printed kinds)).getD "" ++ (if m.head.hasToken "?" then "?" else "") ++
        "(" ++ ", ".intercalate ((parametersIn m).map fun p => printed kinds (parameter (read p))) ++
        ")" ++ ledBy ": " ((result? m).map fun c => printed kinds (typeOf (read c))) := by
  have hread : typeMember (read m) = (putSignature (((Draft.new "MethodSignature" m.info).put? "name"
      (memberName? m)).optional (m.head.hasToken "?")) (read m).head).build := by
    simp only [typeMember, kind_read, hkind, info_read, memberName?_read, hasToken_read]
    rfl
  have hname : (typeMember (read m)).field? "name" = memberName? m := by
    rw [hread, field?_putSignature _ (by decide), name_named (fun _ => isNull_memberName) rfl]
  have hquestion : ((typeMember (read m)).field? "questionToken").isSome = m.head.hasToken "?" := by
    rw [hread, field?_putSignature _ (by decide), question_named _ rfl]
  have hshown : (((Draft.new "MethodSignature" m.info).put? "name" (memberName? m)).optional
      (m.head.hasToken "?")).build.kind? = some (.string "MethodSignature") :=
    field?_named _ _ (by decide)
  have htype : (((Draft.new "MethodSignature" m.info).put? "name" (memberName? m)).optional
      (m.head.hasToken "?")).build.field? "type" = none :=
    field?_named _ _ (by decide)
  have hprinted := @printed_signature kinds _ "MethodSignature"
    [.part "name", .mark "questionToken" "?", .word "("] hshown htype rfl m
  rw [hread] at hname hquestion ⊢
  rw [hprinted]
  simp (disch := decide) only [List.map_cons, List.map_nil, pieceOf_part, pieceOf_mark,
    pieceOf_word, hname, hquestion, String.join_cons, String.join_nil, String.append_empty,
    String.append_assoc]

/-- A signature without a name starts with the text that opens its parameters. -/
theorem printed_opened {kind : String} (opening : String)
    (hread : typeMember (read m) = (putSignature (Draft.new kind m.info) (read m).head).build)
    (hform : form? kind = some (.pieces
      [.word (opening ++ "("), .list "parameters" ", ", .word ")", .led ": " "type"])) :
    printed kinds (typeMember (read m)) =
      opening ++ "(" ++
        ", ".intercalate ((parametersIn m).map fun p => printed kinds (parameter (read p))) ++ ")" ++
        ledBy ": " ((result? m).map fun c => printed kinds (typeOf (read c))) := by
  rw [hread, @printed_signature kinds _ kind [.word (opening ++ "(")] rfl rfl hform m]
  simp

/-! ### The layout of members -/

def memberKinds : List String :=
  ["property_signature", "method_signature", "call_signature", "construct_signature"]

/-- The type parameters of a member; a property has none. -/
def generics (m : Cst) : List Cst :=
  if m.kind = "property_signature" then [] else typeParametersIn m

/-- What a member starts with, up to its type parameters. -/
def textBefore (m : Cst) : String :=
  if m.kind = "call_signature" then ""
  else if m.kind = "construct_signature" then "new "
  else ((m.head.field? "name").map (·.text)).getD "" ++ if m.head.hasToken "?" then "?" else ""

/-- The type that a member is annotated with. -/
def annotation? (m : Cst) : Option Cst :=
  if m.kind = "property_signature" then clause? m "type" else result? m

/-- What a member ends with, from its parameters on. -/
def textAfter (m : Cst) : String :=
  (if m.kind = "property_signature" then ""
    else "(" ++ ", ".intercalate ((parametersIn m).map (·.text)) ++ ")") ++
  ledBy ": " ((annotation? m).map (·.text))

/-- The text of a member without its type parameters. -/
def bareText (m : Cst) : String := textBefore m ++ textAfter m

/-- A member in the printer's spacing, with type parameters before its parameters. -/
structure LaidOutMember (kinds : KindTable) (m : Cst) : Prop where
  kind : m.kind ∈ memberKinds
  name : ∀ c, m.head.field? "name" = some c → printed kinds (propertyName (read c)) = c.text
  parameters : ∀ p ∈ parametersIn m, IdentifierParameter kinds p
  type : ∀ c, annotation? m = some c → PrintsOwnText kinds c
  text : m.text = textBefore m ++ inAngles ((generics m).map (·.text)) ++ textAfter m

namespace LaidOutMember

theorem nameText (h : LaidOutMember kinds m) :
    (memberName? m).map (printed kinds) = (m.head.field? "name").map (·.text) := by
  rw [memberName?, Option.map_map]
  exact Option.map_congr h.name

theorem parameterTexts (h : LaidOutMember kinds m) :
    ((parametersIn m).map fun p => printed kinds (parameter (read p))) =
      (parametersIn m).map (·.text) :=
  List.map_congr_left fun p hp => (h.parameters p hp).text_eq

/-- A signature comes to its text without type parameters, whatever stands before these. -/
theorem printed_eq_of_signature (h : LaidOutMember kinds m) (hkind : m.kind ≠ "property_signature")
    (hprinted : printed kinds (typeMember (read m)) = textBefore m ++ "(" ++
      ", ".intercalate ((parametersIn m).map fun p => printed kinds (parameter (read p))) ++ ")" ++
      ledBy ": " ((result? m).map fun c => printed kinds (typeOf (read c)))) :
    printed kinds (typeMember (read m)) = bareText m := by
  have htype := texts_of_printsOwnText h.type
  rw [annotation?, if_neg hkind] at htype
  rw [hprinted, h.parameterTexts, htype, bareText, textAfter, annotation?, if_neg hkind,
    if_neg hkind]
  simp only [String.append_assoc]

/-- A member is printed without its type parameters, whatever its kind. -/
theorem printed_eq (h : LaidOutMember kinds m) :
    printed kinds (typeMember (read m)) = bareText m := by
  have hkind := h.kind
  simp only [memberKinds, List.mem_cons, List.not_mem_nil, or_false] at hkind
  rcases hkind with hkind | hkind | hkind | hkind
  · have htype := texts_of_printsOwnText h.type
    rw [annotation?, if_pos hkind] at htype
    rw [printed_property hkind, h.nameText, htype]
    simp [bareText, textBefore, textAfter, annotation?, hkind]
  · refine h.printed_eq_of_signature (by simp [hkind]) ?_
    rw [printed_method hkind, h.nameText]
    simp [textBefore, hkind]
  · have hread : typeMember (read m) =
        (putSignature (Draft.new "CallSignature" m.info) (read m).head).build := by
      simp only [typeMember, kind_read, hkind, info_read]
      rfl
    refine h.printed_eq_of_signature (by simp [hkind]) ?_
    rw [printed_opened "" hread rfl]
    simp [textBefore, hkind]
  · have hread : typeMember (read m) =
        (putSignature (Draft.new "ConstructSignature" m.info) (read m).head).build := by
      simp only [typeMember, kind_read, hkind, info_read]
      rfl
    refine h.printed_eq_of_signature (by simp [hkind]) ?_
    rw [printed_opened "new " hread rfl]
    simp [textBefore, hkind]

theorem length_text (h : LaidOutMember kinds m) :
    m.text.length = (bareText m).length + (inAngles ((generics m).map (·.text))).length := by
  rw [h.text, bareText]
  simp only [String.length_append]
  omega

/-- Type parameters stand in brackets, so any of them makes a member longer. -/
theorem length_bareText_eq_iff (h : LaidOutMember kinds m) :
    (bareText m).length = m.text.length ↔ generics m = [] := by
  rw [h.length_text]
  cases generics m with
  | nil => simp [inAngles]
  | cons p rest => simp [inAngles]

end LaidOutMember

/-! ### Object types -/

/-- The texts of members in braces. -/
def inBraces : List String → String
  | [] => "\x7b\x7d"
  | texts => "\x7b " ++ "; ".intercalate texts ++ " \x7d"

theorem pieceOf_braced (v : Json) {key : String} (hkey : isCarried key = true) :
    pieceOf kinds v (.braced key) = inBraces (itemTexts kinds v key) := by
  rw [pieceOf, pieceText, items_partsOf v hkey]
  cases itemTexts kinds v key <;> rfl

theorem shows_object {t : Cst} (hkind : t.kind = "object_type") :
    Shows kinds (typeOf (read t)) "TypeLiteral"
      (inBraces (t.head.main.map fun m => printed kinds (typeMember (read m)))) := by
  have hform : Ordered.get? typeForms t.kind = some .object := by
    rw [hkind]
    rfl
  have hread : typeOf (read t) = ((Draft.new "TypeLiteral" t.info).putItems "members"
      (t.head.main.map fun m => typeMember (read m))).build := by
    rw [typeOf, type_read]
    simp only [readType, head_kind_read, hform, head_info_read, typeMembers, main_read,
      List.map_map, Function.comp_def]
  have hshown : (typeOf (read t)).kind? = some (.string "TypeLiteral") := by
    rw [hread]
    exact Draft.field?_putItems_of_ne _ _ (by decide)
  refine ⟨hshown, ?_⟩
  rw [hread] at hshown ⊢
  rw [printed_pieces hshown rfl, List.map_singleton, String.join_cons, String.join_nil,
    String.append_empty, pieceOf_braced _ (by decide), itemTexts, Draft.field?_putItems_self]
  simp [Json.array?, Function.comp_def]

/-- An object type with members, laid out as it is printed. -/
structure LaidOutObject (kinds : KindTable) (t : Cst) : Prop where
  kind : t.kind = "object_type"
  nonempty : t.head.main ≠ []
  members : ∀ m ∈ t.head.main, LaidOutMember kinds m
  text : t.text = inBraces (t.head.main.map (·.text))

theorem LaidOutObject.printed_eq {t : Cst} (h : LaidOutObject kinds t) :
    printed kinds (typeOf (read t)) = inBraces (t.head.main.map bareText) := by
  have htexts : (t.head.main.map fun m => printed kinds (typeMember (read m))) =
      t.head.main.map bareText :=
    List.map_congr_left fun m hm => (h.members m hm).printed_eq
  rw [(shows_object h.kind).text_eq, htexts]

/-- Joining longer texts gives a longer text, unless no text is longer. -/
theorem length_intercalate_map_le {α : Type} (sep : String) {f g : α → String} {xs : List α}
    (h : ∀ x ∈ xs, (f x).length ≤ (g x).length) :
    (sep.intercalate (xs.map f)).length ≤ (sep.intercalate (xs.map g)).length ∧
      ((sep.intercalate (xs.map f)).length = (sep.intercalate (xs.map g)).length ↔
        ∀ x ∈ xs, (f x).length = (g x).length) := by
  induction xs with
  | nil => simp
  | cons x rest ih =>
    have hx := h x List.mem_cons_self
    obtain ⟨hle, heq⟩ := ih fun y hy => h y (List.mem_cons_of_mem x hy)
    cases rest with
    | nil => simpa using hx
    | cons y ys =>
      rw [List.forall_mem_cons, ← heq]
      simp only [List.map_cons, String.intercalate_cons_cons, String.length_append] at hle ⊢
      omega

theorem length_inBraces {texts : List String} (h : texts ≠ []) :
    (inBraces texts).length = ("; ".intercalate texts).length + 4 := by
  cases texts with
  | nil => exact absurd rfl h
  | cons text rest =>
    rw [inBraces, String.length_append, String.length_append]
    · have hends : "\x7b ".length = 2 ∧ " \x7d".length = 2 := by decide
      omega
    · nofun

/-- An object type that is laid out as it is printed is printed without the type parameters of
its members. So it is printed as its own source text exactly when no member has any. -/
theorem object_type_loses_type_parameters (kinds : KindTable) {t : Cst}
    (h : LaidOutObject kinds t) :
    let shown := (Normal.normalize kinds (read t).attr.type).sourceText
    shown = inBraces (t.head.main.map bareText) ∧
      (shown = t.text ↔ ∀ m ∈ t.head.main, generics m = []) := by
  intro shown
  have hshown : shown = inBraces (t.head.main.map bareText) := h.printed_eq
  have hshorter : ∀ m ∈ t.head.main, (bareText m).length ≤ m.text.length := by
    intro m hm
    have hlength := (h.members m hm).length_text
    omega
  refine ⟨hshown, ?_⟩
  constructor
  · intro heq m hm
    -- of equal texts none is shorter, so no member has lost anything
    have hlength : (inBraces (t.head.main.map bareText)).length =
        (inBraces (t.head.main.map (·.text))).length := by rw [← hshown, heq, h.text]
    rw [length_inBraces (by simpa using h.nonempty), length_inBraces (by simpa using h.nonempty),
      Nat.add_right_cancel_iff] at hlength
    have hsame := (length_intercalate_map_le "; " hshorter).2.mp hlength
    exact (h.members m hm).length_bareText_eq_iff.mp (hsame m hm)
  · intro hnone
    have htexts : t.head.main.map bareText = t.head.main.map (·.text) := by
      refine List.map_congr_left fun m hm => ?_
      rw [(h.members m hm).text, hnone m hm, bareText]
      simp [inAngles]
    rw [hshown, h.text, htexts]

/-- A property, a method and a call signature without type parameters are printed as they stand;
a construct signature after them is printed without its own. -/
theorem object_type_loses_type_parameters_construct :
    let node (kind text : String) (fields : List (String × Cst.Path)) (children : List Cst) : Cst :=
      .node () ⟨kind, true, 0, text.length, text⟩ fields children
    let name (text : String) : Cst := node "property_identifier" text [] []
    let question : Cst := .node () ⟨"?", false, 0, 1, "?"⟩ [] []
    let typed := node "type_annotation" ": T" [] [node "type_identifier" "T" [] []]
    let parameters := node "formal_parameters" "(x: T)" []
      [node "required_parameter" "x: T" [("pattern", [0]), ("type", [1])]
        [node "identifier" "x" [] [], typed]]
    let generic := node "type_parameters" "<U>" [] [node "type_parameter" "U" [("name", [0])]
      [node "type_identifier" "U" [] []]]
    let property := node "property_signature" "a?: T" [("name", [0]), ("type", [2])]
      [name "a", question, typed]
    let method := node "method_signature" "f(x: T): T"
      [("name", [0]), ("parameters", [1]), ("return_type", [2])] [name "f", parameters, typed]
    let call := node "call_signature" "(x: T): T" [("parameters", [0]), ("return_type", [1])]
      [parameters, typed]
    let construct := node "construct_signature" "new <U>(x: T): T"
      [("type_parameters", [0]), ("parameters", [1]), ("type", [2])] [generic, parameters, typed]
    let plain := node "object_type" "\x7b a?: T; f(x: T): T; (x: T): T \x7d" [] [property, method, call]
    let whole := node "object_type" "\x7b (x: T): T; new <U>(x: T): T \x7d" [] [call, construct]
    let shown (kinds : KindTable) (t : Cst) : String :=
      (Normal.normalize kinds (read t).attr.type).sourceText
    ∀ kinds : KindTable, LaidOutObject kinds plain ∧ LaidOutObject kinds whole ∧
      shown kinds plain = "\x7b a?: T; f(x: T): T; (x: T): T \x7d" ∧
      shown kinds whole = "\x7b (x: T): T; new (x: T): T \x7d" ∧ shown kinds whole ≠ whole.text := by
  intro node name question typed parameters generic property method call construct plain whole
    shown kinds
  have hname : ∀ text, printed kinds (propertyName (read (name text))) = text :=
    fun _ => printed_plainName rfl
  have htype : PrintsOwnText kinds (node "type_identifier" "T" [] []) := (shows_typeName rfl).text_eq
  have hparameter : ∀ p ∈ parameters.head.main, IdentifierParameter kinds p := by
    refine List.forall_mem_singleton.mpr (.marked (by decide) rfl (by decide) ?_ rfl)
    rintro c ⟨⟩
    exact htype
  have hproperty : LaidOutMember kinds property := by
    refine ⟨by decide, ?_, nofun, ?_, rfl⟩
    · rintro c ⟨⟩
      exact hname "a"
    · rintro c ⟨⟩
      exact htype
  have hmethod : LaidOutMember kinds method := by
    refine ⟨by decide, ?_, hparameter, ?_, rfl⟩
    · rintro c ⟨⟩
      exact hname "f"
    · rintro c ⟨⟩
      exact htype
  have hcall : LaidOutMember kinds call := by
    refine ⟨by decide, nofun, hparameter, ?_, rfl⟩
    rintro c ⟨⟩
    exact htype
  have hconstruct : LaidOutMember kinds construct := by
    refine ⟨by decide, nofun, hparameter, ?_, rfl⟩
    rintro c ⟨⟩
    exact htype
  have hplain : LaidOutObject kinds plain :=
    ⟨rfl, List.cons_ne_nil _ _, List.forall_mem_cons.mpr ⟨hproperty,
      List.forall_mem_cons.mpr ⟨hmethod, List.forall_mem_singleton.mpr hcall⟩⟩, rfl⟩
  have hwhole : LaidOutObject kinds whole :=
    ⟨rfl, List.cons_ne_nil _ _,
      List.forall_mem_cons.mpr ⟨hcall, List.forall_mem_singleton.mpr hconstruct⟩, rfl⟩
  have hback := (object_type_loses_type_parameters kinds hplain).2
  have hlost := object_type_loses_type_parameters kinds hwhole
  refine ⟨hplain, hwhole, ?_, hlost.1, ?_⟩
  · exact hback.mpr (by decide)
  · rw [Ne, hlost.2]
    decide

/-- An object type with a generic method is printed as the one whose method is not generic. -/
theorem generic_method_is_printed_bare :
    let node (kind text : String) (fields : List (String × Cst.Path)) (children : List Cst) : Cst :=
      .node () ⟨kind, true, 0, text.length, text⟩ fields children
    let typed := node "type_annotation" ": T" [] [node "type_identifier" "T" [] []]
    let parameters := node "formal_parameters" "(a: T)" []
      [node "required_parameter" "a: T" [("pattern", [0]), ("type", [1])]
        [node "identifier" "a" [] [], typed]]
    let generic := node "type_parameters" "<T>" [] [node "type_parameter" "T" [("name", [0])]
      [node "type_identifier" "T" [] []]]
    let method := node "method_signature" "f<T>(a: T): T"
      [("name", [0]), ("type_parameters", [1]), ("parameters", [2]), ("return_type", [3])]
      [node "property_identifier" "f" [] [], generic, parameters, typed]
    let t := node "object_type" "\x7b f<T>(a: T): T \x7d" [] [method]
    ∀ kinds : KindTable, LaidOutObject kinds t ∧
      (Normal.normalize kinds (read t).attr.type).sourceText = "\x7b f(a: T): T \x7d" ∧
      (Normal.normalize kinds (read t).attr.type).sourceText ≠ t.text := by
  intro node typed parameters generic method t kinds
  have htype : PrintsOwnText kinds (node "type_identifier" "T" [] []) := (shows_typeName rfl).text_eq
  have hparameter : ∀ p ∈ parameters.head.main, IdentifierParameter kinds p := by
    refine List.forall_mem_singleton.mpr (.marked (by decide) rfl (by decide) ?_ rfl)
    rintro c ⟨⟩
    exact htype
  have hmethod : LaidOutMember kinds method := by
    refine ⟨by decide, ?_, hparameter, ?_, rfl⟩
    · rintro c ⟨⟩
      exact printed_plainName rfl
    · rintro c ⟨⟩
      exact htype
  have hobject : LaidOutObject kinds t :=
    ⟨rfl, List.cons_ne_nil _ _, List.forall_mem_singleton.mpr hmethod, rfl⟩
  have hshown : (Normal.normalize kinds (read t).attr.type).sourceText = "\x7b f(a: T): T \x7d" :=
    hobject.printed_eq
  refine ⟨hobject, hshown, ?_⟩
  rw [hshown]
  decide

end DeclTree.Lower
