import DeclTree.Lower.Draft
import DeclTree.Proofs.PrintedParts

/-!
# The printed text of a draft

`printed` is the source text of a node once it is normalized. For a draft it follows from
the form of its kind: a keyword, its own text, or pieces made of its fields (`printed_pieces`).
The fields of a draft are those that were put into it, so each piece is made from them
(`pieceOf_part` and the lemmas after it).

`Shows` adds the kind of the node, which decides about parentheses around it. The lemmas
`shows_…` give it for the drafts that types and expressions are made of: nodes with one part,
with two and with a sequence, references, dotted names and parameters.
-/

namespace DeclTree

namespace Lower.Draft

variable (d : Draft)

theorem field?_new (kind : String) (info : Cst.Info) {key : String}
    (h : key ∉ ["kind", "pos", "end"]) : (Draft.new kind info).build.field? key = none := by
  simp only [List.mem_cons, List.not_mem_nil, or_false, not_or] at h
  obtain ⟨hkind, hpos, hend⟩ := h
  simp [Json.field?, Json.get?, build, Draft.new, Ordered.get?, Ne.symm hkind, Ne.symm hpos,
    Ne.symm hend]

theorem field?_put_of_ne (v : Json) {key k : String} (h : key ≠ k) :
    (d.put key v).build.field? k = d.build.field? k := by
  have hget : (d.put key v).build.get? k = d.build.get? k :=
    (Ordered.get?_put d.fields key k v).trans (if_neg h)
  rw [Json.field?, Json.field?, hget]

theorem field?_put_self {v : Json} (hv : v.isNull = false) (key : String) :
    (d.put key v).build.field? key = some v := by
  have hget : (d.put key v).build.get? key = some v :=
    (Ordered.get?_put d.fields key key v).trans (if_pos rfl)
  rw [Json.field?, hget, Option.filter_some, hv]
  rfl

theorem put?_some (key : String) (v : Json) : d.put? key (some v) = d.put key v := rfl

theorem field?_put?_of_ne (o : Option Json) {key k : String} (h : key ≠ k) :
    (d.put? key o).build.field? k = d.build.field? k := by
  cases o with
  | none => rfl
  | some v => exact field?_put_of_ne d v h

theorem field?_put?_self {o : Option Json} (ho : ∀ v, o = some v → v.isNull = false)
    {key : String} (hd : d.build.field? key = none) : (d.put? key o).build.field? key = o := by
  cases o with
  | none => exact hd
  | some v => exact field?_put_self d (ho v rfl) key

theorem field?_putItems_of_ne (items : List Json) {key k : String} (h : key ≠ k) :
    (d.putItems key items).build.field? k = d.build.field? k :=
  field?_put_of_ne d _ h

theorem field?_putItems_self (items : List Json) (key : String) :
    (d.putItems key items).build.field? key = some (.array items) :=
  field?_put_self d rfl key

theorem field?_putSome_of_ne (items : List Json) {key k : String} (h : key ≠ k) :
    (d.putSome key items).build.field? k = d.build.field? k := by
  cases items with
  | nil => rfl
  | cons v rest => exact field?_putItems_of_ne d (v :: rest) h

theorem array?_putSome_self (items : List Json) {key : String} (hd : d.build.field? key = none) :
    (((d.putSome key items).build.field? key).bind Json.array?).getD [] = items := by
  cases items with
  | nil => exact congrArg (fun o => (o.bind Json.array?).getD []) hd
  | cons v rest =>
    exact congrArg (fun o => (o.bind Json.array?).getD [])
      (field?_putItems_self d (v :: rest) key)

theorem field?_modifiers (kinds : List String) {k : String} (h : "modifiers" ≠ k) :
    (d.modifiers kinds).build.field? k = d.build.field? k :=
  field?_putSome_of_ne d _ h

theorem field?_new_modifiers (kind : String) (info : Cst.Info) (modifiers : List String)
    {key : String} (h : key ∉ ["kind", "pos", "end", "modifiers"]) :
    ((Draft.new kind info).modifiers modifiers).build.field? key = none := by
  have hne : "modifiers" ≠ key := by
    rintro rfl
    exact h (by decide)
  have hnew : key ∉ ["kind", "pos", "end"] := fun hmem => h (List.mem_append_left ["modifiers"] hmem)
  rw [field?_modifiers _ modifiers hne, field?_new _ _ hnew]

theorem field?_mark_of_ne (kind : String) (on : Bool) {key k : String} (h : key ≠ k) :
    (d.mark key kind on).build.field? k = d.build.field? k := by
  cases on with
  | false => rfl
  | true => exact field?_put_of_ne d _ h

theorem isSome_field?_mark_self (kind : String) (on : Bool) {key : String}
    (hd : d.build.field? key = none) : ((d.mark key kind on).build.field? key).isSome = on := by
  cases on with
  | false => exact congrArg Option.isSome hd
  | true => exact congrArg Option.isSome (@field?_put_self d (token kind) rfl key)

end Lower.Draft

namespace SourceText

variable {kinds : KindTable}

/-- The source text of a node once it is normalized. -/
def printed (kinds : KindTable) (v : Json) : String := (Normal.normalize kinds v).sourceText

/-- The texts of the items of a field. -/
def itemTexts (kinds : KindTable) (v : Json) (key : String) : List String :=
  (((v.field? key).bind Json.array?).getD []).map (printed kinds)

/-- The text of a piece of a node that is yet to be normalized. -/
def pieceOf (kinds : KindTable) (v : Json) : Piece → String :=
  pieceText (partsOf (.normalize kinds v))

@[simp] theorem pieceOf_word (v : Json) (s : String) : pieceOf kinds v (.word s) = s := rfl

theorem pieceOf_part (v : Json) {key : String} (hkey : isCarried key = true) :
    pieceOf kinds v (.part key) = ((v.field? key).map (printed kinds)).getD "" := by
  rw [pieceOf, pieceText, Parts.text, get?_partsOf_normalize v hkey]
  cases v.field? key <;> rfl

theorem pieceOf_led (v : Json) (lead : String) {key : String} (hkey : isCarried key = true) :
    pieceOf kinds v (.led lead key) = ((v.field? key).map fun u => lead ++ printed kinds u).getD "" := by
  rw [pieceOf, pieceText, Parts.text, get?_partsOf_normalize v hkey]
  cases v.field? key <;> rfl

theorem pieceOf_mark (v : Json) {key : String} (hkey : isCarried key = true) (s : String) :
    pieceOf kinds v (.mark key s) = if (v.field? key).isSome then s else "" := by
  rw [pieceOf, pieceText, get?_partsOf_normalize v hkey, Option.isSome_map]

theorem items_print (u : Json) :
    (print (.normalize kinds u)).items = ((u.array?).getD []).map (printed kinds) := by
  cases u with
  | array items =>
    rw [Normal.normalize, print, printAll_eq, Normal.normalizeAll_eq, List.map_map]
    rfl
  | object fields =>
    rw [print_normalize_object]
    rfl
  | _ => rfl

theorem items_partsOf (v : Json) {key : String} (hkey : isCarried key = true) :
    Parts.items (partsOf (.normalize kinds v)) key = itemTexts kinds v key := by
  rw [Parts.items, get?_partsOf_normalize v hkey, itemTexts]
  cases v.field? key with
  | none => rfl
  | some u => exact items_print u

theorem pieceOf_list (v : Json) {key : String} (hkey : isCarried key = true) (sep : String) :
    pieceOf kinds v (.list key sep) = sep.intercalate (itemTexts kinds v key) := by
  rw [pieceOf, pieceText, items_partsOf v hkey]

/-- Texts in angle brackets, unless there are none. -/
def inAngles : List String → String
  | [] => ""
  | texts => "<" ++ ", ".intercalate texts ++ ">"

theorem pieceOf_angled (v : Json) {key : String} (hkey : isCarried key = true) :
    pieceOf kinds v (.angled key) = inAngles (itemTexts kinds v key) := by
  rw [pieceOf, pieceText, items_partsOf v hkey]
  cases itemTexts kinds v key <;> rfl

theorem pieceOf_operator (v : Json) {key kind : String} (hkey : isCarried key = true)
    (h : v.field? key = some (.string kind)) :
    pieceOf kinds v (.operator key) = (keyword? kind).getD "" := by
  rw [pieceOf, pieceText, get?_partsOf_normalize v hkey, h]
  rfl

section Forms

variable {d : Lower.Draft} {kind : String}

theorem printed_build (d : Lower.Draft) :
    printed kinds d.build =
      mappingText (.normalize kinds d.build) (partsOf (.normalize kinds d.build)) :=
  congrArg Printed.text (print_normalize_object d.fields)

theorem kindName?_build (h : d.build.kind? = some (.string kind)) :
    (Normal.normalize kinds d.build).kindName? = some kind := by
  rw [Normal.kindName?_normalize, h]
  rfl

theorem printed_keyword (hkind : d.build.kind? = some (.string kind)) {s : String}
    (hform : form? kind = some (.keyword s)) : printed kinds d.build = s := by
  rw [printed_build, mappingText, kindName?_build hkind, Option.getD_some, hform]

theorem printed_own (hkind : d.build.kind? = some (.string kind)) (hform : form? kind = some .own)
    {s : String} (htext : d.build.writtenText? = some s) : printed kinds d.build = s := by
  rw [printed_build, mappingText, kindName?_build hkind, Option.getD_some, hform]
  simp only [Normal.text?_normalize, htext, Option.getD_some]

theorem printed_quoted (hkind : d.build.kind? = some (.string kind))
    (hform : form? kind = some .quoted) {s : String} (htext : d.build.writtenText? = some s) :
    printed kinds d.build = quote s := by
  rw [printed_build, mappingText, kindName?_build hkind, Option.getD_some, hform]
  simp only [Normal.text?_normalize, htext, Option.getD_some]

theorem printed_plain (hkind : d.build.kind? = some (.string kind)) (hform : form? kind = none)
    {s : String} (htext : d.build.writtenText? = some s) : printed kinds d.build = s := by
  rw [printed_build, mappingText, kindName?_build hkind, Option.getD_some, hform]
  simp only [plainText, Normal.text?_normalize, htext, Option.getD_some]

theorem printed_pieces (hkind : d.build.kind? = some (.string kind)) {ps : List Piece}
    (hform : form? kind = some (.pieces ps)) :
    printed kinds d.build = String.join (ps.map (pieceOf kinds d.build)) := by
  rw [printed_build, mappingText, kindName?_build hkind, Option.getD_some, hform]
  rfl

theorem printed_reference (hkind : d.build.kind? = some (.string kind))
    (hform : form? kind = some .reference) {target : Json}
    (htarget : d.build.field? "typeName" = some target) :
    printed kinds d.build =
      printed kinds target ++ inAngles (itemTexts kinds d.build "typeArguments") := by
  rw [printed_build, mappingText, kindName?_build hkind, Option.getD_some, hform,
    ← pieceOf_angled d.build (by decide)]
  simp only [get?_partsOf_normalize d.build (by decide : isCarried "typeName" = true), htarget,
    Option.map_some, Option.some_or]
  rfl

/-- An element type that binds as tight as `[]` stands without parentheses. -/
theorem printed_array (hkind : d.build.kind? = some (.string kind))
    (hform : form? kind = some .array) {element : Json}
    (helement : d.build.field? "elementType" = some element)
    (htight : needsParens (.normalize kinds element) = false) :
    printed kinds d.build = printed kinds element ++ "[]" := by
  rw [printed_build, mappingText, kindName?_build hkind, Option.getD_some, hform]
  simp only [get?_partsOf_normalize d.build (by decide : isCarried "elementType" = true), helement,
    Option.map_some, node_print, htight, Bool.false_eq_true, if_false]
  rfl

end Forms

theorem ne_kind_of_isCarried {key : String} (h : isCarried key = true) : key ≠ "kind" := by
  intro hkind
  subst hkind
  cases h

/-- A node has a kind and prints as a text. -/
structure Shows (kinds : KindTable) (v : Json) (kind text : String) : Prop where
  kind_eq : v.kind? = some (.string kind)
  text_eq : printed kinds v = text

namespace Shows

variable {v : Json} {kind text : String}

theorem isNull (h : Shows kinds v kind text) : v.isNull = false := by
  cases v with
  | null => cases h.kind_eq
  | _ => rfl

theorem needsParens (h : Shows kinds v kind text) (hkind : kind ∉ looseKinds) :
    SourceText.needsParens (.normalize kinds v) = false := by
  rw [SourceText.needsParens, Normal.kindName?_normalize, h.kind_eq]
  simpa [KindTable.kindName?] using hkind

end Shows

open Lower

section Shapes

variable (info : Cst.Info) {shown key key' before between after kind kind' text text' : String}
  {ps : List Piece} {v v' : Json}

/-- A node with one part, when its pieces come to that part between two texts. -/
theorem shows_single (hkey : isCarried key = true) (hps : form? shown = some (.pieces ps))
    (hjoin : ∀ u, String.join (ps.map (pieceOf kinds u)) =
      before ++ pieceOf kinds u (.part key) ++ after) (h : Shows kinds v kind text) :
    Shows kinds ((Draft.new shown info).put key v).build shown (before ++ text ++ after) := by
  have hkind : ((Draft.new shown info).put key v).build.kind? = some (.string shown) :=
    Draft.field?_put_of_ne _ v (ne_kind_of_isCarried hkey)
  refine ⟨hkind, ?_⟩
  rw [printed_pieces hkind hps, hjoin, pieceOf_part _ hkey, Draft.field?_put_self _ h.isNull,
    Option.map_some, Option.getD_some, h.text_eq]

/-- A node with two parts, when its pieces come to these parts with a text after each. -/
theorem shows_pair (hkey : isCarried key = true) (hkey' : isCarried key' = true)
    (hne : key' ≠ key) (hps : form? shown = some (.pieces ps))
    (hjoin : ∀ u, String.join (ps.map (pieceOf kinds u)) =
      pieceOf kinds u (.part key) ++ between ++ pieceOf kinds u (.part key') ++ after)
    (h : Shows kinds v kind text) (h' : Shows kinds v' kind' text') :
    Shows kinds (((Draft.new shown info).put key v).put key' v').build shown
      (text ++ between ++ text' ++ after) := by
  have hkind : (((Draft.new shown info).put key v).put key' v').build.kind? =
      some (.string shown) := by
    rw [Json.kind?, Draft.field?_put_of_ne _ v' (ne_kind_of_isCarried hkey'),
      Draft.field?_put_of_ne _ v (ne_kind_of_isCarried hkey)]
    rfl
  refine ⟨hkind, ?_⟩
  rw [printed_pieces hkind hps, hjoin, pieceOf_part _ hkey, pieceOf_part _ hkey',
    Draft.field?_put_of_ne _ v' hne, Draft.field?_put_self _ h.isNull,
    Draft.field?_put_self _ h'.isNull, Option.map_some, Option.map_some, Option.getD_some,
    Option.getD_some, h.text_eq, h'.text_eq]

/-- A node with a sequence, when its pieces come to its items between two texts. -/
theorem shows_items {sep : String} (items : List Json) (hkey : isCarried key = true)
    (hps : form? shown = some (.pieces ps))
    (hjoin : ∀ u, String.join (ps.map (pieceOf kinds u)) =
      before ++ pieceOf kinds u (.list key sep) ++ after) :
    Shows kinds ((Draft.new shown info).putItems key items).build shown
      (before ++ sep.intercalate (items.map (printed kinds)) ++ after) := by
  have hkind : ((Draft.new shown info).putItems key items).build.kind? = some (.string shown) :=
    Draft.field?_putItems_of_ne _ items (ne_kind_of_isCarried hkey)
  refine ⟨hkind, ?_⟩
  rw [printed_pieces hkind hps, hjoin, pieceOf_list _ hkey, itemTexts, Draft.field?_putItems_self]
  rfl

end Shapes

theorem shows_reference (info : Cst.Info) {target : Json} {kind text : String}
    (h : Shows kinds target kind text) (arguments : List Json) :
    Shows kinds (((Draft.new "TypeReference" info).put "typeName" target).putSome "typeArguments"
      arguments).build "TypeReference" (text ++ inAngles (arguments.map (printed kinds))) := by
  have hkind : (((Draft.new "TypeReference" info).put "typeName" target).putSome "typeArguments"
      arguments).build.kind? = some (.string "TypeReference") :=
    Draft.field?_putSome_of_ne _ arguments (by decide)
  have htarget : (((Draft.new "TypeReference" info).put "typeName" target).putSome "typeArguments"
      arguments).build.field? "typeName" = some target := by
    rw [Draft.field?_putSome_of_ne _ arguments (by decide), Draft.field?_put_self _ h.isNull]
  refine ⟨hkind, ?_⟩
  rw [printed_reference hkind rfl htarget, h.text_eq, itemTexts,
    Draft.array?_putSome_self _ arguments rfl]

theorem shows_bareReference (info : Cst.Info) {target : Json} {kind text : String}
    (h : Shows kinds target kind text) :
    Shows kinds ((Draft.new "TypeReference" info).put "typeName" target).build "TypeReference"
      text := by
  have hshows := shows_reference info h []
  rwa [List.map_nil, inAngles, String.append_empty] at hshows

theorem shows_identifierNamed (info : Cst.Info) (text : String) :
    Shows kinds (identifierNamed info text) "Identifier" text :=
  ⟨rfl, printed_own rfl rfl rfl⟩

theorem shows_identifier (info : Cst.Info) :
    Shows kinds (identifier info) "Identifier" info.text :=
  shows_identifierNamed info info.text

/-- A node that keeps only its text prints it, unless its kind has a form of its own. -/
theorem shows_textOnly {info : Cst.Info} (h : form? (compilerKind info.kind) = none) :
    Shows kinds (textOnly info) (compilerKind info.kind) info.text :=
  ⟨rfl, printed_plain rfl h rfl⟩

/-- Each further segment of a dotted name is printed after a dot. -/
theorem shows_qualified (info : Cst.Info) {left : Json} {kind text : String}
    (hkind : kind ∉ looseKinds) (h : Shows kinds left kind text) (rest : List String) :
    ∃ kind, kind ∉ looseKinds ∧ Shows kinds (rest.foldl (fun left right =>
        (((Draft.new "QualifiedName" info).put "left" left).put "right"
          (identifierNamed info right)).build) left) kind (".".intercalate (text :: rest)) := by
  induction rest generalizing left kind text with
  | nil =>
    rw [String.intercalate_singleton]
    exact ⟨kind, hkind, h⟩
  | cons right rest ih =>
    have hpair : Shows kinds (((Draft.new "QualifiedName" info).put "left" left).put "right"
        (identifierNamed info right)).build "QualifiedName" (text ++ "." ++ right ++ "") :=
      shows_pair info (by decide) (by decide) (by decide) rfl
        (by simp [String.append_assoc]) h (shows_identifierNamed info right)
    obtain ⟨kind', hkind', hshows⟩ := ih (by decide) hpair
    refine ⟨kind', hkind', ?_⟩
    -- the first two segments, joined, stand where the first one stood
    rwa [String.append_empty, String.intercalate_cons_append, ← String.intercalate_cons_cons]
      at hshows

/-- Segments with a dot between them. -/
def IsDotted (text : String) : Prop :=
  ∃ names : List String, names ≠ [] ∧ (∀ s ∈ names, IsSegment s) ∧ text = ".".intercalate names

theorem shows_entityName {info : Cst.Info} (h : IsDotted info.text) :
    ∃ kind, kind ∉ looseKinds ∧ Shows kinds (entityName info) kind info.text := by
  obtain ⟨names, hne, hnames, htext⟩ := h
  have hsegments : segments info.text = names := by rw [htext, segments_intercalate hne hnames]
  rw [entityName, hsegments]
  cases names with
  | nil => exact absurd rfl hne
  | cons first rest =>
    rw [htext]
    exact shows_qualified info (by decide) (shows_identifierNamed info first) rest

/-- A text after a lead, unless it is absent. -/
def ledBy (lead : String) (text : Option String) : String := (text.map (lead ++ ·)).getD ""

/-- A parameter prints as its name between its marks and before its type. What else it holds,
its modifiers and its initializer, is not printed. -/
theorem shows_parameterDraft {d : Draft} (hkind : d.build.kind? = some (.string "Parameter"))
    (habsent : ∀ key ∈ ["dotDotDotToken", "questionToken", "type"], d.build.field? key = none)
    (rest optional : Bool) {name : Json} {kind text : String} (hname : Shows kinds name kind text)
    (type : Option Json) (htype : ∀ v, type = some v → v.isNull = false)
    (initializer : Option Json) :
    Shows kinds (((((d.mark "dotDotDotToken" "DotDotDotToken" rest).put "name" name).optional
        optional).put? "type" type).put? "initializer" initializer).build "Parameter"
      ((if rest then "..." else "") ++ text ++ (if optional then "?" else "") ++
        ledBy ": " (type.map (printed kinds))) := by
  have hshown : (((((d.mark "dotDotDotToken" "DotDotDotToken" rest).put "name" name).optional
      optional).put? "type" type).put? "initializer" initializer).build.kind? =
      some (.string "Parameter") := by
    simp (disch := decide) only [Json.kind?, Draft.optional, Draft.field?_put?_of_ne,
      Draft.field?_mark_of_ne, Draft.field?_put_of_ne]
    exact hkind
  have hrest : ((d.mark "dotDotDotToken" "DotDotDotToken" rest).build.field?
      "dotDotDotToken").isSome = rest :=
    Draft.isSome_field?_mark_self d _ rest (habsent "dotDotDotToken" (by decide))
  have hoptional : ((((d.mark "dotDotDotToken" "DotDotDotToken" rest).put "name" name).mark
      "questionToken" "QuestionToken" optional).build.field? "questionToken").isSome = optional := by
    refine Draft.isSome_field?_mark_self _ _ optional ?_
    rw [Draft.field?_put_of_ne _ _ (by decide), Draft.field?_mark_of_ne _ _ _ (by decide),
      habsent "questionToken" (by decide)]
  have htyped : (((((d.mark "dotDotDotToken" "DotDotDotToken" rest).put "name" name).mark
      "questionToken" "QuestionToken" optional)).put? "type" type).build.field? "type" = type := by
    refine Draft.field?_put?_self _ htype ?_
    rw [Draft.field?_mark_of_ne _ _ _ (by decide), Draft.field?_put_of_ne _ _ (by decide),
      Draft.field?_mark_of_ne _ _ _ (by decide), habsent "type" (by decide)]
  refine ⟨hshown, ?_⟩
  rw [printed_pieces hshown rfl]
  simp (disch := decide) only [List.map_cons, List.map_nil, pieceOf_part, pieceOf_mark,
    pieceOf_led, Draft.optional, Draft.field?_put?_of_ne, Draft.field?_mark_of_ne,
    Draft.field?_put_of_ne, Draft.field?_put_self _ hname.isNull, hrest, hoptional, htyped,
    Option.map_some, Option.getD_some, hname.text_eq, ledBy, Option.map_map, Function.comp_def,
    String.join_cons, String.join_nil, String.append_empty, String.append_assoc]

theorem kind?_modified (info : Cst.Info) (modifiers : List String) :
    ((Draft.new "Parameter" info).modifiers modifiers).build.kind? = some (.string "Parameter") :=
  Draft.field?_modifiers _ modifiers (by decide)

theorem field?_modified (info : Cst.Info) (modifiers : List String) :
    ∀ key ∈ ["dotDotDotToken", "questionToken", "type"],
      ((Draft.new "Parameter" info).modifiers modifiers).build.field? key = none := by
  have hfresh : ∀ key ∈ ["dotDotDotToken", "questionToken", "type"],
      key ∉ ["kind", "pos", "end", "modifiers"] := by decide
  intro key hkey
  exact Draft.field?_new_modifiers _ info modifiers (hfresh key hkey)

end SourceText

end DeclTree
