import DeclTree.Proofs.PrintedTerms

/-!
# Printing back what was read

A type or an expression whose source is laid out as the printer lays it out is printed as
it stands in the source. `LaidOut` says for each kind of node what its text is made of: the
texts of its parts, each laid out in turn, and the printer's own separators between them.
The main statement, `laid_out_is_printed_back`, is by induction on the layout, with one of
the lemmas `shows_…` for each rule.
-/

namespace DeclTree.Lower

open SourceText

/-- How a node is read inside a type or an expression. -/
inductive Role where
  | type
  | expression
  | parameter
  | typeParameter

def readingOf : Role → Part → Json
  | .type => typeOf
  | .expression => expressionOf
  | .parameter => parameter
  | .typeParameter => typeParameter

/-- Kinds of types that bind looser than `[]` after them. -/
def looseTypes : List String :=
  ["union_type", "intersection_type", "function_type", "constructor_type"]

def identifierKinds : List String := [
  "identifier", "property_identifier", "shorthand_property_identifier", "type_identifier",
  "undefined"]

/-- Kinds of other expressions that are their own text. -/
def ownTextKinds : List String := ["private_property_identifier", "number", "regex"]

/-- Kinds of expressions that are one word. -/
def wordKinds : List String := ["true", "false", "null", "this", "super"]

/-- The text of a node is made of the texts of its parts and the printer's own separators, and so
is the text of each part. -/
inductive LaidOut : Role → Cst → Prop
  /-- A node that keeps only its text, of a kind that has no form of its own. -/
  | verbatim {role : Role} {t : Cst} (hread : readingOf role (read t) = textOnly t.info)
      (hform : form? (compilerKind t.kind) = none) : LaidOut role t
  | predefined {t : Cst} (hkind : t.kind = "predefined_type")
      (htext : t.text ∈ Ordered.keys predefined) : LaidOut .type t
  | typeName {t : Cst} (hkind : t.kind ∈ ["type_identifier", "identifier"]) : LaidOut .type t
  | dottedType {t : Cst} (hkind : t.kind = "nested_type_identifier") (htext : IsDotted t.text) :
      LaidOut .type t
  | generic {t name : Cst} (hkind : t.kind = "generic_type")
      (hname : t.head.field? "name" = some name) (hdotted : IsDotted name.text)
      (harguments : ∀ c ∈ typeArgumentsIn t, LaidOut .type c)
      (htext : t.text = name.text ++ inAngles ((typeArgumentsIn t).map (·.text))) : LaidOut .type t
  | array {t element : Cst} (hkind : t.kind = "array_type")
      (helement : t.head.firstMain? = some element) (htight : element.kind ∉ looseTypes)
      (hinner : LaidOut .type element) (htext : t.text = element.text ++ "[]") : LaidOut .type t
  /-- There is an operand, so that merging the operands of one kind leaves none of them out. -/
  | operands {t : Cst} {sep : String} (hkind : (t.kind, sep) ∈ separators)
      (hsome : t.head.main ≠ []) (hmain : ∀ c ∈ t.head.main, LaidOut .type c)
      (htext : t.text = sep.intercalate (t.head.main.map (·.text))) : LaidOut .type t
  | enclosed {t inner : Cst} {before after : String} (hkind : (t.kind, before, after) ∈ enclosures)
      (hmain : t.head.firstMain? = some inner) (hinner : LaidOut .type inner)
      (htext : t.text = before ++ inner.text ++ after) : LaidOut .type t
  | tuple {t : Cst} (hkind : t.kind = "tuple_type") (hmain : ∀ c ∈ t.head.main, LaidOut .type c)
      (htext : t.text = "[" ++ ", ".intercalate (t.head.main.map (·.text)) ++ "]") : LaidOut .type t
  | lookup {t object index : Cst} {rest : List Cst} (hkind : t.kind = "lookup_type")
      (hmain : t.head.main = object :: index :: rest) (hobject : LaidOut .type object)
      (hindex : LaidOut .type index) (htext : t.text = object.text ++ "[" ++ index.text ++ "]") :
      LaidOut .type t
  | literal {t value : Cst} (hkind : t.kind = "literal_type")
      (hmain : t.head.firstMain? = some value) (hvalue : value.kind ≠ "undefined")
      (hinner : LaidOut .expression value) (htext : t.text = value.text) : LaidOut .type t
  /-- The literal `undefined` is read as a keyword. -/
  | undefined {t value : Cst} (hkind : t.kind = "literal_type")
      (hmain : t.head.firstMain? = some value) (hvalue : value.kind = "undefined")
      (htext : t.text = "undefined") : LaidOut .type t
  | query {t name : Cst} (hkind : t.kind = "type_query") (hmain : t.head.firstMain? = some name)
      (hname : LaidOut .expression name) (htext : t.text = "typeof " ++ name.text) : LaidOut .type t
  | function {t result : Cst} (hkind : t.kind = "function_type")
      (hresult : t.head.field? "return_type" = some result) (hinner : LaidOut .type result)
      (hgeneric : ∀ c ∈ typeParametersIn t, LaidOut .typeParameter c)
      (hparameters : ∀ c ∈ parametersIn t, LaidOut .parameter c)
      (htext : t.text = inAngles ((typeParametersIn t).map (·.text)) ++ "(" ++
        ", ".intercalate ((parametersIn t).map (·.text)) ++ ") => " ++ result.text) : LaidOut .type t
  | identifier {t : Cst} (hkind : t.kind ∈ identifierKinds) : LaidOut .expression t
  | ownText {t : Cst} (hkind : t.kind ∈ ownTextKinds) : LaidOut .expression t
  | word {t : Cst} (hkind : t.kind ∈ wordKinds) (htext : t.text = t.kind) : LaidOut .expression t
  | dottedExpression {t : Cst} (hkind : t.kind = "nested_identifier") (htext : IsDotted t.text) :
      LaidOut .expression t
  | member {t object property : Cst} (hkind : t.kind = "member_expression")
      (hobject : t.head.field? "object" = some object)
      (hproperty : t.head.field? "property" = some property)
      (hleft : LaidOut .expression object) (hright : LaidOut .expression property)
      (htext : t.text = object.text ++ "." ++ property.text) : LaidOut .expression t
  | subscript {t object index : Cst} (hkind : t.kind = "subscript_expression")
      (hobject : t.head.field? "object" = some object) (hindex : t.head.field? "index" = some index)
      (hleft : LaidOut .expression object) (hright : LaidOut .expression index)
      (htext : t.text = object.text ++ "[" ++ index.text ++ "]") : LaidOut .expression t
  | parenthesized {t inner : Cst} (hkind : t.kind = "parenthesized_expression")
      (hmain : t.head.firstMain? = some inner) (hinner : LaidOut .expression inner)
      (htext : t.text = "(" ++ inner.text ++ ")") : LaidOut .expression t
  | call {t callee arguments : Cst} (hkind : t.kind = "call_expression")
      (hcallee : t.head.field? "function" = some callee)
      (harguments : t.head.field? "arguments" = some arguments)
      (hlist : arguments.kind = "arguments") (hinner : LaidOut .expression callee)
      (hgeneric : ∀ c ∈ typeArgumentsIn t, LaidOut .type c)
      (hmain : ∀ c ∈ arguments.head.main, LaidOut .expression c)
      (htext : t.text = callee.text ++ inAngles ((typeArgumentsIn t).map (·.text)) ++ "(" ++
        ", ".intercalate (arguments.head.main.map (·.text)) ++ ")") : LaidOut .expression t
  /-- A parameter of an untyped language. -/
  | bareParameter {t : Cst} (hkind : t.kind = "identifier") : LaidOut .parameter t
  | parameter {t name : Cst} {rest : Bool}
      (hkind : t.kind ∈ ["required_parameter", "optional_parameter"])
      (hbinding : binding? t = some (rest, name)) (hname : name.kind ∈ ["identifier", "this"])
      (htype : ∀ c, clause? t "type" = some c → LaidOut .type c)
      (htext : t.text = (if rest then "..." else "") ++ name.text ++
        (if t.kind = "optional_parameter" then "?" else "") ++
        ledBy ": " ((clause? t "type").map (·.text))) : LaidOut .parameter t
  | typeParameter {t name : Cst} (hkind : t.kind = "type_parameter")
      (hname : t.head.field? "name" = some name)
      (hconstraint : ∀ c, clause? t "constraint" = some c → LaidOut .type c)
      (hdefault : ∀ c, clause? t "value" = some c → LaidOut .type c)
      (htext : t.text = name.text ++ ledBy " extends " ((clause? t "constraint").map (·.text)) ++
        ledBy " = " ((clause? t "value").map (·.text))) : LaidOut .typeParameter t

theorem operandsOf_ne_nil_of_ne {t : Cst} {kind : String} (h : t.kind ≠ kind) :
    operandsOf kind (read t) ≠ [] := by
  rw [operandsOf_read_of_ne h]
  exact List.cons_ne_nil _ _

/-- A type that is laid out has operands, whatever the kind of operands: merging them never comes
to nothing. -/
theorem LaidOut.operands_ne_nil {role : Role} {t : Cst} {kind sep : String} (h : LaidOut role t)
    (hkind : (kind, sep) ∈ separators) : operandsOf kind (read t) ≠ [] := by
  have hkinds : kind = "union_type" ∨ kind = "intersection_type" := by
    simp only [separators, List.mem_cons, List.not_mem_nil, or_false, Prod.mk.injEq] at hkind
    exact hkind.imp And.left And.left
  induction h with
  | @operands t sep' hkind' hsome hmain htext ih =>
    by_cases ht : t.kind = kind
    · obtain ⟨c, hc⟩ := List.exists_mem_of_ne_nil _ hsome
      subst ht
      rw [operandsOf_read_self]
      intro hnil
      exact ih c hc (List.flatMap_eq_nil_iff.mp hnil c hc)
    · exact operandsOf_ne_nil_of_ne ht
  | verbatim hread hform =>
    refine operandsOf_ne_nil_of_ne ?_
    intro ht
    have hforms : ∀ kind, kind = "union_type" ∨ kind = "intersection_type" →
        (form? (compilerKind kind)).isSome = true := by
      rintro kind (rfl | rfl) <;> rfl
    have hsome := hforms kind hkinds
    rw [← ht, hform] at hsome
    cases hsome
  | _ =>
    -- every other rule is for kinds without operands
    refine operandsOf_ne_nil_of_ne ?_
    grind [enclosures, identifierKinds, ownTextKinds, wordKinds]

theorem identifierKinds_form {kind : String} (h : kind ∈ identifierKinds) :
    Ordered.get? expressionForms kind = some .identifier := by
  simp only [identifierKinds, List.mem_cons, List.not_mem_nil, or_false] at h
  rcases h with rfl | rfl | rfl | rfl | rfl <;> rfl

theorem ownTextKinds_form {kind : String} (h : kind ∈ ownTextKinds) :
    ∃ shown, shown ∉ looseKinds ∧ Ordered.get? expressionForms kind = some (.text shown) ∧
      form? shown = some .own := by
  simp only [ownTextKinds, List.mem_cons, List.not_mem_nil, or_false] at h
  rcases h with rfl | rfl | rfl
  · exact ⟨"PrivateIdentifier", by decide, rfl, rfl⟩
  · exact ⟨"NumericLiteral", by decide, rfl, rfl⟩
  · exact ⟨"RegularExpressionLiteral", by decide, rfl, rfl⟩

theorem wordKinds_form {kind : String} (h : kind ∈ wordKinds) :
    ∃ shown, shown ∉ looseKinds ∧ Ordered.get? expressionForms kind = some (.keyword shown) ∧
      form? shown = some (.keyword kind) := by
  simp only [wordKinds, List.mem_cons, List.not_mem_nil, or_false] at h
  rcases h with rfl | rfl | rfl | rfl | rfl
  · exact ⟨"TrueKeyword", by decide, rfl, rfl⟩
  · exact ⟨"FalseKeyword", by decide, rfl, rfl⟩
  · exact ⟨"NullKeyword", by decide, rfl, rfl⟩
  · exact ⟨"ThisKeyword", by decide, rfl, rfl⟩
  · exact ⟨"SuperKeyword", by decide, rfl, rfl⟩

variable {kinds : KindTable}

/-- What an induction on the layout carries: the text is printed, and only a loose type is read
as a node of a loose kind. -/
def PrintsBack (kinds : KindTable) (role : Role) (t : Cst) : Prop :=
  ∃ kind, (kind ∈ looseKinds → t.kind ∈ looseTypes) ∧
    Shows kinds (readingOf role (read t)) kind t.text

namespace PrintsBack

variable {role : Role} {t : Cst} {kind text : String}

theorem of_tight (htight : kind ∉ looseKinds)
    (h : Shows kinds (readingOf role (read t)) kind text) (htext : t.text = text) :
    PrintsBack kinds role t :=
  ⟨kind, fun hloose => absurd hloose htight, h.kind_eq, h.text_eq.trans htext.symm⟩

theorem of_loose (hloose : t.kind ∈ looseTypes)
    (h : Shows kinds (readingOf role (read t)) kind text) (htext : t.text = text) :
    PrintsBack kinds role t :=
  ⟨kind, fun _ => hloose, h.kind_eq, h.text_eq.trans htext.symm⟩

theorem texts {ts : List Cst} (h : ∀ c ∈ ts, PrintsBack kinds role c) :
    ts.map (fun c => printed kinds (readingOf role (read c))) = ts.map (·.text) := by
  refine List.map_congr_left ?_
  intro c hc
  obtain ⟨kind, -, hshows⟩ := h c hc
  exact hshows.text_eq

theorem text? {o : Option Cst} (h : ∀ c, o = some c → PrintsBack kinds role c) :
    o.map (fun c => printed kinds (readingOf role (read c))) = o.map (·.text) := by
  refine Option.map_congr ?_
  intro c hc
  obtain ⟨kind, -, hshows⟩ := h c hc
  exact hshows.text_eq

end PrintsBack

/-- One case for each rule, by the lemma on the kind that the rule is for. -/
theorem LaidOut.printsBack {role : Role} {t : Cst} (h : LaidOut role t) :
    PrintsBack kinds role t := by
  induction h with
  | @verbatim role t hread hform =>
    have hforms : ∀ kind ∈ looseKinds, (form? kind).isSome = true := by decide
    have htight : compilerKind t.kind ∉ looseKinds := by
      intro hloose
      have hsome := hforms _ hloose
      rw [hform] at hsome
      cases hsome
    have hshows : Shows kinds (readingOf role (read t)) (compilerKind t.kind) t.text := by
      rw [hread]
      exact shows_textOnly hform
    exact .of_tight htight hshows rfl
  | predefined hkind htext =>
    obtain ⟨kind, htight, hshows⟩ := shows_predefined (by rw [hkind]; rfl) htext
    exact .of_tight htight hshows rfl
  | @typeName t hkind =>
    have hform : Ordered.get? typeForms t.kind = some .name := by
      simp only [List.mem_cons, List.not_mem_nil, or_false] at hkind
      rcases hkind with hkind | hkind <;> rw [hkind] <;> rfl
    exact .of_tight (by decide) (shows_typeName hform) rfl
  | dottedType hkind htext =>
    exact .of_tight (by decide) (shows_dottedType (by rw [hkind]; rfl) htext) rfl
  | @generic t name hkind hname hdotted harguments htext ih =>
    have hshows := @shows_generic kinds t name (by rw [hkind]; rfl) hname hdotted
    have htexts := PrintsBack.texts ih
    exact .of_tight (by decide) hshows (by rw [htext, ← htexts]; rfl)
  | array hkind helement htight hinner htext ih =>
    -- a loose element would be printed in parentheses
    obtain ⟨kind, hloose, hshows⟩ := ih
    have hkind' : kind ∉ looseKinds := fun h => htight (hloose h)
    exact .of_tight (by decide) (shows_array (by rw [hkind]; rfl) helement hshows hkind') htext
  | @operands t sep hkind hsome hmain htext ih =>
    -- reading merges nested operands, printing joins them as if it had not
    obtain ⟨kind, hshows⟩ := @shows_operands kinds t sep hkind
      (fun c hc => (hmain c hc).operands_ne_nil hkind)
    have hloose : t.kind ∈ looseTypes := by
      have hkinds : ∀ e ∈ separators, e.1 ∈ looseTypes := by decide
      exact hkinds _ hkind
    have htexts := PrintsBack.texts ih
    exact .of_loose hloose hshows (by rw [htext, ← htexts]; rfl)
  | enclosed hkind hmain hinner htext ih =>
    obtain ⟨kind, -, hinner⟩ := ih
    obtain ⟨kind, htight, hshows⟩ := shows_enclosed hkind hmain hinner
    exact .of_tight htight hshows htext
  | @tuple t hkind hmain htext ih =>
    have hshows := @shows_tuple kinds t (by rw [hkind]; rfl)
    have htexts := PrintsBack.texts ih
    exact .of_tight (by decide) hshows (by rw [htext, ← htexts]; rfl)
  | lookup hkind hmain hobject hindex htext ihobject ihindex =>
    obtain ⟨_, -, hobject⟩ := ihobject
    obtain ⟨_, -, hindex⟩ := ihindex
    exact .of_tight (by decide) (shows_lookup (by rw [hkind]; rfl) hmain hobject hindex) htext
  | literal hkind hmain hvalue hinner htext ih =>
    obtain ⟨_, -, hinner⟩ := ih
    exact .of_tight (by decide) (shows_literal (by rw [hkind]; rfl) hmain hvalue hinner) htext
  | undefined hkind hmain hvalue htext =>
    exact .of_tight (by decide) (shows_undefined (by rw [hkind]; rfl) hmain hvalue) htext
  | query hkind hmain hname htext ih =>
    obtain ⟨_, -, hname⟩ := ih
    exact .of_tight (by decide) (shows_query (by rw [hkind]; rfl) hmain hname) htext
  | @function t result hkind hresult hinner hgeneric hparameters htext ih ihgeneric ihparameters =>
    obtain ⟨_, -, hinner⟩ := ih
    have hloose : t.kind ∈ looseTypes := by
      rw [hkind]
      decide
    have hgenerics := PrintsBack.texts ihgeneric
    have hparameters := PrintsBack.texts ihparameters
    have hshows := shows_function (by rw [hkind]; rfl) hresult hinner
    exact .of_loose hloose hshows (by rw [htext, ← hgenerics, ← hparameters]; rfl)
  | identifier hkind =>
    exact .of_tight (by decide) (shows_name (identifierKinds_form hkind)) rfl
  | ownText hkind =>
    obtain ⟨kind, htight, hform, hown⟩ := ownTextKinds_form hkind
    exact .of_tight htight (shows_ownText hform hown) rfl
  | word hkind htext =>
    obtain ⟨kind, htight, hform, hword⟩ := wordKinds_form hkind
    exact .of_tight htight (shows_keyword hform hword) htext
  | dottedExpression hkind htext =>
    obtain ⟨kind, htight, hshows⟩ := shows_dottedExpression (by rw [hkind]; rfl) htext
    exact .of_tight htight hshows rfl
  | member hkind hobject hproperty hleft hright htext ihleft ihright =>
    obtain ⟨_, -, hleft⟩ := ihleft
    obtain ⟨_, -, hright⟩ := ihright
    exact .of_tight (by decide) (shows_member (by rw [hkind]; rfl) hobject hproperty hleft hright)
      htext
  | subscript hkind hobject hindex hleft hright htext ihleft ihright =>
    obtain ⟨_, -, hleft⟩ := ihleft
    obtain ⟨_, -, hright⟩ := ihright
    exact .of_tight (by decide) (shows_subscript (by rw [hkind]; rfl) hobject hindex hleft hright)
      htext
  | parenthesized hkind hmain hinner htext ih =>
    obtain ⟨_, -, hinner⟩ := ih
    exact .of_tight (by decide) (shows_parenthesized (by rw [hkind]; rfl) hmain hinner) htext
  | call hkind hcallee harguments hlist hinner hgeneric hmain htext ih ihgeneric ihmain =>
    obtain ⟨_, -, hinner⟩ := ih
    have hgenerics := PrintsBack.texts ihgeneric
    have htexts := PrintsBack.texts ihmain
    have hshows := shows_call (by rw [hkind]; rfl) hcallee harguments hlist hinner
    exact .of_tight (by decide) hshows (by rw [htext, ← hgenerics, ← htexts]; rfl)
  | bareParameter hkind => exact .of_tight (by decide) (shows_bareParameter hkind) rfl
  | @parameter t name rest hkind hbinding hname htype htext ih =>
    have hne : t.kind ≠ "identifier" := by
      have hkinds : ∀ kind ∈ ["required_parameter", "optional_parameter"], kind ≠ "identifier" := by
        decide
      exact hkinds _ hkind
    have hclause := PrintsBack.text? ih
    have hshows := @shows_parameter kinds t rest name hne hbinding hname
    exact .of_tight (by decide) hshows (by rw [htext, ← hclause]; rfl)
  | @typeParameter t name hkind hname hconstraint hdefault htext ihconstraint ihdefault =>
    have hconstraints := PrintsBack.text? ihconstraint
    have hdefaults := PrintsBack.text? ihdefault
    have hshows := @shows_typeParameter kinds t name hname
    exact .of_tight (by decide) hshows (by rw [htext, ← hconstraints, ← hdefaults]; rfl)

/-- A type or an expression that is laid out with the printer's own separators is read, normalized
and printed as its own source text, whatever the kind table. -/
theorem laid_out_is_printed_back (kinds : KindTable) (t : Cst) :
    (LaidOut .type t → (Normal.normalize kinds (read t).attr.type).sourceText = t.text) ∧
    (LaidOut .expression t →
      (Normal.normalize kinds (read t).attr.expression).sourceText = t.text) := by
  constructor
  · intro h
    obtain ⟨kind, -, hshows⟩ := @LaidOut.printsBack kinds .type t h
    exact hshows.text_eq
  · intro h
    obtain ⟨kind, -, hshows⟩ := @LaidOut.printsBack kinds .expression t h
    exact hshows.text_eq

/-- A function type with a dotted generic name around nested unions, an optional parameter of an
array type and the type of a call. -/
theorem laid_out_is_printed_back_function :
    let node (start : Nat) (kind text : String) (fields : List (String × Cst.Path))
        (children : List Cst) : Cst :=
      .node () ⟨kind, true, start, start + text.length, text⟩ fields children
    let name (start : Nat) (text : String) : Cst := node start "type_identifier" text [] []
    let pair := node 9 "union_type" "A | B" [] [name 9 "A", name 13 "B"]
    let union := node 9 "union_type" "A | B | C" [] [pair, name 17 "C"]
    let generic := node 4 "generic_type" "ns.M<A | B | C>"
      [("name", [0]), ("type_arguments", [1])]
      [node 4 "nested_type_identifier" "ns.M" [] [],
        node 8 "type_arguments" "<A | B | C>" [] [union]]
    let first := node 1 "required_parameter" "a: ns.M<A | B | C>" [("pattern", [0]), ("type", [1])]
      [node 1 "identifier" "a" [] [], node 2 "type_annotation" ": ns.M<A | B | C>" [] [generic]]
    let array := node 25 "array_type" "T[]" [] [name 25 "T"]
    let second := node 21 "optional_parameter" "b?: T[]" [("pattern", [0]), ("type", [1])]
      [node 21 "identifier" "b" [] [], node 23 "type_annotation" ": T[]" [] [array]]
    let call := node 40 "call_expression" "f(1)" [("function", [0]), ("arguments", [1])]
      [node 40 "identifier" "f" [] [],
        node 41 "arguments" "(1)" [] [node 42 "number" "1" [] []]]
    let query := node 33 "type_query" "typeof f(1)" [] [call]
    let function := node 0 "function_type" "(a: ns.M<A | B | C>, b?: T[]) => typeof f(1)"
      [("parameters", [0]), ("return_type", [1])]
      [node 0 "formal_parameters" "(a: ns.M<A | B | C>, b?: T[])" [] [first, second], query]
    LaidOut .type function ∧ LaidOut .expression call ∧
      ∀ kinds : KindTable,
        (Normal.normalize kinds (read function).attr.type).sourceText =
            "(a: ns.M<A | B | C>, b?: T[]) => typeof f(1)" ∧
          (Normal.normalize kinds (read call).attr.expression).sourceText = "f(1)" := by
  intro node name pair union generic first array second call query function
  have hname : ∀ start text, LaidOut .type (name start text) :=
    fun _ _ => .typeName List.mem_cons_self
  have hpair : LaidOut .type pair := by
    have hmain : ∀ c ∈ pair.head.main, LaidOut .type c :=
      List.forall_mem_cons.mpr ⟨hname 9 "A", List.forall_mem_singleton.mpr (hname 13 "B")⟩
    exact @LaidOut.operands pair " | " (by decide) (List.cons_ne_nil _ _) hmain rfl
  have hunion : LaidOut .type union := by
    have hmain : ∀ c ∈ union.head.main, LaidOut .type c :=
      List.forall_mem_cons.mpr ⟨hpair, List.forall_mem_singleton.mpr (hname 17 "C")⟩
    exact @LaidOut.operands union " | " (by decide) (List.cons_ne_nil _ _) hmain rfl
  have hgeneric : LaidOut .type generic :=
    .generic rfl rfl ⟨["ns", "M"], by decide, by decide, rfl⟩
      (List.forall_mem_singleton.mpr hunion) rfl
  have harray : LaidOut .type array := .array rfl rfl (by decide) (hname 25 "T") rfl
  have hfirst : LaidOut .parameter first := by
    refine .parameter (by decide) rfl (by decide) ?_ rfl
    intro c hc
    cases hc
    exact hgeneric
  have hsecond : LaidOut .parameter second := by
    refine .parameter (by decide) rfl (by decide) ?_ rfl
    intro c hc
    cases hc
    exact harray
  have hcall : LaidOut .expression call :=
    .call rfl rfl rfl rfl (.identifier (by decide)) nofun
      (List.forall_mem_singleton.mpr (.ownText (by decide))) rfl
  have hfunction : LaidOut .type function :=
    .function rfl rfl (.query rfl rfl hcall rfl) nofun
      (List.forall_mem_cons.mpr ⟨hfirst, List.forall_mem_singleton.mpr hsecond⟩) rfl
  refine ⟨hfunction, hcall, ?_⟩
  intro kinds
  exact ⟨(laid_out_is_printed_back kinds function).1 hfunction,
    (laid_out_is_printed_back kinds call).2 hcall⟩

end DeclTree.Lower
