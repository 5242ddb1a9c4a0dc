import DeclTree.Proofs.PrintedParts
import DeclTree.Proofs.Unnoticed

/-!
# Texts and escaped texts

Some producers write the text of an identifier as `text`, others as `escapedText`, with
one underscore more before a name that starts with two. `Json.escaped` turns the first
form into the second in every object. Two readers undo the escape: `Json.text?` for names
and, after normalizing, `Normal.text?` for printed expressions. Both read the same texts
from the changed tree (`escaped_text?`, `escaped_writtenText?`), so it prints alike
(`shown_escaped`) and no walk notices the change.
-/

namespace DeclTree

/-- One underscore more before a name that starts with two. -/
def escapeUnderscores (s : String) : String :=
  match s.toList with
  | '_' :: '_' :: rest => String.ofList ('_' :: '_' :: '_' :: rest)
  | _ => s

/-- A name that does not start with two underscores has no escape to undo. -/
theorem unescapeUnderscores_of_ne {s : String} (h : ∀ rest, s.toList ≠ '_' :: '_' :: rest) :
    unescapeUnderscores s = s := by
  rw [unescapeUnderscores]
  split
  · rename_i rest hs
    exact absurd hs (h ('_' :: rest))
  · rfl

theorem unescape_escapeUnderscores (s : String) :
    unescapeUnderscores (escapeUnderscores s) = s := by
  rw [escapeUnderscores]
  split
  · rename_i rest hs
    have hchars : (String.ofList ('_' :: '_' :: '_' :: rest)).toList = '_' :: '_' :: '_' :: rest :=
      String.toList_ofList
    rw [unescapeUnderscores, hchars]
    simp only
    rw [← hs, String.ofList_toList]
  · rename_i hs
    exact unescapeUnderscores_of_ne hs

namespace Json

/-- The fields with `text` replaced, where it stands, by an `escapedText` of a given value.
An `escapedText` that was there is gone. -/
def replaceText (value : Json) (fields : List (String × Json)) : List (String × Json) :=
  (fields.filter fun e => e.1 != "escapedText").map fun e =>
    if e.1 = "text" then ("escapedText", value) else e

/-- The fields with their text escaped, when this is a string. -/
def escapeTextIn (fields : List (String × Json)) : List (String × Json) :=
  match Ordered.get? fields "text" with
  | some (.string s) => replaceText (.string (escapeUnderscores s)) fields
  | _ => fields

mutual

/-- Every text that is a string written as escaped text, at every depth. -/
def escaped : Json → Json
  | .array items => .array (escapedAll items)
  | .object fields => .object (escapeTextIn (escapedFields fields))
  | v => v

def escapedAll : List Json → List Json
  | [] => []
  | v :: rest => escaped v :: escapedAll rest

def escapedFields : List (String × Json) → List (String × Json)
  | [] => []
  | (key, v) :: rest => (key, escaped v) :: escapedFields rest

end

example : (object [("kind", .string "Identifier"), ("text", .string "__x")]).escaped =
    .object [("kind", .string "Identifier"), ("escapedText", .string "___x")] := by rfl

theorem get?_replaceText_text (value : Json) (fields : List (String × Json)) :
    Ordered.get? (replaceText value fields) "text" = none := by
  rw [Ordered.get?_eq_none_iff, Ordered.keys]
  intro hmem
  obtain ⟨e, he, hkey⟩ := List.mem_map.mp hmem
  obtain ⟨e', -, rfl⟩ := List.mem_map.mp he
  by_cases h : e'.1 = "text"
  · rw [if_pos h] at hkey
    have hnames : "escapedText" = "text" := hkey
    exact absurd hnames (by decide)
  · rw [if_neg h] at hkey
    exact h hkey

theorem get?_replaceText_escaped (value : Json) {fields : List (String × Json)}
    (h : (Ordered.get? fields "text").isSome) :
    Ordered.get? (replaceText value fields) "escapedText" = some value := by
  induction fields with
  | nil => cases h
  | cons e rest ih =>
    obtain ⟨key, v⟩ := e
    by_cases htext : key = "text"
    · subst htext
      simp [replaceText, Ordered.get?]
    · have hrest : (Ordered.get? rest "text").isSome := by
        simpa [Ordered.get?, htext] using h
      by_cases hescaped : key = "escapedText"
      · simpa [replaceText, hescaped] using ih hrest
      · simpa [replaceText, hescaped, htext, Ordered.get?] using ih hrest

theorem get?_replaceText (value : Json) (fields : List (String × Json)) {key : String}
    (htext : key ≠ "text") (hescaped : key ≠ "escapedText") :
    Ordered.get? (replaceText value fields) key = Ordered.get? fields key := by
  induction fields with
  | nil => rfl
  | cons e rest ih =>
    obtain ⟨k, v⟩ := e
    by_cases hkt : k = "text"
    · subst hkt
      simpa [replaceText, Ordered.get?, Ne.symm htext, Ne.symm hescaped] using ih
    · by_cases hke : k = "escapedText"
      · subst hke
        simpa [replaceText, Ordered.get?, Ne.symm hescaped] using ih
      · by_cases hk : k = key
        · subst hk
          simp [replaceText, Ordered.get?, hkt, hke]
        · simpa [replaceText, Ordered.get?, hkt, hke, hk] using ih

theorem escapedAll_eq (items : List Json) : escapedAll items = items.map escaped := by
  induction items with
  | nil => rfl
  | cons v rest ih => rw [escapedAll, ih, List.map_cons]

theorem get?_escapedFields (fields : List (String × Json)) (key : String) :
    Ordered.get? (escapedFields fields) key = (Ordered.get? fields key).map escaped := by
  have hmap : escapedFields fields = Ordered.mapValues escaped fields := by
    induction fields with
    | nil => rfl
    | cons e rest ih =>
      obtain ⟨k, v⟩ := e
      rw [escapedFields, ih]
      rfl
  rw [hmap, Ordered.get?_mapValues]

theorem escaped_string? (v : Json) : v.escaped.string? = v.string? := by
  cases v <;> rfl

theorem escaped_signed? (v : Json) : v.escaped.signed? = v.signed? := by
  cases v <;> rfl

theorem escaped_isNull (v : Json) : v.escaped.isNull = v.isNull := by
  cases v <;> rfl

theorem escaped_eq_string_iff (v : Json) (s : String) : v.escaped = .string s ↔ v = .string s := by
  cases v <;> simp [escaped]

/-- An object either has a text that is a string, now escaped, or is changed in its fields only. -/
theorem escaped_cases (v : Json) :
    (∃ s, v.get? "text" = some (.string s) ∧ v.escaped.get? "text" = none ∧
      v.escaped.get? "escapedText" = some (.string (escapeUnderscores s))) ∨
    ((∀ s, v.get? "text" ≠ some (.string s)) ∧
      ∀ key, v.escaped.get? key = (v.get? key).map escaped) := by
  cases v with
  | object fields =>
    by_cases h : ∃ s, Ordered.get? fields "text" = some (.string s)
    · obtain ⟨s, hs⟩ := h
      have htext : Ordered.get? (escapedFields fields) "text" = some (.string s) := by
        rw [get?_escapedFields, hs]
        rfl
      refine Or.inl ⟨s, hs, ?_, ?_⟩
      · simp only [escaped, get?, escapeTextIn, htext]
        exact get?_replaceText_text _ _
      · simp only [escaped, get?, escapeTextIn, htext]
        exact get?_replaceText_escaped _ (by rw [htext]; rfl)
    · have hne : ∀ s, Ordered.get? (escapedFields fields) "text" ≠ some (.string s) := by
        intro s hs
        rw [get?_escapedFields] at hs
        obtain ⟨u, hu, hus⟩ := Option.map_eq_some_iff.mp hs
        exact h ⟨s, (escaped_eq_string_iff u s).mp hus ▸ hu⟩
      have hsame : escapeTextIn (escapedFields fields) = escapedFields fields := by
        rw [escapeTextIn]
        split
        · rename_i s hs
          exact absurd hs (hne s)
        · rfl
      refine Or.inr ⟨fun s hs => h ⟨s, hs⟩, ?_⟩
      intro key
      simp only [escaped, get?, hsame, get?_escapedFields]
  | _ =>
    refine Or.inr ⟨?_, fun key => rfl⟩
    intro s hs
    cases hs

/-- Fields that hold no text are changed in their values only. -/
theorem escaped_get? (v : Json) {key : String} (htext : key ≠ "text")
    (hescaped : key ≠ "escapedText") : v.escaped.get? key = (v.get? key).map escaped := by
  cases v with
  | object fields =>
    simp only [escaped, get?, escapeTextIn]
    split
    · rw [get?_replaceText _ _ htext hescaped, get?_escapedFields]
    · exact get?_escapedFields fields key
  | _ => rfl

theorem escaped_field? (v : Json) {key : String} (htext : key ≠ "text")
    (hescaped : key ≠ "escapedText") : v.escaped.field? key = (v.field? key).map escaped :=
  field?_of_get? escaped_isNull (escaped_get? v htext hescaped)

/-- Names are read through the escape. -/
theorem escaped_text? (v : Json) : v.escaped.text? = v.text? := by
  rcases escaped_cases v with ⟨s, hs, hnone, hescaped⟩ | ⟨-, hget⟩
  · have hsome : v.text? = nonEmpty s := by
      rw [text?, hs]
      rfl
    rw [hsome, text?, hnone, hescaped]
    simp only [Option.bind_none, Option.bind_some, string?, Option.map_some,
      unescape_escapeUnderscores]
  · exact text?_of_get? escaped_string? (hget "text") (hget "escapedText")

/-- So are the texts of normalized nodes. -/
theorem escaped_writtenText? (v : Json) : v.escaped.writtenText? = v.writtenText? := by
  rcases escaped_cases v with ⟨s, hs, hnone, hescaped⟩ | ⟨-, hget⟩
  · have hsome : v.writtenText? = some s := by
      rw [writtenText?, field?, hs]
      rfl
    rw [hsome, writtenText?, field?, hnone, field?, hescaped]
    simp only [Option.filter_none, Option.filter_some, isNull, Bool.not_false, if_true,
      Option.bind_some, string?, Option.map_some, unescape_escapeUnderscores]
  · have htext := field?_of_get? escaped_isNull (hget "text")
    have hescaped := field?_of_get? escaped_isNull (hget "escapedText")
    rw [writtenText?, writtenText?, htext, hescaped]
    cases v.field? "text" with
    | some t => exact escaped_string? t
    | none =>
      cases v.field? "escapedText" with
      | some t => simp only [Option.map_none, Option.map_some, Option.bind_some, escaped_string?]
      | none => rfl

theorem escaped_kind? (v : Json) : v.escaped.kind? = (v.kind?).map escaped :=
  escaped_field? v (by decide) (by decide)

theorem escaped_flags? (v : Json) : v.escaped.flags? = v.flags? :=
  flags?_of_get? escaped_signed? (escaped_get? v (by decide) (by decide))

theorem escaped_fieldwise : Fieldwise escaped where
  text := escaped_text?
  isNull := escaped_isNull
  array := by
    intro v
    cases v with
    | array items => rw [escaped, array?, array?, Option.map_some, escapedAll_eq]
    | _ => rfl
  get := by
    intro v key hk
    have hfollowed : ∀ key ∈ followed, key ≠ "text" ∧ key ≠ "escapedText" := by decide
    exact escaped_get? v (hfollowed key hk).1 (hfollowed key hk).2

end Json

namespace KindTable

/-- Kinds are named by strings and numbers, which stay as they are. -/
theorem kindName?_escaped (kinds : KindTable) (v : Json) :
    (v.escaped.kind?).bind kinds.kindName? = (v.kind?).bind kinds.kindName? := by
  rw [Json.escaped_kind?]
  cases v.kind? with
  | none => rfl
  | some k => cases k <;> rfl

theorem classify_escaped (kinds : KindTable) (v : Json) :
    (kinds.classify v.escaped.kind?).known? = (kinds.classify v.kind?).known? := by
  rw [Json.escaped_kind?]
  cases v.kind? with
  | none => rfl
  | some k => cases k <;> rfl

end KindTable

namespace SourceText

theorem readKeys_textless : ∀ key ∈ readKeys, key ≠ "text" ∧ key ≠ "escapedText" := by decide

/-- An object shows the same as before when each of its fields does. -/
theorem shown_escaped_object (kinds : KindTable) {fields : List (String × Json)}
    (h : ∀ e ∈ fields, shown (print (.normalize kinds e.2.escaped)) =
      shown (print (.normalize kinds e.2))) :
    shown (print (.normalize kinds (Json.object fields).escaped)) =
      shown (print (.normalize kinds (.object fields))) := by
  have hkind : (Normal.normalize kinds (Json.object fields).escaped).kindName? =
      (Normal.normalize kinds (.object fields)).kindName? := by
    rw [Normal.kindName?_normalize, Normal.kindName?_normalize, kinds.kindName?_escaped]
  have htext : (Normal.normalize kinds (Json.object fields).escaped).text? =
      (Normal.normalize kinds (.object fields)).text? := by
    rw [Normal.text?_normalize, Normal.text?_normalize, Json.escaped_writtenText?]
  have hparts : ∀ key ∈ readKeys,
      Parts.shown? (partsOf (.normalize kinds (Json.object fields).escaped)) key =
        Parts.shown? (partsOf (.normalize kinds (.object fields))) key := by
    intro key hkey
    obtain ⟨hne, hne'⟩ := readKeys_textless key hkey
    rw [Parts.shown?, Parts.shown?, get?_partsOf_normalize _ (readKeys_carried key hkey),
      get?_partsOf_normalize _ (readKeys_carried key hkey),
      Json.escaped_field? _ hne hne']
    cases hfield : (Json.object fields).field? key with
    | none => rfl
    | some u =>
      rw [Json.field?, Option.filter_eq_some_iff] at hfield
      exact congrArg some (h (key, u) (Ordered.mem_of_get? hfield.1))
  have hobject : ∃ fields', (Json.object fields).escaped = .object fields' := ⟨_, rfl⟩
  obtain ⟨fields', hfields'⟩ := hobject
  rw [hfields'] at hkind htext hparts ⊢
  rw [print_normalize_object, print_normalize_object]
  simp only [shown, needsParens, hkind, Normal.string?_normalize, Json.string?,
    mappingText_congr hkind htext hparts]

mutual

/-- Texts and escaped texts are printed alike, at every depth. -/
theorem shown_escaped (kinds : KindTable) :
    ∀ v, shown (print (.normalize kinds v.escaped)) = shown (print (.normalize kinds v))
  | .null | .bool _ | .number _ | .string _ => rfl
  | .array items => by
    simp only [Json.escaped, Normal.normalize, print, shown, printAll_escaped kinds items]
    rfl
  | .object fields => shown_escaped_object kinds (shown_escapedFields kinds fields)

theorem printAll_escaped (kinds : KindTable) :
    ∀ items, printAll (Normal.normalizeAll kinds (Json.escapedAll items)) =
      printAll (Normal.normalizeAll kinds items)
  | [] => rfl
  | v :: rest => by
    have hv := congrArg Shown.text (shown_escaped kinds v)
    simp only [shown] at hv
    rw [Json.escapedAll, Normal.normalizeAll, Normal.normalizeAll, printAll, printAll, hv,
      printAll_escaped kinds rest]

theorem shown_escapedFields (kinds : KindTable) :
    ∀ fields : List (String × Json), ∀ e ∈ fields,
      shown (print (.normalize kinds e.2.escaped)) = shown (print (.normalize kinds e.2))
  | [], e, he => by cases he
  | (key, v) :: rest, e, he => by
    rcases List.mem_cons.mp he with rfl | he
    · exact shown_escaped kinds v
    · exact shown_escapedFields kinds rest e he

end

end SourceText

theorem Normal.sourceText_escaped (kinds : KindTable) (v : Json) :
    (normalize kinds v.escaped).sourceText = (normalize kinds v).sourceText :=
  congrArg SourceText.Shown.text (SourceText.shown_escaped kinds v)

namespace Walker

theorem unnoticed_escaped (kinds : KindTable) (options : WalkOptions) :
    Unnoticed ⟨kinds, Normal.sourceText, options⟩ ⟨kinds, Normal.sourceText, options⟩
      Json.escaped := by
  refine .of_fieldwise Json.escaped_fieldwise rfl ?_ ?_ ?_
  · intro v
    exact Statement.known?_classify options.namespaceFlags (kinds.classify_escaped v)
      (fun _ => Json.escaped_flags? v)
  · intro v
    exact kinds.kindName?_escaped v
  · intro v
    exact Normal.sourceText_escaped kinds v

/-- Whether identifiers are written as texts or as escaped texts makes no difference to the
written tree, to the namespace that a walk leaves and to any name. -/
theorem walk_escaped (kinds : KindTable) (options : WalkOptions) (ast : Json) (s : State) :
    let w : Walker := ⟨kinds, Normal.sourceText, options⟩
    (w.walk ast.escaped s).context.toJson = (w.walk ast s).context.toJson ∧
      (w.walk ast.escaped s).state.scope = (w.walk ast s).state.scope ∧
      Name.resolve kinds Normal.sourceText ast.escaped =
        Name.resolve kinds Normal.sourceText ast := by
  intro w
  have hunnoticed := unnoticed_escaped kinds options
  obtain ⟨htree, hscope⟩ := hunnoticed.walk ast s
  exact ⟨htree, hscope, hunnoticed.resolve ast⟩

end Walker

end DeclTree
