import DeclTree.Name
import DeclTree.Proofs.PrintedParts

/-!
# The text of a node before and after normalizing

Both readers take `text` first and fall back to `escapedText`. Before normalizing, a
`text` that is no string is passed over; after it, such a `text` hides the name that
`escapedText` would give (`Json.hidesText`). Nothing else separates the two readings
(`text_agrees_unless_hidden`), so only there is an identifier keyed differently by its
own text and by what is printed for it.
-/

namespace DeclTree

namespace Json

/-- The name that `escapedText` gives. -/
def escapedName? (v : Json) : Option String :=
  (((v.field? "escapedText").bind string?).map unescapeUnderscores).bind nonEmpty

/-- A `text` that is no string, in front of an `escapedText` that gives a name. -/
def hidesText (v : Json) : Bool :=
  match v.field? "text" with
  | some t => t.string?.isNone && v.escapedName?.isSome
  | none => false

theorem hidesText_iff (v : Json) :
    v.hidesText = true ↔
      ∃ t, v.field? "text" = some t ∧ t.string? = none ∧ v.escapedName?.isSome = true := by
  rw [hidesText]
  cases v.field? "text" with
  | none => simp
  | some t => simp

/-- A field that is null is no string, so it does not matter whether it counts as present. -/
theorem field?_bind_string? (v : Json) (key : String) :
    (v.field? key).bind string? = (v.get? key).bind string? := by
  rw [field?]
  cases v.get? key with
  | none => rfl
  | some u => cases u <;> rfl

theorem text?_of_string {v : Json} {s : String}
    (h : (v.field? "text").bind string? = some s) : v.text? = nonEmpty s := by
  rw [field?_bind_string?] at h
  simp only [text?, h]

/-- Without a `text` that is a string, the text of a node is its escaped name. -/
theorem text?_of_no_string {v : Json} (h : (v.field? "text").bind string? = none) :
    v.text? = v.escapedName? := by
  rw [field?_bind_string?] at h
  simp only [text?, h, escapedName?, field?_bind_string?]

/-- A name that is hidden is the text of the node. -/
theorem text?_of_hidesText {v : Json} (h : v.hidesText = true) : v.text?.isSome = true := by
  obtain ⟨t, ht, hs, hname⟩ := v.hidesText_iff.mp h
  have hno : (v.field? "text").bind string? = none := by rw [ht]; exact hs
  rw [text?_of_no_string hno]
  exact hname

end Json

namespace Normal

variable (kinds : KindTable)

/-- After normalizing, the text is what it was, unless it is hidden. -/
theorem text?_after (v : Json) :
    (normalize kinds v).text?.bind nonEmpty = if v.hidesText then none else v.text? := by
  rw [text?_normalize]
  cases ht : v.field? "text" with
  | none =>
    have hno : (v.field? "text").bind Json.string? = none := by rw [ht]; rfl
    simp only [Json.writtenText?, Json.hidesText, ht, Json.text?_of_no_string hno,
      Bool.false_eq_true, if_false]
    rfl
  | some t =>
    cases hs : t.string? with
    | some s =>
      have hstring : (v.field? "text").bind Json.string? = some s := by rw [ht]; exact hs
      simp only [Json.writtenText?, Json.hidesText, ht, hs, Json.text?_of_string hstring]
      rfl
    | none =>
      have hno : (v.field? "text").bind Json.string? = none := by rw [ht]; exact hs
      simp only [Json.writtenText?, Json.hidesText, ht, hs, Json.text?_of_no_string hno]
      cases v.escapedName? <;> rfl

/-- An identifier is printed as its text. -/
theorem sourceText_identifier {v : Json}
    (hkind : (v.kind?).bind kinds.kindName? = some "Identifier") :
    (normalize kinds v).sourceText = ((normalize kinds v).text?).getD "" := by
  cases v with
  | object fields =>
    have hname : (normalize kinds (.object fields)).kindName? = some "Identifier" := by
      rw [kindName?_normalize, hkind]
    have hform : SourceText.form? "Identifier" = some .own := by rfl
    rw [sourceText, SourceText.print_normalize_object]
    simp only [SourceText.mappingText, hname, Option.getD_some, hform]
  | _ => cases hkind

end Normal

theorem nonEmpty_getD (o : Option String) : nonEmpty (o.getD "") = o.bind nonEmpty := by
  cases o <;> rfl

/-- The text of a node is the same before and after normalizing, empty text counted as
absent, exactly when no `text` of another shape hides a name; then there is a text before
and none after. What is printed for an identifier is its text after normalizing. -/
theorem text_agrees_unless_hidden (kinds : KindTable) (v : Json) :
    ((Normal.normalize kinds v).text?.bind nonEmpty = v.text? ↔ v.hidesText = false) ∧
      (v.hidesText = true → v.text?.isSome = true ∧ (Normal.normalize kinds v).text? = none) ∧
      ((v.kind?).bind kinds.kindName? = some "Identifier" →
        nonEmpty (Normal.normalize kinds v).sourceText =
          (Normal.normalize kinds v).text?.bind nonEmpty) := by
  refine ⟨?_, ?_, ?_⟩
  · rw [Normal.text?_after]
    cases h : v.hidesText with
    | false => simp
    | true =>
      have hsome := Json.text?_of_hidesText h
      simp only [if_true, Bool.true_eq_false, iff_false]
      intro heq
      rw [← heq] at hsome
      cases hsome
  · intro h
    obtain ⟨t, ht, hs, -⟩ := v.hidesText_iff.mp h
    refine ⟨Json.text?_of_hidesText h, ?_⟩
    simp only [Normal.text?_normalize, Json.writtenText?, ht, hs]
  · intro hkind
    rw [Normal.sourceText_identifier kinds hkind, nonEmpty_getD]

/-- Two identifiers with the escaped name `__x`, one of them behind a number. -/
theorem text_agrees_unless_hidden_escaped :
    let kinds : KindTable := ⟨[(80, "Identifier")]⟩
    let identifier (text : Json) : Json :=
      .object [("kind", .ofNat 80), ("text", text), ("escapedText", .string "___x")]
    (identifier .null).hidesText = false ∧ (identifier (.ofNat 5)).hidesText = true ∧
      ((identifier .null).kind?).bind kinds.kindName? = some "Identifier" ∧
      (Normal.normalize kinds (identifier .null)).text?.bind nonEmpty = some "__x" ∧
      (Normal.normalize kinds (identifier (.ofNat 5))).text? = none ∧
      nonEmpty (Normal.normalize kinds (identifier .null)).sourceText = some "__x" := by
  intro kinds identifier
  have hseen : (identifier .null).hidesText = false := by decide
  have hhidden : (identifier (.ofNat 5)).hidesText = true := by decide
  have hkind : ((identifier .null).kind?).bind kinds.kindName? = some "Identifier" := by decide
  have htext : (identifier .null).text? = some "__x" := by decide
  obtain ⟨hagrees, -, hprinted⟩ := text_agrees_unless_hidden kinds (identifier .null)
  obtain ⟨-, hnone, -⟩ := text_agrees_unless_hidden kinds (identifier (.ofNat 5))
  have hafter := (hagrees.mpr hseen).trans htext
  exact ⟨hseen, hhidden, hkind, hafter, (hnone hhidden).2, (hprinted hkind).trans hafter⟩

/-- A number in `text` hides the name: a function has it as its key, an export has none. -/
theorem number_hides_name :
    let name : Json :=
      .object [("kind", .string "Identifier"), ("text", .ofNat 5), ("escapedText", .string "x")]
    name.text? = some "x" ∧ (Normal.normalize .empty name).text?.bind nonEmpty = none ∧
      Name.resolve .empty Normal.sourceText
        (.object [("kind", .string "FunctionDeclaration"), ("name", name)]) = .resolved "x" ∧
      Name.resolve .empty Normal.sourceText
        (.object [("kind", .string "ExportAssignment"), ("expression", name)]) = .unresolved := by
  refine ⟨?_, ?_, ?_, ?_⟩
  · decide
  · decide
  · decide
  · decide +kernel

end DeclTree
