import DeclTree.Proofs.Lexemes
import DeclTree.Proofs.Occurrences

/-!
# Layouts of a JSON text

The two ways to write a value differ only in the blanks between its lexemes (`Layout`): there
are none in the compact text (`compactOnto_eq`), and the indented text has a line for each item
and field (`prettyOnto_eq`). A value whose numbers are integers of 64 bits is one line without
the blanks.
-/

namespace DeclTree.Json

open Lexeme

/-- Every number that occurs is an integer of 64 bits, with a sign or without. -/
def HasWords (v : Json) : Prop := ∀ n : Number, (Json.number n).Occurs v → n.IsWord

theorem HasWords.of_occurs {u v : Json} (h : v.HasWords) (hu : u.Occurs v) : u.HasWords :=
  fun n hn => h n (hn.trans hu)

theorem hasWords_scalar_iff {v : Json} (hv : v.isScalar = true) :
    v.HasWords ↔ ∀ n, v = .number n → n.IsWord := by
  constructor
  · exact fun h n hn => h n (hn ▸ .root)
  · intro h n hn
    cases hn with
    | root => exact h n rfl
    | item => cases hv
    | field => cases hv

theorem hasWords_array_iff {items : List Json} :
    (Json.array items).HasWords ↔ ∀ v ∈ items, v.HasWords := by
  constructor
  · exact fun h v hv => h.of_occurs (.item hv .root)
  · intro h n hn
    cases hn with
    | item mem inside => exact h _ mem n inside

theorem hasWords_object_iff {fields : List (String × Json)} :
    (Json.object fields).HasWords ↔ ∀ e ∈ fields, e.2.HasWords := by
  constructor
  · exact fun h e he => h.of_occurs (.field he .root)
  · intro h n hn
    cases hn with
    | field mem inside => exact h _ mem n inside

/-- The blanks between the lexemes of a text. -/
structure Layout where
  /-- before an item or a field at a level, or before the bracket that closes the level above -/
  line : Nat → List Char
  /-- after a colon -/
  gap : List Char
  line_blank : ∀ level, ∀ c ∈ line level, isBlank c = true
  gap_blank : ∀ c ∈ gap, isBlank c = true

namespace Layout

mutual

/-- A value at a level, in front of a text. -/
def valueOnto (l : Layout) (level : Nat) : Json → List Char → List Char
  | .array [], rest => '[' :: ']' :: rest
  | .array (v :: more), rest =>
    '[' :: (l.line (level + 1) ++ l.valueOnto (level + 1) v
      (l.itemsOnto (level + 1) more (l.line level ++ ']' :: rest)))
  | .object [], rest => '{' :: '}' :: rest
  | .object ((key, v) :: more), rest =>
    '{' :: (l.line (level + 1) ++ stringOnto key (':' :: (l.gap ++ l.valueOnto (level + 1) v
      (l.fieldsOnto (level + 1) more (l.line level ++ '}' :: rest)))))
  | .null, rest => compactOnto .null rest
  | .bool b, rest => compactOnto (.bool b) rest
  | .number n, rest => compactOnto (.number n) rest
  | .string s, rest => compactOnto (.string s) rest

/-- Items after the first. -/
def itemsOnto (l : Layout) (level : Nat) : List Json → List Char → List Char
  | [], rest => rest
  | v :: more, rest =>
    ',' :: (l.line level ++ l.valueOnto level v (l.itemsOnto level more rest))

def fieldsOnto (l : Layout) (level : Nat) : List (String × Json) → List Char → List Char
  | [], rest => rest
  | (key, v) :: more, rest =>
    ',' :: (l.line level ++ stringOnto key (':' :: (l.gap ++ l.valueOnto level v
      (l.fieldsOnto level more rest))))

end

/-- No blanks at all. -/
def tight : Layout := ⟨fun _ => [], [], nofun, nofun⟩

/-- A line for each item and field, two spaces for each level. -/
def indented : Layout where
  line level := lineOnto level []
  gap := [' ']
  line_blank level c hc := by
    simp only [lineOnto, List.append_nil, List.mem_cons, List.mem_replicate] at hc
    rcases hc with rfl | ⟨_, rfl⟩ <;> rfl
  gap_blank c hc := by
    obtain rfl := List.mem_singleton.mp hc
    rfl

mutual

theorem compactOnto_eq (level : Nat) :
    ∀ (v : Json) (rest : List Char), compactOnto v rest = tight.valueOnto level v rest
  | .null, _ | .bool _, _ | .number _, _ | .string _, _ => rfl
  | .array [], _ => rfl
  | .array (v :: more), rest => by
    simp only [compactOnto, Json.itemsOnto, if_true, valueOnto,
      compactOnto_eq (level + 1) v, itemsOnto_eq (level + 1) more]
    rfl
  | .object [], _ => rfl
  | .object ((key, v) :: more), rest => by
    simp only [compactOnto, Json.fieldsOnto, if_true, valueOnto,
      compactOnto_eq (level + 1) v, fieldsOnto_eq (level + 1) more]
    rfl

theorem itemsOnto_eq (level : Nat) : ∀ (items : List Json) (rest : List Char),
    Json.itemsOnto false items rest = tight.itemsOnto level items rest
  | [], _ => rfl
  | v :: more, rest => by
    simp only [Json.itemsOnto, itemsOnto, compactOnto_eq level v, itemsOnto_eq level more]
    rfl

theorem fieldsOnto_eq (level : Nat) : ∀ (fields : List (String × Json)) (rest : List Char),
    Json.fieldsOnto false fields rest = tight.fieldsOnto level fields rest
  | [], _ => rfl
  | (key, v) :: more, rest => by
    simp only [Json.fieldsOnto, fieldsOnto, compactOnto_eq level v, fieldsOnto_eq level more]
    rfl

end

theorem lineOnto_eq (level : Nat) (rest : List Char) :
    lineOnto level rest = indented.line level ++ rest := by
  simp [indented, lineOnto]

mutual

theorem prettyOnto_eq (level : Nat) :
    ∀ (v : Json) (rest : List Char), prettyOnto level v rest = indented.valueOnto level v rest
  | .null, _ | .bool _, _ | .number _, _ | .string _, _ => rfl
  | .array [], _ => rfl
  | .array (v :: more), rest => by
    rw [prettyOnto, valueOnto, lineOnto_eq, lineOnto_eq, prettyOnto_eq (level + 1) v,
      prettyItemsOnto_eq (level + 1) more]
  | .object [], _ => rfl
  | .object ((key, v) :: more), rest => by
    rw [prettyOnto, valueOnto, lineOnto_eq, lineOnto_eq, prettyOnto_eq (level + 1) v,
      prettyFieldsOnto_eq (level + 1) more]
    rfl

theorem prettyItemsOnto_eq (level : Nat) : ∀ (items : List Json) (rest : List Char),
    prettyItemsOnto level items rest = indented.itemsOnto level items rest
  | [], _ => rfl
  | v :: more, rest => by
    rw [prettyItemsOnto, itemsOnto, lineOnto_eq, prettyOnto_eq level v,
      prettyItemsOnto_eq level more]

theorem prettyFieldsOnto_eq (level : Nat) :
    ∀ (fields : List (String × Json)) (rest : List Char),
      prettyFieldsOnto level fields rest = indented.fieldsOnto level fields rest
  | [], _ => rfl
  | (key, v) :: more, rest => by
    rw [prettyFieldsOnto, fieldsOnto, lineOnto_eq, prettyOnto_eq level v,
      prettyFieldsOnto_eq level more]
    rfl

end

end Layout

mutual

theorem newline_of_mem_compactOnto : ∀ v : Json, v.HasWords → ∀ rest : List Char,
    '\n' ∈ compactOnto v rest → '\n' ∈ rest
  | .null, _, rest, h => by simpa [compactOnto, wordOnto] using h
  | .bool true, _, rest, h => by simpa [compactOnto, wordOnto] using h
  | .bool false, _, rest, h => by simpa [compactOnto, wordOnto] using h
  | .number n, hw, rest, h => by
    rw [compactOnto, wordOnto, List.mem_append] at h
    exact h.resolve_left (newline_notMem_text (hw n .root))
  | .string s, _, rest, h => newline_of_mem_stringOnto h
  | .array items, hw, rest, h => by
    have hinside : '\n' ∈ Json.itemsOnto true items (']' :: rest) := by
      simpa [compactOnto] using h
    simpa using newline_of_mem_itemsOnto items (hasWords_array_iff.mp hw) true _ hinside
  | .object fields, hw, rest, h => by
    have hinside : '\n' ∈ Json.fieldsOnto true fields ('}' :: rest) := by
      simpa [compactOnto] using h
    simpa using newline_of_mem_fieldsOnto fields (hasWords_object_iff.mp hw) true _ hinside

theorem newline_of_mem_itemsOnto : ∀ items : List Json, (∀ v ∈ items, v.HasWords) →
    ∀ (first : Bool) (rest : List Char), '\n' ∈ Json.itemsOnto first items rest → '\n' ∈ rest
  | [], _, _, _, h => h
  | v :: more, hw, first, rest, h => by
    obtain ⟨hv, hmore⟩ := List.forall_mem_cons.mp hw
    have hinside : '\n' ∈ compactOnto v (Json.itemsOnto false more rest) := by
      cases first <;> simpa [Json.itemsOnto] using h
    exact newline_of_mem_itemsOnto more hmore false rest
      (newline_of_mem_compactOnto v hv _ hinside)

theorem newline_of_mem_fieldsOnto : ∀ fields : List (String × Json),
    (∀ e ∈ fields, e.2.HasWords) → ∀ (first : Bool) (rest : List Char),
    '\n' ∈ Json.fieldsOnto first fields rest → '\n' ∈ rest
  | [], _, _, _, h => h
  | (key, v) :: more, hw, first, rest, h => by
    obtain ⟨hv, hmore⟩ := List.forall_mem_cons.mp hw
    have hname :
        '\n' ∈ stringOnto key (':' :: compactOnto v (Json.fieldsOnto false more rest)) := by
      cases first <;> simpa [Json.fieldsOnto] using h
    have hinside : '\n' ∈ compactOnto v (Json.fieldsOnto false more rest) := by
      simpa using newline_of_mem_stringOnto hname
    exact newline_of_mem_fieldsOnto more hmore false rest
      (newline_of_mem_compactOnto v hv _ hinside)

end

/-- The text without blanks is one line. -/
theorem newline_notMem_compact {v : Json} (h : v.HasWords) : '\n' ∉ v.compact.toList := by
  rw [compact, String.toList_ofList]
  exact fun hmem => absurd (newline_of_mem_compactOnto v h [] hmem) List.not_mem_nil

end DeclTree.Json
