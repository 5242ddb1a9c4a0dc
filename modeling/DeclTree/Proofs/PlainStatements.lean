import DeclTree.Members
import DeclTree.Proofs.Unnoticed

/-!
# Modifiers and places of statements

`Json.plain` takes the modifiers and the place out of a statement and out of the
statements inside it, and leaves everything else as it is. A walk does not see the
difference (`Walker.unnoticed_plain`), and the members that are found are the same
(`findMembers_plain`). Unlike positions, modifiers are removed from statements only: those
of a parameter may show in a printed name.
-/

namespace DeclTree

namespace Json

/-- The value without the fields of a name. -/
def without (key : String) : Json → Json
  | .object fields => .object (fields.filter fun e => e.1 != key)
  | v => v

/-- Fields of a statement that say nothing about what it declares. -/
def incidental : List String := ["modifiers", "pos", "end"]

mutual

/-- A statement without its modifiers and its place, and so the statements inside it. -/
def plain : Json → Json
  | .object fields => .object (plainFields fields)
  | v => v

def plainFields : List (String × Json) → List (String × Json)
  | [] => []
  | (key, v) :: rest =>
    if incidental.contains key then plainFields rest
    else if key = "body" then (key, plain v) :: plainFields rest
    else if key = "statements" then (key, plainItems v) :: plainFields rest
    else (key, v) :: plainFields rest

def plainItems : Json → Json
  | .array items => .array (plainAll items)
  | v => v

def plainAll : List Json → List Json
  | [] => []
  | v :: rest => plain v :: plainAll rest

end

theorem plainAll_eq (items : List Json) : plainAll items = items.map plain := by
  induction items with
  | nil => rfl
  | cons v rest ih => rw [plainAll, ih, List.map_cons]

/-- What becomes of the value of a field that stays. -/
def plainField (key : String) (v : Json) : Json :=
  if key = "body" then plain v else if key = "statements" then plainItems v else v

theorem plainFields_cons (key : String) (v : Json) (rest : List (String × Json)) :
    plainFields ((key, v) :: rest) =
      if incidental.contains key then plainFields rest
      else (key, plainField key v) :: plainFields rest := by
  rw [plainFields, plainField]
  split
  · rfl
  · split
    · rfl
    · split <;> rfl

theorem get?_plainFields (fields : List (String × Json)) {key : String}
    (hkey : incidental.contains key = false) :
    Ordered.get? (plainFields fields) key = (Ordered.get? fields key).map (plainField key) := by
  induction fields with
  | nil => rfl
  | cons e rest ih =>
    obtain ⟨k, v⟩ := e
    rw [plainFields_cons]
    by_cases h : k = key
    · subst h
      simp only [hkey, Ordered.get?, if_true, Bool.false_eq_true, if_false, Option.map_some]
    · cases hk : incidental.contains k with
      | true => simpa only [Ordered.get?, h, if_true, if_false] using ih
      | false => simpa only [Ordered.get?, h, Bool.false_eq_true, if_false] using ih

theorem plain_get? (v : Json) {key : String} (hkey : incidental.contains key = false) :
    v.plain.get? key = (v.get? key).map (plainField key) := by
  cases v with
  | object fields => exact get?_plainFields fields hkey
  | _ => rfl

theorem plain_isNull (v : Json) : v.plain.isNull = v.isNull := by
  cases v <;> rfl

/-- Whether a field of a statement stays as it is. -/
def isUntouched (key : String) : Bool :=
  !incidental.contains key && key != "body" && key != "statements"

/-- Fields that hold no statements stay as they are. -/
theorem plain_get?_same (v : Json) {key : String} (h : isUntouched key = true) :
    v.plain.get? key = v.get? key := by
  simp only [isUntouched, Bool.and_eq_true, Bool.not_eq_true', bne_iff_ne, ne_eq] at h
  obtain ⟨⟨hkey, hbody⟩, hstatements⟩ := h
  have hsame : plainField key = id := by
    funext u
    rw [plainField, if_neg hbody, if_neg hstatements]
    rfl
  rw [plain_get? v hkey, hsame, Option.map_id]
  rfl

theorem plain_field? (v : Json) {key : String} (h : isUntouched key = true) :
    v.plain.field? key = v.field? key := by
  rw [field?, field?, plain_get?_same v h]

theorem plain_textOf? (v : Json) {key : String} (h : isUntouched key = true) :
    v.plain.textOf? key = v.textOf? key := by
  rw [textOf?, textOf?, plain_field? v h]

theorem plain_kind? (v : Json) : v.plain.kind? = v.kind? := plain_field? v (by decide)

theorem plain_flags? (v : Json) : v.plain.flags? = v.flags? := by
  rw [flags?, flags?, plain_get?_same v (by decide)]

theorem plain_members? (v : Json) : v.plain.members? = v.members? := by
  rw [members?, members?, sequence?, sequence?, plain_get?_same v (by decide)]

theorem plain_body (v : Json) : v.plain.field? "body" = (v.field? "body").map plain :=
  field?_of_get? plain_isNull (plain_get? v (by decide))

theorem plain_statements? (v : Json) :
    v.plain.statements? = (v.statements?).map (List.map plain) := by
  rw [statements?, statements?, sequence?, sequence?, plain_get? v (by decide)]
  cases v.get? "statements" with
  | none => rfl
  | some u =>
    cases u with
    | array items => exact congrArg some (plainAll_eq items)
    | _ => rfl

theorem plain_units (v : Json) : v.plain.units = v.units.map plain := by
  rw [units, units, plain_statements?]
  cases v.statements? <;> rfl

/-- Modifiers that are gone already make no difference. -/
theorem plain_without_modifiers (v : Json) : (v.without "modifiers").plain = v.plain := by
  cases v with
  | object fields =>
    rw [without, plain, plain]
    congr 1
    induction fields with
    | nil => rfl
    | cons e rest ih =>
      obtain ⟨key, u⟩ := e
      by_cases h : key = "modifiers"
      · subst h
        simpa [plainFields_cons, incidental] using ih
      · simp [plainFields_cons, h, ih]
  | _ => rfl

end Json

/-- A name comes from fields that hold no statements. -/
theorem Name.resolve_plain (kinds : KindTable) (print : Printer) (v : Json) :
    resolve kinds print v.plain = resolve kinds print v := by
  have hdirect : direct? v.plain = direct? v := by
    rw [direct?, direct?, Json.plain_textOf? v (by decide), Json.plain_field? v (by decide),
      Json.plain_textOf? v (by decide)]
  rw [resolve, resolve, hdirect, Json.plain_field? v (by decide), Json.plain_field? v (by decide)]

theorem declaresMembers_plain (kinds : KindTable) (v : Json) :
    declaresMembers kinds v.plain = declaresMembers kinds v := by
  rw [declaresMembers, declaresMembers, Json.plain_kind?]

/-- The members of a class or interface are no statements, so they are found as they are. -/
theorem findMembers_plain (kinds : KindTable) (root : Json) (name : String) :
    findMembers kinds root.plain name = findMembers kinds root name := by
  have hdeclares : declaresMembers kinds ∘ Json.plain = declaresMembers kinds :=
    funext (declaresMembers_plain kinds)
  have hnamed : (fun v : Json => v.textOf? "name" == some name) ∘ Json.plain =
      fun v => v.textOf? "name" == some name := by
    funext v
    exact congrArg (· == some name) (Json.plain_textOf? v (by decide))
  have hmembers : Json.members? ∘ Json.plain = Json.members? := funext Json.plain_members?
  rw [findMembers, findMembers, Json.plain_statements?]
  cases root.statements? with
  | none => rfl
  | some statements =>
    simp only [Option.map_some, List.filter_map, List.findSome?_map, hdeclares, hnamed, hmembers]

namespace Walker

theorem unnoticed_plain (w : Walker) : Unnoticed w w Json.plain where
  limit := rfl
  statement := by
    intro v
    refine Statement.known?_classify w.options.namespaceFlags ?_ (fun _ => Json.plain_flags? v)
    rw [Json.plain_kind?]
  resolve := Name.resolve_plain w.kinds w.printer
  kindName := by
    intro v
    rw [Json.plain_kind?]
  ownName := fun v => Json.plain_textOf? v (by decide)
  body := Json.plain_body
  units := Json.plain_units

/-- Programs that are the same but for modifiers and places are walked alike. -/
theorem walk_of_plain (w : Walker) {v v' : Json} (h : v'.plain = v.plain) (s : State) :
    (w.walk v' s).context.toJson = (w.walk v s).context.toJson ∧
      (w.walk v' s).state.scope = (w.walk v s).state.scope := by
  obtain ⟨htree, hscope⟩ := (unnoticed_plain w).walk v s
  obtain ⟨htree', hscope'⟩ := (unnoticed_plain w).walk v' s
  rw [h] at htree' hscope'
  exact ⟨htree'.symm.trans htree, hscope'.symm.trans hscope⟩

end Walker

end DeclTree
