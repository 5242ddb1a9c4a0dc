import DeclTree.Proofs.NormalFields
import DeclTree.Proofs.Unnoticed

/-!
# Kind tables are only names for numbers

`Json.symbolic` writes the name that a kind table gives into every object whose
kind is a number. Afterwards no table matters: with any other one the tree is
classified, named, normalized and walked as the old tree was with the first.
This needs that no name of an unmapped number is the name of a known kind
(`Kind.ofName_unnamed`).
-/

namespace DeclTree

namespace Json

/-- The fields of an object, with a kind that is a number replaced by its name. The kind is
the field that a look-up finds; an object that was read has no other of this name. -/
def nameKind (kinds : KindTable) (fields : List (String × Json)) : List (String × Json) :=
  match Ordered.get? fields "kind" with
  | some (.number n) => Ordered.put fields "kind" (.string (kinds.numberName n))
  | _ => fields

theorem nameKind_number {kinds : KindTable} {fields : List (String × Json)} {n : Number}
    (h : Ordered.get? fields "kind" = some (.number n)) :
    nameKind kinds fields = Ordered.put fields "kind" (.string (kinds.numberName n)) := by
  rw [nameKind, h]

theorem nameKind_of_ne {kinds : KindTable} {fields : List (String × Json)}
    (h : ∀ n, Ordered.get? fields "kind" ≠ some (.number n)) :
    nameKind kinds fields = fields := by
  rw [nameKind]
  split
  · rename_i n hn
    exact absurd hn (h n)
  · rfl

mutual

/-- Every kind that is a number replaced by its name, at every depth. -/
def symbolic (kinds : KindTable) : Json → Json
  | .array items => .array (symbolicAll kinds items)
  | .object fields => .object (nameKind kinds (symbolicFields kinds fields))
  | v => v

def symbolicAll (kinds : KindTable) : List Json → List Json
  | [] => []
  | v :: rest => symbolic kinds v :: symbolicAll kinds rest

def symbolicFields (kinds : KindTable) : List (String × Json) → List (String × Json)
  | [] => []
  | (key, v) :: rest => (key, symbolic kinds v) :: symbolicFields kinds rest

end

variable {kinds : KindTable}

theorem symbolicAll_eq (items : List Json) :
    symbolicAll kinds items = items.map (symbolic kinds) := by
  induction items with
  | nil => rfl
  | cons v rest ih => rw [symbolicAll, ih, List.map_cons]

theorem symbolicFields_eq (fields : List (String × Json)) :
    symbolicFields kinds fields = Ordered.mapValues (symbolic kinds) fields := by
  induction fields with
  | nil => rfl
  | cons e rest ih =>
    obtain ⟨key, v⟩ := e
    rw [symbolicFields, ih]
    rfl

/-- What becomes of the kind of an object. -/
def symbolicKind (kinds : KindTable) : Json → Json
  | .number n => .string (kinds.numberName n)
  | v => v.symbolic kinds

theorem get?_symbolicFields (fields : List (String × Json)) (key : String) :
    Ordered.get? (symbolicFields kinds fields) key =
      (Ordered.get? fields key).map (symbolic kinds) := by
  rw [symbolicFields_eq, Ordered.get?_mapValues]

theorem symbolic_get?_kind (v : Json) :
    (v.symbolic kinds).get? "kind" = (v.get? "kind").map (symbolicKind kinds) := by
  cases v with
  | object fields =>
    simp only [symbolic, get?, nameKind, get?_symbolicFields]
    cases h : Ordered.get? fields "kind" with
    | none => simp [get?_symbolicFields, h]
    | some k => cases k <;> simp [symbolic, symbolicKind, get?_symbolicFields, Ordered.get?_put, h]
  | _ => rfl

example : (object [("kind", .ofNat 5), ("pos", .ofNat 0)]).symbolic .empty =
    .object [("kind", .string "SyntaxKind(5)"), ("pos", .ofNat 0)] := by rfl

theorem symbolic_get? (v : Json) {key : String} (hk : key ≠ "kind") :
    (v.symbolic kinds).get? key = (v.get? key).map (symbolic kinds) := by
  cases v with
  | object fields =>
    have hput : ∀ s, Ordered.get? (Ordered.put (symbolicFields kinds fields) "kind" s) key =
        Ordered.get? (symbolicFields kinds fields) key := by
      intro s
      rw [Ordered.get?_put, if_neg (Ne.symm hk)]
    simp only [symbolic, get?, nameKind]
    split
    · rw [hput, get?_symbolicFields]
    · exact get?_symbolicFields fields key
  | _ => rfl

theorem symbolic_eq_number_iff (v : Json) (n : Number) :
    v.symbolic kinds = .number n ↔ v = .number n := by
  cases v <;> simp [symbolic]

theorem symbolic_string? (v : Json) : (v.symbolic kinds).string? = v.string? := by
  cases v <;> rfl

theorem symbolic_signed? (v : Json) : (v.symbolic kinds).signed? = v.signed? := by
  cases v <;> rfl

theorem symbolic_isNull (v : Json) : (v.symbolic kinds).isNull = v.isNull := by
  cases v <;> rfl

theorem symbolicKind_isNull (v : Json) : (symbolicKind kinds v).isNull = v.isNull := by
  cases v <;> rfl

theorem symbolic_text? (v : Json) : (v.symbolic kinds).text? = v.text? :=
  text?_of_get? symbolic_string? (symbolic_get? v (by decide)) (symbolic_get? v (by decide))

theorem symbolic_flags? (v : Json) : (v.symbolic kinds).flags? = v.flags? :=
  flags?_of_get? symbolic_signed? (symbolic_get? v (by decide))

theorem symbolic_kind? (v : Json) :
    (v.symbolic kinds).kind? = (v.kind?).map (symbolicKind kinds) :=
  field?_of_get? symbolicKind_isNull (symbolic_get?_kind v)

theorem symbolic_fieldwise (kinds : KindTable) : Fieldwise (symbolic kinds) where
  text := symbolic_text?
  isNull := symbolic_isNull
  array := by
    intro v
    cases v with
    | array items => rw [symbolic, array?, array?, Option.map_some, symbolicAll_eq]
    | _ => rfl
  get := by
    intro v key hk
    refine symbolic_get? v ?_
    rintro rfl
    exact absurd hk (by decide)

end Json

/-- The text of a number without a name is not the name of a kind of its own. -/
theorem Kind.ofName_unnamed (n : Number) :
    Kind.ofName (KindTable.unnamed n) = .other (KindTable.unnamed n) := by
  have hnamed : ∀ k ∈ named, k.name.toList.take 2 ≠ ['S', 'y'] := by decide
  have hunnamed : (KindTable.unnamed n).toList.take 2 = ['S', 'y'] := by
    simp [KindTable.unnamed, String.toList_append]
  have hnone : named.find? (·.name == KindTable.unnamed n) = none := by
    rw [List.find?_eq_none]
    intro k hk heq
    exact hnamed k hk (beq_iff_eq.mp heq ▸ hunnamed)
  rw [Kind.ofName, hnone, Option.getD_none]

namespace KindTable

theorem ofName_numberName (kinds : KindTable) (n : Number) :
    Kind.ofName (kinds.numberName n) = kinds.classify (some (.number n)) := by
  rw [numberName, classify]
  cases (n.signed?).bind kinds.nameOf? with
  | none => exact Kind.ofName_unnamed n
  | some name => rfl

theorem classify_symbolic (kinds other : KindTable) (v : Json) :
    (other.classify (v.symbolic kinds).kind?).known? = (kinds.classify v.kind?).known? := by
  rw [Json.symbolic_kind?]
  cases v.kind? with
  | none => rfl
  | some k =>
    cases k with
    | number n => exact congrArg Kind.known? (ofName_numberName kinds n)
    | _ => rfl

theorem kindName?_symbolic (kinds other : KindTable) (v : Json) :
    ((v.symbolic kinds).kind?).bind other.kindName? = (v.kind?).bind kinds.kindName? := by
  rw [Json.symbolic_kind?]
  cases v.kind? with
  | none => rfl
  | some k => cases k <;> rfl

end KindTable

namespace Normal

variable {kinds : KindTable}

/-- Naming a kind before normalizing is as good as naming it then. -/
theorem normalize_nameKind {fields named : List (String × Json)} (other : KindTable)
    (hnumber : ∀ n, Ordered.get? named "kind" = some (.number n) ↔
      Ordered.get? fields "kind" = some (.number n))
    (hfields : normalizeFields other named = normalizeFields kinds fields) :
    normalize other (.object (Json.nameKind kinds named)) = normalize kinds (.object fields) := by
  have hkept : isKept "kind" = true := by decide
  have hkind : Ordered.get? (normalizeFields kinds fields) "kind" = _ :=
    get?_normalizeFields fields hkept
  rw [normalize, normalize]
  by_cases h : ∃ n, Ordered.get? fields "kind" = some (.number n)
  · obtain ⟨n, hn⟩ := h
    rw [hn] at hkind
    rw [Json.nameKind_number ((hnumber n).mpr hn), normalizeFields_put _ hkept, hfields]
    exact (nameKind_put_string _ _).trans (nameKind_number hkind).symm
  · have hnamed : ∀ n, Ordered.get? named "kind" ≠ some (.number n) :=
      fun n hn => h ⟨n, (hnumber n).mp hn⟩
    rw [Json.nameKind_of_ne hnamed, hfields]
    refine nameKind_congr ?_ other
    intro n hn
    rw [hkind] at hn
    obtain ⟨k, hk, hk'⟩ := Option.map_eq_some_iff.mp hn
    exact h ⟨n, eq_number_of_normalize hk' ▸ hk⟩

mutual

theorem normalize_symbolic (kinds other : KindTable) :
    ∀ v, normalize other (v.symbolic kinds) = normalize kinds v
  | .null | .bool _ | .number _ | .string _ => rfl
  | .array items => by
    rw [Json.symbolic, normalize, normalize, normalizeAll_symbolic kinds other items]
  | .object fields => by
    rw [Json.symbolic]
    refine normalize_nameKind other ?_ (normalizeFields_symbolic kinds other fields)
    intro n
    rw [Json.get?_symbolicFields, Option.map_eq_some_iff]
    simp only [Json.symbolic_eq_number_iff, exists_eq_right]

theorem normalizeAll_symbolic (kinds other : KindTable) :
    ∀ items, normalizeAll other (Json.symbolicAll kinds items) = normalizeAll kinds items
  | [] => rfl
  | v :: rest => by
    rw [Json.symbolicAll, normalizeAll, normalizeAll, normalize_symbolic kinds other v,
      normalizeAll_symbolic kinds other rest]

theorem normalizeFields_symbolic (kinds other : KindTable) :
    ∀ fields, normalizeFields other (Json.symbolicFields kinds fields) =
      normalizeFields kinds fields
  | [] => rfl
  | (key, v) :: rest => by
    rw [Json.symbolicFields, normalizeFields, normalizeFields, normalize_symbolic kinds other v,
      normalizeFields_symbolic kinds other rest]

end

end Normal

namespace Walker

theorem unnoticed_symbolic (kinds other : KindTable) (print : Printer) (options : WalkOptions) :
    Unnoticed ⟨kinds, print, options⟩ ⟨other, print, options⟩ (Json.symbolic kinds) := by
  refine .of_fieldwise (Json.symbolic_fieldwise kinds) rfl ?_ ?_ ?_
  · intro v
    exact Statement.known?_classify options.namespaceFlags (kinds.classify_symbolic other v)
      (fun _ => Json.symbolic_flags? v)
  · intro v
    exact kinds.kindName?_symbolic other v
  · intro v
    exact congrArg print (Normal.normalize_symbolic kinds other v)

/-- Once the numbers are replaced by their names, any other table gives the same written
tree, the same namespace and the same normal node. -/
theorem walk_symbolic (kinds other : KindTable) (print : Printer) (options : WalkOptions)
    (ast : Json) (s : State) :
    let w : Walker := ⟨kinds, print, options⟩
    let w' : Walker := ⟨other, print, options⟩
    (w'.walk (ast.symbolic kinds) s).context.toJson = (w.walk ast s).context.toJson ∧
      (w'.walk (ast.symbolic kinds) s).state.scope = (w.walk ast s).state.scope ∧
      Normal.normalize other (ast.symbolic kinds) = Normal.normalize kinds ast := by
  intro w w'
  obtain ⟨htree, hscope⟩ := (unnoticed_symbolic kinds other print options).walk ast s
  exact ⟨htree, hscope, Normal.normalize_symbolic kinds other ast⟩

end Walker

end DeclTree
