import DeclTree.Proofs.NormalFields
import DeclTree.Proofs.Unnoticed

/-!
# Positions, back references and flags do not reach the tree

`Json.strip` takes the positions and back references out of every object, and the
flags out of every object that is not a module declaration: these are the only
flags that a walk reads, to tell namespaces from modules. No walk notices what
the removed fields held.
-/

namespace DeclTree

namespace Json

/-- Whether an object declares a module, so that its flags matter. -/
def isModule (kinds : KindTable) (v : Json) : Bool :=
  kinds.classify v.kind? == .moduleDeclaration

/-- Fields of positions and back references. -/
def placeFields : List String := ["pos", "end", "parent"]

/-- Whether a field stays; `flags` says whether flags do. -/
def isEssential (flags : Bool) (key : String) : Bool :=
  !placeFields.contains key && (flags || key != "flags")

mutual

/-- The value without positions, back references and the flags of anything but modules. -/
def strip (kinds : KindTable) : Json → Json
  | .array items => .array (stripAll kinds items)
  | .object fields =>
    .object (stripFields kinds (isEssential (isModule kinds (.object fields))) fields)
  | v => v

def stripAll (kinds : KindTable) : List Json → List Json
  | [] => []
  | v :: rest => strip kinds v :: stripAll kinds rest

def stripFields (kinds : KindTable) (stays : String → Bool) :
    List (String × Json) → List (String × Json)
  | [] => []
  | (key, v) :: rest =>
    if stays key then (key, strip kinds v) :: stripFields kinds stays rest
    else stripFields kinds stays rest

end

variable {kinds : KindTable}

theorem stripAll_eq (items : List Json) : stripAll kinds items = items.map (strip kinds) := by
  induction items with
  | nil => rfl
  | cons v rest ih => rw [stripAll, ih, List.map_cons]

theorem stripFields_eq (stays : String → Bool) (fields : List (String × Json)) :
    stripFields kinds stays fields =
      Ordered.mapValues (strip kinds) (fields.filter fun e => stays e.1) := by
  induction fields with
  | nil => rfl
  | cons e rest ih =>
    obtain ⟨key, v⟩ := e
    cases h : stays key with
    | true =>
      rw [stripFields, h, ih]
      simp only [List.filter_cons, h]
      rfl
    | false =>
      rw [stripFields, h, ih]
      simp only [List.filter_cons, h]
      rfl

theorem strip_get? (v : Json) {key : String}
    (hk : isEssential (isModule kinds v) key = true) :
    (v.strip kinds).get? key = (v.get? key).map (strip kinds) := by
  cases v with
  | object fields =>
    rw [strip, get?, get?, stripFields_eq, Ordered.get?_mapValues, Ordered.get?_filter hk]
  | _ => rfl

example :
    (object [("kind", .string "Identifier"), ("pos", .ofNat 0), ("flags", .ofNat 0)]).strip .empty =
      .object [("kind", .string "Identifier")] := by rfl

/-- Fields other than positions, back references and flags stay in every object. -/
theorem isEssential_of_false {key : String} (h : isEssential false key = true) (flags : Bool) :
    isEssential flags key = true := by
  cases flags with
  | false => exact h
  | true =>
    simp only [isEssential, Bool.and_eq_true] at h ⊢
    exact ⟨h.1, rfl⟩

theorem strip_string? (v : Json) : (v.strip kinds).string? = v.string? := by
  cases v <;> rfl

theorem strip_signed? (v : Json) : (v.strip kinds).signed? = v.signed? := by
  cases v <;> rfl

theorem strip_isNull (v : Json) : (v.strip kinds).isNull = v.isNull := by
  cases v <;> rfl

theorem strip_text? (v : Json) : (v.strip kinds).text? = v.text? :=
  text?_of_get? strip_string? (strip_get? v (isEssential_of_false (by decide) _))
    (strip_get? v (isEssential_of_false (by decide) _))

theorem strip_kind? (v : Json) : (v.strip kinds).kind? = (v.kind?).map (strip kinds) :=
  field?_of_get? strip_isNull (strip_get? v (isEssential_of_false (by decide) _))

/-- A module keeps its flags. -/
theorem strip_flags? {v : Json} (h : kinds.classify v.kind? = .moduleDeclaration) :
    (v.strip kinds).flags? = v.flags? := by
  have hmodule : isModule kinds v = true := by rw [isModule, h]; rfl
  exact flags?_of_get? strip_signed? (strip_get? v (by rw [hmodule]; decide))

theorem strip_fieldwise (kinds : KindTable) : Fieldwise (strip kinds) where
  text := strip_text?
  isNull := strip_isNull
  array := by
    intro v
    cases v with
    | array items => rw [strip, array?, array?, Option.map_some, stripAll_eq]
    | _ => rfl
  get := by
    intro v key hk
    have hfollowed : ∀ key ∈ followed, isEssential false key = true := by decide
    exact strip_get? v (isEssential_of_false (hfollowed key hk) _)

end Json

namespace KindTable

theorem classify_strip (kinds : KindTable) (v : Json) :
    (kinds.classify (v.strip kinds).kind?).known? = (kinds.classify v.kind?).known? := by
  rw [Json.strip_kind?]
  cases v.kind? with
  | none => rfl
  | some k => cases k <;> rfl

theorem kindName?_strip (kinds : KindTable) (v : Json) :
    ((v.strip kinds).kind?).bind kinds.kindName? = (v.kind?).bind kinds.kindName? := by
  rw [Json.strip_kind?]
  cases v.kind? with
  | none => rfl
  | some k => cases k <;> rfl

end KindTable

namespace Normal

mutual

theorem normalize_strip (kinds : KindTable) :
    ∀ v, normalize kinds (v.strip kinds) = normalize kinds v
  | .null | .bool _ | .number _ | .string _ => rfl
  | .array items => by
    rw [Json.strip, normalize, normalize, normalizeAll_strip kinds items]
  | .object fields => by
    have hstays : ∀ flags key, isKept key = true → Json.isEssential flags key = true := by
      intro flags key hk
      simp [isKept, omittedFields] at hk
      simp [Json.isEssential, Json.placeFields, hk]
    rw [Json.strip, normalize, normalize, normalizeFields_strip kinds _ (hstays _) fields]

theorem normalizeAll_strip (kinds : KindTable) :
    ∀ items, normalizeAll kinds (Json.stripAll kinds items) = normalizeAll kinds items
  | [] => rfl
  | v :: rest => by
    rw [Json.stripAll, normalizeAll, normalizeAll, normalize_strip kinds v,
      normalizeAll_strip kinds rest]

/-- Only fields that normalizing omits are gone. -/
theorem normalizeFields_strip (kinds : KindTable) (stays : String → Bool)
    (hstays : ∀ key, isKept key = true → stays key = true) :
    ∀ fields, normalizeFields kinds (Json.stripFields kinds stays fields) =
      normalizeFields kinds fields
  | [] => rfl
  | (key, v) :: rest => by
    have hrest := normalizeFields_strip kinds stays hstays rest
    cases h : stays key with
    | true =>
      rw [Json.stripFields, if_pos h, normalizeFields, normalizeFields, hrest,
        normalize_strip kinds v]
    | false =>
      have homitted : omittedFields.contains key = true := by
        cases ho : omittedFields.contains key with
        | true => rfl
        | false => exact absurd (hstays key (by rw [isKept, ho]; rfl)) (by rw [h]; decide)
      rw [Json.stripFields, if_neg (by rw [h]; decide), normalizeFields, if_pos homitted, hrest]

end

end Normal

namespace Walker

theorem unnoticed_strip (w : Walker) : Unnoticed w w (Json.strip w.kinds) := by
  refine .of_fieldwise (Json.strip_fieldwise w.kinds) rfl ?_ ?_ ?_
  · intro v
    exact Statement.known?_classify w.options.namespaceFlags (w.kinds.classify_strip v)
      Json.strip_flags?
  · intro v
    exact w.kinds.kindName?_strip v
  · intro v
    exact congrArg w.printer (Normal.normalize_strip w.kinds v)

/-- Positions, back references and the flags of anything but modules have no influence on
the written tree and on the namespace that a walk leaves. -/
theorem walk_strip (w : Walker) (ast : Json) (s : State) :
    (w.walk (ast.strip w.kinds) s).context.toJson = (w.walk ast s).context.toJson ∧
      (w.walk (ast.strip w.kinds) s).state.scope = (w.walk ast s).state.scope :=
  (unnoticed_strip w).walk ast s

end Walker

end DeclTree
