import DeclTree.Proofs.Conversion
import DeclTree.Proofs.NamedKinds
import DeclTree.Proofs.PrintedParts

/-!
# Normal forms

A value is in normal form when no object in it has a field that normalizing omits
(`Json.OnlyKept`) or a number for its kind (`Json.Named`). Normalizing takes every value
to a normal form and leaves exactly the normal forms as they are, so to normalize twice
is to normalize once. It keeps the shape of a value: at every depth the fields that
survive stand in their order (`shape_normalize`).
-/

namespace DeclTree

namespace Json

/-- No object that occurs has a field that normalizing omits. -/
def OnlyKept (v : Json) : Prop :=
  ∀ u : Json, u.Occurs v → ∀ key ∈ omittedFields, u.get? key = none

theorem OnlyKept.of_occurs {u v : Json} (h : v.OnlyKept) (hu : u.Occurs v) : u.OnlyKept :=
  fun w hw => h w (hw.trans hu)

mutual

/-- The fields that survive, in their order at every depth, around scalars that are blanked. -/
def shape : Json → Normal
  | .array items => .sequence (shapeAll items)
  | .object fields => .mapping (shapeFields fields)
  | _ => .scalar .null

def shapeAll : List Json → List Normal
  | [] => []
  | v :: rest => shape v :: shapeAll rest

def shapeFields : List (String × Json) → List (String × Normal)
  | [] => []
  | (key, v) :: rest =>
    if omittedFields.contains key then shapeFields rest else (key, shape v) :: shapeFields rest

end

end Json

namespace Normal

/-- A node occurs in itself, and where it occurs in an item or in a field. -/
inductive Occurs (u : Normal) : Normal → Prop
  | root : Occurs u u
  | item {n : Normal} {items : List Normal} (mem : n ∈ items) (inside : Occurs u n) :
      Occurs u (.sequence items)
  | field {n : Normal} {key : String} {fields : List (String × Normal)}
      (mem : (key, n) ∈ fields) (inside : Occurs u n) : Occurs u (.mapping fields)

/-- No mapping that occurs has a number for its kind. -/
def Named (n : Normal) : Prop :=
  ∀ u : Normal, u.Occurs n → ∀ k, u.get? "kind" ≠ some (.scalar (.number k))

mutual

/-- The fields in their order at every depth, around scalars that are blanked. -/
def shape : Normal → Normal
  | .scalar _ => .scalar .null
  | .sequence items => .sequence (shapeAll items)
  | .mapping fields => .mapping (shapeFields fields)

def shapeAll : List Normal → List Normal
  | [] => []
  | n :: rest => shape n :: shapeAll rest

def shapeFields : List (String × Normal) → List (String × Normal)
  | [] => []
  | (key, n) :: rest => (key, shape n) :: shapeFields rest

end

variable {kinds : KindTable}

theorem get?_mapping_eq_number_iff (fields : List (String × Normal)) (key : String) (k : Number) :
    (mapping fields).get? key = some (.scalar (.number k)) ↔
      Ordered.get? fields key = some (.scalar (.number k)) := by
  rw [get?, Option.filter_eq_some_iff]
  exact and_iff_left_of_imp fun _ => rfl

theorem named_scalar (s : Scalar) : (scalar s).Named := by
  intro u hu k
  cases hu with
  | root => nofun

theorem named_sequence {items : List Normal} (h : ∀ n ∈ items, n.Named) :
    (sequence items).Named := by
  intro u hu k
  cases hu with
  | root => nofun
  | item hn inside => exact h _ hn u inside k

theorem named_mapping {fields : List (String × Normal)}
    (hkind : ∀ k, Ordered.get? fields "kind" ≠ some (.scalar (.number k)))
    (h : ∀ e ∈ fields, e.2.Named) : (mapping fields).Named := by
  intro u hu k
  cases hu with
  | root =>
    rw [ne_eq, get?_mapping_eq_number_iff]
    exact hkind k
  | field hn inside => exact h _ hn u inside k

theorem mentionsAll_eq_false_iff (key : String) (items : List Normal) :
    mentionsAll key items = false ↔ ∀ n ∈ items, n.mentions key = false := by
  induction items with
  | nil => simp [mentionsAll]
  | cons n rest ih => simp [mentionsAll, ih]

theorem mentionsIn_eq_false_iff (key : String) (fields : List (String × Normal)) :
    mentionsIn key fields = false ↔
      key ∉ Ordered.keys fields ∧ ∀ e ∈ fields, e.2.mentions key = false := by
  induction fields with
  | nil => simp [mentionsIn, Ordered.keys]
  | cons e rest ih =>
    obtain ⟨k, n⟩ := e
    have hkeys : key ∉ Ordered.keys ((k, n) :: rest) ↔ k ≠ key ∧ key ∉ Ordered.keys rest := by
      simp [Ordered.keys, ne_comm (a := k)]
    rw [mentionsIn, hkeys, List.forall_mem_cons, Bool.or_eq_false_iff, Bool.or_eq_false_iff, ih,
      beq_eq_false_iff_ne]
    tauto

theorem shapeFields_eq (fields : List (String × Normal)) :
    shapeFields fields = Ordered.mapValues shape fields := by
  induction fields with
  | nil => rfl
  | cons e rest ih =>
    obtain ⟨key, n⟩ := e
    rw [shapeFields, ih]
    rfl

/-- What naming the kind of a mapping leaves: the names of the fields and their shape, the
fields themselves unless one is the name of the kind, and no number for the kind. -/
theorem nameKind_fields (fields : List (String × Normal)) :
    ∃ named, nameKind kinds (.mapping fields) = .mapping named ∧
      Ordered.keys named = Ordered.keys fields ∧ shapeFields named = shapeFields fields ∧
      (∀ e ∈ named, e ∈ fields ∨ ∃ s, e.2 = .string s) ∧
      ∀ k, Ordered.get? named "kind" ≠ some (.scalar (.number k)) := by
  rcases @nameKind_cases kinds fields with ⟨n, hn, hnamed⟩ | ⟨hne, hnamed⟩
  · refine ⟨_, hnamed, ?_, ?_, ?_, ?_⟩
    · have hmem : "kind" ∈ Ordered.keys fields :=
        List.mem_map.mpr ⟨_, Ordered.mem_of_get? hn, rfl⟩
      rw [Ordered.keys_put, if_pos hmem]
    · have hblank : Ordered.get? (Ordered.mapValues shape fields) "kind" =
          some (shape (.string (kinds.numberName n))) := by
        rw [Ordered.get?_mapValues, hn]
        rfl
      rw [shapeFields_eq, shapeFields_eq, ← Ordered.put_mapValues, Ordered.put_of_get? hblank]
    · intro e he
      rcases Ordered.mem_put he with old | new
      · exact .inl old
      · exact .inr ⟨_, congrArg Prod.snd new⟩
    · intro k
      rw [Ordered.get?_put, if_pos rfl]
      nofun
  · exact ⟨fields, hnamed, rfl, rfl, fun e he => .inl he, hne⟩

/-- The fields of a normalized object: where they come from and that none is omitted. -/
theorem mem_normalizeFields {fields : List (String × Json)} {e : String × Normal}
    (h : e ∈ normalizeFields kinds fields) :
    e.1 ∉ omittedFields ∧ ∃ v, (e.1, v) ∈ fields ∧ e.2 = normalize kinds v := by
  rw [normalizeFields_eq] at h
  obtain ⟨⟨key, v⟩, hmem, rfl⟩ := List.mem_map.mp h
  obtain ⟨hfield, hkept⟩ := List.mem_filter.mp hmem
  refine ⟨?_, v, hfield, rfl⟩
  simpa [isKept] using hkept

theorem normalize_scalar {v : Json} (h : v.isScalar = true) :
    ∃ s, normalize kinds v = .scalar s ∧ ofJson v = .scalar s := by
  cases v with
  | array items => cases h
  | object fields => cases h
  | _ => exact ⟨_, rfl, rfl⟩

/-- No mapping of a normalized value has a number for its kind. -/
theorem named_normalize (kinds : KindTable) (v : Json) : (normalize kinds v).Named := by
  induction v using Json.byParts with
  | scalar v h =>
    obtain ⟨s, hs, -⟩ := @normalize_scalar kinds v h
    rw [hs]
    exact named_scalar s
  | array items ih =>
    rw [normalize, normalizeAll_eq]
    exact named_sequence (List.forall_mem_map.mpr ih)
  | object fields ih =>
    obtain ⟨named, hnamed, -, -, hmem, hkind⟩ :=
      @nameKind_fields kinds (normalizeFields kinds fields)
    rw [normalize, hnamed]
    refine named_mapping hkind fun e he => ?_
    rcases hmem e he with old | ⟨s, hs⟩
    · obtain ⟨-, v, hv, hnormal⟩ := mem_normalizeFields old
      rw [hnormal]
      exact ih _ hv
    · rw [hs]
      exact named_scalar _

/-- An omitted field is nowhere in a normalized value. -/
theorem mentions_normalize (kinds : KindTable) {key : String} (hkey : key ∈ omittedFields)
    (v : Json) : (normalize kinds v).mentions key = false := by
  induction v using Json.byParts with
  | scalar v h =>
    obtain ⟨s, hs, -⟩ := @normalize_scalar kinds v h
    rw [hs]
    rfl
  | array items ih =>
    rw [normalize, normalizeAll_eq, mentions, mentionsAll_eq_false_iff]
    exact List.forall_mem_map.mpr ih
  | object fields ih =>
    obtain ⟨named, hnamed, hkeys, -, hmem, -⟩ :=
      @nameKind_fields kinds (normalizeFields kinds fields)
    rw [normalize, hnamed, mentions, mentionsIn_eq_false_iff, hkeys]
    constructor
    · intro hin
      obtain ⟨e, he, rfl⟩ := List.mem_map.mp hin
      exact (mem_normalizeFields he).1 hkey
    · intro e he
      rcases hmem e he with old | ⟨s, hs⟩
      · obtain ⟨-, v, hv, hnormal⟩ := mem_normalizeFields old
        rw [hnormal]
        exact ih _ hv
      · rw [hs]
        rfl

theorem omittedLeft_normalize (kinds : KindTable) (v : Json) :
    (normalize kinds v).omittedLeft = [] := by
  rw [omittedLeft, List.filter_eq_nil_iff]
  intro key hkey
  rw [mentions_normalize kinds hkey]
  exact Bool.false_ne_true

/-- Normalizing repeats no field that was there once. -/
theorem distinctKeys_normalize (kinds : KindTable) (v : Json) (h : v.DistinctKeys) :
    (normalize kinds v).DistinctKeys := by
  induction v using Json.byParts with
  | scalar v hv =>
    obtain ⟨s, hs, -⟩ := @normalize_scalar kinds v hv
    rw [hs]
    trivial
  | array items ih =>
    rw [normalize, normalizeAll_eq, DistinctKeys, distinctKeysAll_iff]
    exact List.forall_mem_map.mpr fun v hv =>
      ih v hv ((Json.distinctKeysAll_iff items).mp h v hv)
  | object fields ih =>
    obtain ⟨named, hnamed, hkeys, -, hmem, -⟩ :=
      @nameKind_fields kinds (normalizeFields kinds fields)
    rw [normalize, hnamed, DistinctKeys, hkeys, distinctKeysIn_iff]
    constructor
    · have hsub : (Ordered.keys (normalizeFields kinds fields)).Sublist (Ordered.keys fields) := by
        rw [normalizeFields_eq, Ordered.keys_mapValues]
        exact List.filter_sublist.map Prod.fst
      exact hsub.nodup h.1
    · intro e he
      rcases hmem e he with old | ⟨s, hs⟩
      · obtain ⟨-, v, hv, hnormal⟩ := mem_normalizeFields old
        rw [hnormal]
        exact ih _ hv ((Json.distinctKeysIn_iff fields).mp h.2 _ hv)
      · rw [hs]
        trivial

mutual

/-- At every depth the fields that survive stand in the order in which they were. -/
theorem shape_normalize (kinds : KindTable) : ∀ v : Json, (normalize kinds v).shape = v.shape
  | .null | .bool _ | .number _ | .string _ => rfl
  | .array items => by rw [normalize, shape, shapeAll_normalize kinds items, Json.shape]
  | .object fields => by
    obtain ⟨named, hnamed, -, hshape, -⟩ := @nameKind_fields kinds (normalizeFields kinds fields)
    rw [normalize, hnamed, shape, hshape, shapeFields_normalize kinds fields, Json.shape]

theorem shapeAll_normalize (kinds : KindTable) :
    ∀ items, shapeAll (normalizeAll kinds items) = Json.shapeAll items
  | [] => rfl
  | v :: rest => by
    rw [normalizeAll, shapeAll, shape_normalize kinds v, shapeAll_normalize kinds rest,
      Json.shapeAll]

theorem shapeFields_normalize (kinds : KindTable) :
    ∀ fields, shapeFields (normalizeFields kinds fields) = Json.shapeFields fields
  | [] => rfl
  | (key, v) :: rest => by
    rw [normalizeFields, Json.shapeFields]
    split
    · exact shapeFields_normalize kinds rest
    · rw [shapeFields, shape_normalize kinds v, shapeFields_normalize kinds rest]

end

/-- A value in normal form is normalized by being taken as it stands. -/
theorem normalize_of_normal (kinds : KindTable) (v : Json) (hkept : v.OnlyKept)
    (hnamed : v.Named) : normalize kinds v = ofJson v := by
  induction v using Json.byParts with
  | scalar v h =>
    obtain ⟨s, hs, hsame⟩ := @normalize_scalar kinds v h
    rw [hs, hsame]
  | array items ih =>
    rw [normalize, ofJson, normalizeAll_eq, ofJsonAll_eq]
    congr 1
    refine List.map_congr_left fun v hv => ?_
    have hoccurs : v.Occurs (.array items) := .item hv .root
    exact ih v hv (hkept.of_occurs hoccurs) (hnamed.of_occurs hoccurs)
  | object fields ih =>
    have hfields : normalizeFields kinds fields = ofJsonFields fields := by
      have hall : fields.filter (fun e => isKept e.1) = fields := by
        refine List.filter_eq_self.mpr fun e he => ?_
        have hne : e.1 ∉ omittedFields := fun hin =>
          (Ordered.get?_eq_none_iff fields e.1).mp (hkept _ .root _ hin)
            (List.mem_map.mpr ⟨e, he, rfl⟩)
        simpa [isKept] using hne
      rw [normalizeFields_eq, ofJsonFields_eq, hall]
      refine List.map_congr_left fun e he => ?_
      have hoccurs : e.2.Occurs (.object fields) := .field he .root
      rw [ih e he (hkept.of_occurs hoccurs) (hnamed.of_occurs hoccurs)]
    have hkind : ∀ n, Ordered.get? (ofJsonFields fields) "kind" ≠ some (.scalar (.number n)) := by
      intro n hn
      rw [ofJsonFields_eq, Ordered.get?_mapValues, Option.map_eq_some_iff] at hn
      obtain ⟨u, hu, hnumber⟩ := hn
      cases u with
      | number m => exact hnamed _ .root m hu
      | _ => cases hnumber
    rw [normalize, ofJson, hfields]
    rcases @nameKind_cases kinds (ofJsonFields fields) with ⟨n, hn, -⟩ | ⟨-, hsame⟩
    · exact absurd hn (hkind n)
    · exact hsame

theorem occurs_ofJson {u v : Json} (h : u.Occurs v) : (ofJson u).Occurs (ofJson v) := by
  induction h with
  | root => exact .root
  | @item v items mem _ ih =>
    rw [ofJson, ofJsonAll_eq]
    exact .item (List.mem_map.mpr ⟨v, mem, rfl⟩) ih
  | @field v key fields mem _ ih =>
    rw [ofJson, ofJsonFields_eq]
    exact .field (List.mem_map.mpr ⟨(key, v), mem, rfl⟩) ih

theorem mentions_of_occurs {u n : Normal} {key : String} (h : u.Occurs n)
    (hn : n.mentions key = false) : u.mentions key = false := by
  induction h with
  | root => exact hn
  | item mem _ ih => exact ih ((mentionsAll_eq_false_iff _ _).mp hn _ mem)
  | field mem _ ih => exact ih (((mentionsIn_eq_false_iff _ _).mp hn).2 _ mem)

/-- A value is in normal form when it is so once it is taken as a normal node. -/
theorem onlyKept_of_ofJson {v : Json}
    (h : ∀ key ∈ omittedFields, (ofJson v).mentions key = false) : v.OnlyKept := by
  intro u hu key hkey
  have hmentions := mentions_of_occurs (occurs_ofJson hu) (h key hkey)
  cases u with
  | object fields =>
    rw [ofJson, mentions, mentionsIn_eq_false_iff, ofJsonFields_eq, Ordered.keys_mapValues]
      at hmentions
    exact (Ordered.get?_eq_none_iff fields key).mpr hmentions.1
  | _ => rfl

theorem named_of_ofJson {v : Json} (h : (ofJson v).Named) : v.Named := by
  intro u hu n hn
  cases u with
  | object fields =>
    refine h _ (occurs_ofJson hu) n ?_
    have hget : Ordered.get? fields "kind" = some (.number n) := hn
    rw [ofJson, get?_mapping_eq_number_iff, ofJsonFields_eq, Ordered.get?_mapValues, hget]
    rfl
  | _ => cases hn

/-- A normalized value has no omitted field at any depth and no number for a kind; it is the
value as it stands exactly when this holds of the value already. So normalizing it again
changes nothing, with whatever table, and at every depth the fields that survive stand in
the order in which they were. -/
theorem normalize_gives_normal_form (kinds : KindTable) (v : Json) :
    (∀ key ∈ omittedFields, (normalize kinds v).mentions key = false) ∧
      (normalize kinds v).Named ∧
      (normalize kinds v = ofJson v ↔ v.OnlyKept ∧ v.Named) ∧
      (v.DistinctKeys → ∀ other : KindTable,
        normalize other (normalize kinds v).toJson = normalize kinds v) ∧
      (normalize kinds v).shape = v.shape := by
  have hmentions : ∀ key ∈ omittedFields, (normalize kinds v).mentions key = false :=
    fun key hkey => mentions_normalize kinds hkey v
  have hnamed := named_normalize kinds v
  refine ⟨hmentions, hnamed, ?_, ?_, shape_normalize kinds v⟩
  · constructor
    · intro heq
      rw [heq] at hmentions hnamed
      exact ⟨onlyKept_of_ofJson hmentions, named_of_ofJson hnamed⟩
    · intro h
      exact normalize_of_normal kinds v h.1 h.2
  · intro hkeys other
    -- the node is read back from its JSON value, so this is in normal form too
    have hback : ofJson (normalize kinds v).toJson = normalize kinds v :=
      ofJson_toJson _ (distinctKeys_normalize kinds v hkeys)
    rw [← hback] at hmentions hnamed
    exact (normalize_of_normal other _ (onlyKept_of_ofJson hmentions)
      (named_of_ofJson hnamed)).trans hback

/-- A kind that is an object with a kind, and in an item a number without a name. -/
theorem normalize_gives_normal_form_nested :
    let kinds : KindTable := ⟨[(5, "Block")]⟩
    let value : Json := .object [
      ("pos", .ofNat 0), ("kind", .object [("kind", .ofNat 5), ("flags", .ofNat 1)]),
      ("items", .array [.object [("kind", .ofNat 9223372036854775808), ("end", .null)]])]
    let node : Normal := .mapping [
      ("kind", .mapping [("kind", .string "Block")]),
      ("items", .sequence [.mapping [("kind", .string "SyntaxKind(9223372036854775808)")]])]
    value.DistinctKeys ∧ "flags" ∈ omittedFields ∧ normalize kinds value = node ∧
      node.mentions "flags" = false ∧ node.Named ∧ normalize .empty node.toJson = node ∧
      ¬ (value.OnlyKept ∧ value.Named) := by
  intro kinds value node
  have hkeys : value.DistinctKeys :=
    ⟨by decide, trivial, ⟨by decide, trivial, trivial, trivial⟩,
      ⟨⟨by decide, trivial, trivial, trivial⟩, trivial⟩, trivial⟩
  have hflags : "flags" ∈ omittedFields := by decide
  have hnode : normalize kinds value = node := by rfl
  have hne : normalize kinds value ≠ ofJson value := by decide
  obtain ⟨hmentions, hnamed, hsame, hagain, -⟩ := normalize_gives_normal_form kinds value
  rw [hnode] at hmentions hnamed hagain
  exact ⟨hkeys, hflags, hnode, hmentions "flags" hflags, hnamed, hagain hkeys .empty,
    mt hsame.mpr hne⟩

end Normal

end DeclTree
