import DeclTree.Json.Writer
import DeclTree.Proofs.Conversion
import DeclTree.Proofs.Occurrences

/-!
# Nodes that are taken from values and changed

A mapping is a list of fields, and nothing in its type keeps a name from standing there twice.
Nodes that are taken from JSON values and then changed by setting fields (`Obtained`) have no
such field at any depth: setting a field replaces it where it stands or appends it
(`keys_set`), and the node that it is set to has no such field either. So these nodes and
their JSON values determine each other, and a node that is written field by field
(`verbatim`) is written as its JSON value.

Setting a field is seen in no look-up but its own. A field that is set to null is among the
keys, but its look-up finds nothing.
-/

namespace DeclTree.Normal

/-- A JSON value as it stands, or such a node with a field that is set to another one. -/
inductive Obtained : Normal → Prop
  | ofJson {v : Json} (distinct : v.DistinctKeys) : Obtained (ofJson v)
  | set {n value : Normal} (key : String) (node : Obtained n) (part : Obtained value) :
      Obtained (n.set key value)

/-! ### Setting a field -/

theorem get?_set_of_ne (n : Normal) {key other : String} (h : other ≠ key) (value : Normal) :
    (n.set key value).get? other = n.get? other := by
  cases n with
  | mapping fields => rw [set, get?, get?, Ordered.get?_put, if_neg h.symm]
  | _ => rfl

theorem get?_set_self (fields : List (String × Normal)) (key : String) (value : Normal) :
    ((mapping fields).set key value).get? key = if value.isNull then none else some value := by
  rw [set, get?, Ordered.get?_put, if_pos rfl]
  cases h : value.isNull <;> simp [h]

/-- A field that is there stays in its place, and any other comes last. -/
theorem keys_set (fields : List (String × Normal)) (key : String) (value : Normal) :
    ((mapping fields).set key value).keys =
      if key ∈ (mapping fields).keys then (mapping fields).keys
      else (mapping fields).keys ++ [key] :=
  Ordered.keys_put fields key value

theorem set_of_ne_mapping {n : Normal} (h : ∀ fields, n ≠ mapping fields) (key : String)
    (value : Normal) : n.set key value = n := by
  cases n with
  | mapping fields => exact absurd rfl (h fields)
  | _ => rfl

/-! ### Distinct keys -/

theorem distinctKeys_ofJson (v : Json) (h : v.DistinctKeys) : (ofJson v).DistinctKeys := by
  induction v using Json.byParts with
  | scalar v hv => cases v <;> trivial
  | array items ih =>
    rw [ofJson, ofJsonAll_eq, DistinctKeys, distinctKeysAll_iff]
    have hitems := (Json.distinctKeysAll_iff items).mp h
    exact List.forall_mem_map.mpr fun v hv => ih v hv (hitems v hv)
  | object fields ih =>
    rw [ofJson, ofJsonFields_eq, DistinctKeys, distinctKeysIn_iff, Ordered.keys_mapValues]
    have hfields := (Json.distinctKeysIn_iff fields).mp h.2
    constructor
    · exact h.1
    · exact List.forall_mem_map.mpr fun e he => ih e he (hfields e he)

theorem DistinctKeys.set {n value : Normal} (h : n.DistinctKeys) (hvalue : value.DistinctKeys)
    (key : String) : (n.set key value).DistinctKeys := by
  cases n with
  | mapping fields =>
    constructor
    · exact Ordered.nodup_keys_put h.1 key value
    · rw [distinctKeysIn_iff]
      intro e he
      rcases Ordered.mem_put he with hold | rfl
      · exact (distinctKeysIn_iff fields).mp h.2 e hold
      · exact hvalue
  | _ => exact h

theorem Obtained.distinctKeys {n : Normal} (h : n.Obtained) : n.DistinctKeys := by
  induction h with
  | ofJson distinct => exact distinctKeys_ofJson _ distinct
  | set key _ _ ihnode ihpart => exact ihnode.set ihpart key

/-! ### Back to the JSON value -/

mutual

theorem toJson_ofJson : ∀ v : Json, v.DistinctKeys → (ofJson v).toJson = v
  | .null, _ | .bool _, _ | .number _, _ | .string _, _ => rfl
  | .array items, h => by rw [ofJson, toJson, toJsonAll_ofJsonAll items h]
  | .object fields, h => by
    rw [ofJson, toJson, toJsonFields_ofJsonFields fields h.2, Ordered.ofList_of_nodup h.1]

theorem toJsonAll_ofJsonAll :
    ∀ items : List Json, Json.DistinctKeysAll items → toJsonAll (ofJsonAll items) = items
  | [], _ => rfl
  | v :: rest, h => by
    rw [ofJsonAll, toJsonAll, toJson_ofJson v h.1, toJsonAll_ofJsonAll rest h.2]

theorem toJsonFields_ofJsonFields : ∀ fields : List (String × Json),
    Json.DistinctKeysIn fields → toJsonFields (ofJsonFields fields) = fields
  | [], _ => rfl
  | (key, v) :: rest, h => by
    rw [ofJsonFields, toJsonFields, toJson_ofJson v h.1, toJsonFields_ofJsonFields rest h.2]

end

mutual

/-- Fields that are distinct are the same whether they are written one by one or merged. -/
theorem verbatim_eq_toJson : ∀ n : Normal, n.DistinctKeys → n.verbatim = n.toJson
  | .scalar _, _ => rfl
  | .sequence items, h => by rw [verbatim, toJson, verbatimAll_eq_toJsonAll items h]
  | .mapping fields, h => by
    have hkeys : (Ordered.keys (toJsonFields fields)).Nodup := by
      rw [toJsonFields_eq, Ordered.keys_mapValues]
      exact h.1
    rw [verbatim, toJson, verbatimFields_eq_toJsonFields fields h.2,
      Ordered.ofList_of_nodup hkeys]

theorem verbatimAll_eq_toJsonAll :
    ∀ items : List Normal, DistinctKeysAll items → verbatimAll items = toJsonAll items
  | [], _ => rfl
  | n :: rest, h => by
    rw [verbatimAll, toJsonAll, verbatim_eq_toJson n h.1, verbatimAll_eq_toJsonAll rest h.2]

theorem verbatimFields_eq_toJsonFields : ∀ fields : List (String × Normal),
    DistinctKeysIn fields → verbatimFields fields = toJsonFields fields
  | [], _ => rfl
  | (key, n) :: rest, h => by
    rw [verbatimFields, toJsonFields, verbatim_eq_toJson n h.1,
      verbatimFields_eq_toJsonFields rest h.2]

end

/-- A value is what its node is written as. A node that is taken from values and changed repeats
no field, is read from its JSON value and has the same texts as it. Setting a field of a mapping
is seen in no other look-up, leaves the keys in their order and adds its own only when it is
new; nothing but a mapping is changed. -/
theorem nodes_and_values_interconvert :
    (∀ v : Json, v.DistinctKeys → (ofJson v).toJson = v) ∧
    (∀ n : Normal, n.Obtained →
      n.DistinctKeys ∧ ofJson n.toJson = n ∧ n.verbatim.compact = n.toJson.compact ∧
        n.verbatim.pretty = n.toJson.pretty) ∧
    (∀ (fields : List (String × Normal)) (key : String) (value : Normal),
      let n := mapping fields
      (∀ other, other ≠ key → (n.set key value).get? other = n.get? other) ∧
        (n.set key value).get? key = (if value.isNull then none else some value) ∧
        (n.set key value).keys = (if key ∈ n.keys then n.keys else n.keys ++ [key])) ∧
    ∀ (n : Normal) (key : String) (value : Normal), (∀ fields, n ≠ mapping fields) →
      n.set key value = n := by
  refine ⟨toJson_ofJson, ?_, ?_, ?_⟩
  · intro n hn
    have hdistinct := hn.distinctKeys
    have hwritten := verbatim_eq_toJson n hdistinct
    exact ⟨hdistinct, ofJson_toJson n hdistinct, congrArg Json.compact hwritten,
      congrArg Json.pretty hwritten⟩
  · intro fields key value
    exact ⟨fun other hne => get?_set_of_ne _ hne value, get?_set_self fields key value,
      keys_set fields key value⟩
  · exact fun n key value hn => set_of_ne_mapping hn key value

/-- A null field that is set to a node with a field of the same name, one that is added as
null, and a sequence, which has no fields to set. -/
theorem nodes_and_values_interconvert_nested :
    let inner := Json.object [("a", .null), ("c", .array [.bool true])]
    let v := Json.object [("a", .null), ("b", inner)]
    let n := ((ofJson v).set "a" ((ofJson inner).set "a" (ofJson v))).set "z" (ofJson .null)
    v.DistinctKeys ∧ (ofJson v).toJson = v ∧
      n.Obtained ∧ ofJson n.toJson = n ∧ n.verbatim.compact = n.toJson.compact ∧
      n.keys = ["a", "b", "z"] ∧ n.get? "b" = some (ofJson inner) ∧ n.get? "z" = none ∧
      (sequence [n]).set "a" n = sequence [n] := by
  intro inner v n
  have hinner : inner.DistinctKeys :=
    ⟨(by decide : ["a", "c"].Nodup), trivial, ⟨trivial, trivial⟩, trivial⟩
  have hv : v.DistinctKeys := ⟨(by decide : ["a", "b"].Nodup), trivial, hinner, trivial⟩
  have hnull : Json.DistinctKeys .null := trivial
  have hn : n.Obtained := .set "z" (.set "a" (.ofJson hv) (.set "a" (.ofJson hinner) (.ofJson hv)))
    (.ofJson hnull)
  obtain ⟨hvalues, hnodes, hsets, hothers⟩ := nodes_and_values_interconvert
  obtain ⟨-, hread, hwritten, -⟩ := hnodes n hn
  obtain ⟨hsame, hself, -⟩ := hsets [("a", (ofJson inner).set "a" (ofJson v)),
    ("b", ofJson inner)] "z" (ofJson .null)
  refine ⟨hv, hvalues v hv, hn, hread, hwritten, by decide, ?_, hself, ?_⟩
  · exact (hsame "b" (by decide)).trans rfl
  · exact hothers _ "a" n nofun

end DeclTree.Normal
