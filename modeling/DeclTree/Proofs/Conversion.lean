import DeclTree.Normal
import DeclTree.Proofs.Writes

/-!
# Between normal nodes and JSON values

Taking a JSON value as a normal node and writing a normal node as a JSON value undo
each other as long as no field repeats. A field that repeats is in a node twice, but
in its JSON value once.
-/

namespace DeclTree.Normal

mutual

/-- No mapping, at any depth, has two fields of one name. -/
def DistinctKeys : Normal → Prop
  | .scalar _ => True
  | .sequence items => DistinctKeysAll items
  | .mapping fields => (Ordered.keys fields).Nodup ∧ DistinctKeysIn fields

def DistinctKeysAll : List Normal → Prop
  | [] => True
  | n :: rest => DistinctKeys n ∧ DistinctKeysAll rest

def DistinctKeysIn : List (String × Normal) → Prop
  | [] => True
  | (_, n) :: rest => DistinctKeys n ∧ DistinctKeysIn rest

end

theorem distinctKeysAll_iff (items : List Normal) :
    DistinctKeysAll items ↔ ∀ n ∈ items, n.DistinctKeys := by
  induction items with
  | nil => simp [DistinctKeysAll]
  | cons n rest ih => simp [DistinctKeysAll, ih]

theorem distinctKeysIn_iff (fields : List (String × Normal)) :
    DistinctKeysIn fields ↔ ∀ e ∈ fields, e.2.DistinctKeys := by
  induction fields with
  | nil => simp [DistinctKeysIn]
  | cons e rest ih => simp [DistinctKeysIn, ih]

theorem ofJsonAll_eq (items : List Json) : ofJsonAll items = items.map ofJson := by
  induction items with
  | nil => rfl
  | cons v rest ih => rw [ofJsonAll, ih, List.map_cons]

theorem ofJsonFields_eq (fields : List (String × Json)) :
    ofJsonFields fields = Ordered.mapValues ofJson fields := by
  induction fields with
  | nil => rfl
  | cons e rest ih =>
    obtain ⟨key, v⟩ := e
    rw [ofJsonFields, ih]
    rfl

theorem toJsonFields_eq (fields : List (String × Normal)) :
    toJsonFields fields = Ordered.mapValues toJson fields := by
  induction fields with
  | nil => rfl
  | cons e rest ih =>
    obtain ⟨key, n⟩ := e
    rw [toJsonFields, ih]
    rfl

mutual

/-- A node in which no field repeats is what is read from its JSON value. -/
theorem ofJson_toJson : ∀ n : Normal, n.DistinctKeys → ofJson n.toJson = n
  | .scalar s, _ => by cases s <;> rfl
  | .sequence items, h => by rw [toJson, ofJson, ofJsonAll_toJsonAll items h]
  | .mapping fields, h => by
    have hkeys : (Ordered.keys (toJsonFields fields)).Nodup := by
      rw [toJsonFields_eq, Ordered.keys_mapValues]
      exact h.1
    rw [toJson, ofJson, Ordered.ofList_of_nodup hkeys, ofJsonFields_toJsonFields fields h.2]

theorem ofJsonAll_toJsonAll :
    ∀ items : List Normal, DistinctKeysAll items → ofJsonAll (toJsonAll items) = items
  | [], _ => rfl
  | n :: rest, h => by
    rw [toJsonAll, ofJsonAll, ofJson_toJson n h.1, ofJsonAll_toJsonAll rest h.2]

theorem ofJsonFields_toJsonFields : ∀ fields : List (String × Normal),
    DistinctKeysIn fields → ofJsonFields (toJsonFields fields) = fields
  | [], _ => rfl
  | (key, n) :: rest, h => by
    rw [toJsonFields, ofJsonFields, ofJson_toJson n h.1, ofJsonFields_toJsonFields rest h.2]

end

end DeclTree.Normal
