import DeclTree.Node

/-!
# Values inside a JSON value

A value occurs in another when it is that value or stands in one of its items or fields, at any
depth. What a look-up finds occurs in the value that was looked into.
-/

namespace DeclTree.Json

/-- What holds of a value when it holds of its items or of the values of its fields holds of
every value. -/
@[elab_as_elim]
theorem byParts {P : Json → Prop} (scalar : ∀ v : Json, v.isScalar = true → P v)
    (array : ∀ items, (∀ v ∈ items, P v) → P (.array items))
    (object : ∀ fields, (∀ e ∈ fields, P e.2) → P (.object fields)) (v : Json) : P v := by
  refine @Json.rec P (fun items => ∀ v ∈ items, P v) (fun fields => ∀ e ∈ fields, P e.2)
    (fun e => P e.2) (scalar _ rfl) (fun b => scalar _ rfl) (fun n => scalar _ rfl)
    (fun s => scalar _ rfl) array object ?_ ?_ ?_ ?_ (fun key v ih => ih) v
  · nofun
  · exact fun v rest hv hrest => List.forall_mem_cons.mpr ⟨hv, hrest⟩
  · nofun
  · exact fun e rest he hrest => List.forall_mem_cons.mpr ⟨he, hrest⟩

theorem distinctKeysAll_iff (items : List Json) :
    DistinctKeysAll items ↔ ∀ v ∈ items, v.DistinctKeys := by
  induction items with
  | nil => simp [DistinctKeysAll]
  | cons v rest ih => simp [DistinctKeysAll, ih]

theorem distinctKeysIn_iff (fields : List (String × Json)) :
    DistinctKeysIn fields ↔ ∀ e ∈ fields, e.2.DistinctKeys := by
  induction fields with
  | nil => simp [DistinctKeysIn]
  | cons e rest ih => simp [DistinctKeysIn, ih]

/-- A value occurs in itself, and where it occurs in an item or in a field. -/
inductive Occurs (u : Json) : Json → Prop
  | root : Occurs u u
  | item {v : Json} {items : List Json} (mem : v ∈ items) (inside : Occurs u v) :
      Occurs u (.array items)
  | field {v : Json} {key : String} {fields : List (String × Json)} (mem : (key, v) ∈ fields)
      (inside : Occurs u v) : Occurs u (.object fields)

theorem Occurs.trans {u v w : Json} (huv : u.Occurs v) (hvw : v.Occurs w) : u.Occurs w := by
  induction hvw with
  | root => exact huv
  | item mem _ ih => exact .item mem ih
  | field mem _ ih => exact .field mem ih

theorem occurs_of_get? {v u : Json} {key : String} (h : v.get? key = some u) : u.Occurs v := by
  cases v with
  | object fields => exact .field (Ordered.mem_of_get? h) .root
  | _ => cases h

theorem occurs_of_field? {v u : Json} {key : String} (h : v.field? key = some u) : u.Occurs v :=
  occurs_of_get? (Option.filter_eq_some_iff.mp h).1

theorem occurs_of_mem_sequence? {v u : Json} (key : String) {items : List Json}
    (h : v.sequence? key = some items) (hu : u ∈ items) : u.Occurs v := by
  obtain ⟨sequence, hsequence, harray⟩ := Option.bind_eq_some_iff.mp h
  cases sequence with
  | array items =>
    cases harray
    exact (Occurs.item hu .root).trans (occurs_of_get? hsequence)
  | _ => cases harray

end DeclTree.Json
