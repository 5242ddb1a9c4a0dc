import DeclTree.Normalize
import DeclTree.Proofs.Writes

/-!
# The fields of a normalized object

Normalizing goes through the fields that are not omitted (`normalizeFields_eq`), so
look-ups and writes of these can be done before or after it. A table is asked for the
kind of a mapping only when this is a number (`nameKind_congr`).
-/

namespace DeclTree.Normal

variable {kinds : KindTable}

/-- Whether a field survives normalizing. -/
def isKept (key : String) : Bool := !omittedFields.contains key

theorem normalizeFields_eq (fields : List (String × Json)) :
    normalizeFields kinds fields =
      Ordered.mapValues (normalize kinds) (fields.filter fun e => isKept e.1) := by
  induction fields with
  | nil => rfl
  | cons e rest ih =>
    obtain ⟨key, v⟩ := e
    cases h : omittedFields.contains key with
    | true =>
      rw [normalizeFields, h, ih]
      simp only [List.filter_cons, isKept, h]
      rfl
    | false =>
      rw [normalizeFields, h, ih]
      simp only [List.filter_cons, isKept, h]
      rfl

theorem get?_normalizeFields (fields : List (String × Json)) {key : String}
    (hk : isKept key = true) :
    Ordered.get? (normalizeFields kinds fields) key =
      (Ordered.get? fields key).map (normalize kinds) := by
  rw [normalizeFields_eq, Ordered.get?_mapValues, Ordered.get?_filter hk]

theorem normalizeFields_put (fields : List (String × Json)) {key : String}
    (hk : isKept key = true) (v : Json) :
    normalizeFields kinds (Ordered.put fields key v) =
      Ordered.put (normalizeFields kinds fields) key (normalize kinds v) := by
  rw [normalizeFields_eq, normalizeFields_eq, Ordered.put_mapValues, Ordered.put_filter hk]

theorem nameKind_number {fields : List (String × Normal)} {n : Number}
    (h : Ordered.get? fields "kind" = some (.scalar (.number n))) :
    nameKind kinds (.mapping fields) =
      .mapping (Ordered.put fields "kind" (.string (kinds.numberName n))) := by
  have hget : (mapping fields).get? "kind" = some (.scalar (.number n)) := by
    rw [Normal.get?, h]
    rfl
  simp only [nameKind, hget, set]

/-- A kind that is named already stays as it is. -/
theorem nameKind_put_string (fields : List (String × Normal)) (s : String) :
    nameKind kinds (.mapping (Ordered.put fields "kind" (.scalar (.string s)))) =
      .mapping (Ordered.put fields "kind" (.scalar (.string s))) := by
  have hget : (mapping (Ordered.put fields "kind" (.scalar (.string s)))).get? "kind" =
      some (.scalar (.string s)) := by
    rw [Normal.get?, Ordered.get?_put, if_pos rfl]
    rfl
  simp only [nameKind, hget, string, set, Ordered.put_put]

/-- Where the kind is not a number, no table is asked. -/
theorem nameKind_congr {fields : List (String × Normal)}
    (h : ∀ n, Ordered.get? fields "kind" ≠ some (.scalar (.number n))) (kinds' : KindTable) :
    nameKind kinds' (.mapping fields) = nameKind kinds (.mapping fields) := by
  have hget : ∀ n, (mapping fields).get? "kind" ≠ some (.scalar (.number n)) := by
    intro n heq
    rw [Normal.get?, Option.filter_eq_some_iff] at heq
    exact h n heq.1
  cases hk : (mapping fields).get? "kind" with
  | none => simp only [nameKind, hk]
  | some k =>
    cases k with
    | scalar s =>
      cases s with
      | number n => exact absurd hk (hget n)
      | _ => simp only [nameKind, hk]
    | _ => simp only [nameKind, hk]

/-- A kind that is a number gets its name; any other leaves the fields as they are. -/
theorem nameKind_cases (fields : List (String × Normal)) :
    (∃ n, Ordered.get? fields "kind" = some (.scalar (.number n)) ∧
      nameKind kinds (.mapping fields) =
        .mapping (Ordered.put fields "kind" (.string (kinds.numberName n)))) ∨
    (∀ n, Ordered.get? fields "kind" ≠ some (.scalar (.number n))) ∧
      nameKind kinds (.mapping fields) = .mapping fields := by
  by_cases h : ∃ n, Ordered.get? fields "kind" = some (.scalar (.number n))
  · obtain ⟨n, hn⟩ := h
    exact .inl ⟨n, hn, nameKind_number hn⟩
  · have hne : ∀ n, Ordered.get? fields "kind" ≠ some (.scalar (.number n)) :=
      fun n hn => h ⟨n, hn⟩
    refine .inr ⟨hne, ?_⟩
    rw [nameKind]
    split
    · next s hs =>
      have hget : Ordered.get? fields "kind" = some (.string s) :=
        (Option.filter_eq_some_iff.mp hs).1
      rw [set, Ordered.put_of_get? hget]
    · next n hn => exact absurd (Option.filter_eq_some_iff.mp hn).1 (hne n)
    · rfl

theorem nameKind_mapping (fields : List (String × Normal)) :
    ∃ fields', nameKind kinds (.mapping fields) = .mapping fields' := by
  rw [nameKind]
  split
  · exact ⟨_, rfl⟩
  · exact ⟨_, rfl⟩
  · exact ⟨_, rfl⟩

theorem eq_number_of_normalize {v : Json} {n : Number}
    (h : normalize kinds v = .scalar (.number n)) : v = .number n := by
  cases v with
  | number m =>
    cases h
    rfl
  | object fields =>
    obtain ⟨fields', hmapping⟩ := nameKind_mapping (normalizeFields kinds fields)
    rw [normalize, hmapping] at h
    cases h
  | _ => cases h

end DeclTree.Normal
