import DeclTree.Proofs.Writes

/-!
# What a list of writes weighs

When every value has a weight, a write adds the weight of its value and takes away that
of the value it replaces (`total_put`). So a list of writes weighs at least what it
leaves, and exactly as much when no write replaces another (`total_ofList_eq_iff`).
-/

namespace DeclTree.Ordered

variable {κ α : Type} (weight : α → Nat)

/-- The weights of all values together. -/
def total : List (κ × α) → Nat
  | [] => 0
  | e :: rest => weight e.2 + total rest

@[simp] theorem total_nil : total weight ([] : List (κ × α)) = 0 := rfl

@[simp] theorem total_cons (e : κ × α) (rest : List (κ × α)) :
    total weight (e :: rest) = weight e.2 + total weight rest := rfl

variable [DecidableEq κ]

/-- The weight of the value of a key, which is nothing when there is none. -/
def weightAt (entries : List (κ × α)) (k : κ) : Nat := ((get? entries k).map weight).getD 0

theorem total_put (entries : List (κ × α)) (k : κ) (a : α) :
    total weight (put entries k a) + weightAt weight entries k = total weight entries + weight a := by
  induction entries with
  | nil => simp [put, weightAt]
  | cons e rest ih =>
    obtain ⟨key, b⟩ := e
    by_cases h : key = k
    · simp only [put, h, if_true, total_cons, weightAt, get?, Option.map_some, Option.getD_some]
      omega
    · have hat : weightAt weight ((key, b) :: rest) k = weightAt weight rest k := by
        simp only [weightAt, get?, h, if_false]
      simp only [put, h, if_false, total_cons, hat]
      omega

theorem weightAt_eq_zero_iff (hpos : ∀ a, 0 < weight a) (entries : List (κ × α)) (k : κ) :
    weightAt weight entries k = 0 ↔ k ∉ keys entries := by
  rw [← get?_eq_none_iff, weightAt]
  cases get? entries k with
  | none => simp
  | some a => simpa using Nat.ne_of_gt (hpos a)

theorem total_putAll_le (entries writes : List (κ × α)) :
    total weight (putAll entries writes) ≤ total weight entries + total weight writes := by
  induction writes generalizing entries with
  | nil => simp
  | cons w rest ih =>
    have hput := total_put weight entries w.1 w.2
    have hrest := ih (put entries w.1 w.2)
    rw [putAll_cons, total_cons]
    omega

/-- Nothing is lost exactly when every write is the first of its key. -/
theorem total_putAll_eq_iff (hpos : ∀ a, 0 < weight a) (entries writes : List (κ × α)) :
    total weight (putAll entries writes) = total weight entries + total weight writes ↔
      (keys writes).Nodup ∧ ∀ k ∈ keys writes, k ∉ keys entries := by
  induction writes generalizing entries with
  | nil => simp [keys]
  | cons w rest ih =>
    obtain ⟨key, a⟩ := w
    have hput := total_put weight entries key a
    have hle := total_putAll_le weight (put entries key a) rest
    have hcons : keys ((key, a) :: rest) = key :: keys rest := rfl
    have hkeys : ∀ k, k ∈ keys (put entries key a) ↔ k ∈ keys entries ∨ k = key := by
      intro k
      rw [keys_put]
      by_cases hk : key ∈ keys entries
      · simp only [hk, if_true]
        exact ⟨Or.inl, fun h => h.elim id fun h => h ▸ hk⟩
      · simp [hk]
    -- both the first write and the others lose nothing
    have hsplit : total weight (putAll (put entries key a) rest) =
          total weight entries + (weight a + total weight rest) ↔
        weightAt weight entries key = 0 ∧ total weight (putAll (put entries key a) rest) =
          total weight (put entries key a) + total weight rest := by
      omega
    rw [putAll_cons, total_cons, hsplit, weightAt_eq_zero_iff weight hpos, ih, hcons,
      List.nodup_cons, List.forall_mem_cons]
    simp only [hkeys, not_or]
    constructor
    · rintro ⟨hnew, hnodup, hapart⟩
      exact ⟨⟨fun hmem => (hapart key hmem).2 rfl, hnodup⟩, hnew, fun k hk => (hapart k hk).1⟩
    · rintro ⟨⟨hfirst, hnodup⟩, hnew, hapart⟩
      exact ⟨hnew, hnodup, fun k hk => ⟨hapart k hk, fun heq => hfirst (heq ▸ hk)⟩⟩

theorem total_ofList_le (writes : List (κ × α)) :
    total weight (ofList writes) ≤ total weight writes := by
  have h := total_putAll_le weight [] writes
  rwa [total_nil, Nat.zero_add] at h

theorem total_ofList_eq_iff (hpos : ∀ a, 0 < weight a) (writes : List (κ × α)) :
    total weight (ofList writes) = total weight writes ↔ (keys writes).Nodup := by
  have h := total_putAll_eq_iff weight hpos [] writes
  rw [total_nil, Nat.zero_add] at h
  rw [ofList, h]
  simp [keys]

end DeclTree.Ordered
