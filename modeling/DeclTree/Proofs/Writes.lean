import DeclTree.Ordered

/-!
# What a list of writes leaves

Writes go into an entry list one after the other (`Ordered.putAll`). The keys
that were there stay in front, the new ones follow in the order in which they
were first written (`keys_putAll`), and a look-up sees the last write of its key
(`get?_putAll`). Nothing is in the result that was neither there nor written
(`mem_putAll`), and writes of distinct keys leave just themselves (`ofList_of_nodup`).
Entries of distinct keys may stand in any order for a look-up (`get?_perm`). Changing all
values, or leaving out other keys, may be done before or after a write (`putAll_mapValues`,
`put_filter`).
-/

namespace DeclTree.Ordered

variable {κ : Type} [DecidableEq κ] {α β : Type}

@[simp] theorem putAll_nil (entries : List (κ × α)) : putAll entries [] = entries := rfl

@[simp] theorem putAll_cons (entries writes : List (κ × α)) (w : κ × α) :
    putAll entries (w :: writes) = putAll (put entries w.1 w.2) writes := rfl

theorem putAll_append (entries before after : List (κ × α)) :
    putAll entries (before ++ after) = putAll (putAll entries before) after :=
  List.foldl_append

theorem get?_append (first second : List (κ × α)) (k : κ) :
    get? (first ++ second) k = (get? first k).or (get? second k) := by
  induction first with
  | nil => rfl
  | cons e rest ih =>
    obtain ⟨key, a⟩ := e
    by_cases h : key = k
    · simp [get?, h]
    · simpa [get?, h] using ih

/-- The last write of a key counts, and without one the old value stays. -/
theorem get?_putAll (entries writes : List (κ × α)) (k : κ) :
    get? (putAll entries writes) k = (get? writes.reverse k).or (get? entries k) := by
  induction writes generalizing entries with
  | nil => rfl
  | cons w rest ih =>
    obtain ⟨key, a⟩ := w
    rw [putAll_cons, ih, get?_put, List.reverse_cons, get?_append, Option.or_assoc]
    by_cases h : key = k
    · simp [get?, h]
    · simp [get?, h]

/-- Old keys keep their places; new ones follow in the order of their first writes. -/
theorem keys_putAll (entries writes : List (κ × α)) :
    keys (putAll entries writes) =
      keys entries ++ ((keys writes).filter (· ∉ keys entries)).eraseDups := by
  induction writes generalizing entries with
  | nil => simp [keys]
  | cons w rest ih =>
    obtain ⟨k, a⟩ := w
    have hcons : keys ((k, a) :: rest) = k :: keys rest := rfl
    rw [putAll_cons, ih, keys_put, hcons]
    by_cases hk : k ∈ keys entries
    · simp [hk]
    · have hnew : (keys rest).filter (· ∉ keys entries ++ [k]) =
          ((keys rest).filter (· ∉ keys entries)).filter (fun b => !b == k) := by
        rw [List.filter_filter]
        apply List.filter_congr
        intro b _
        by_cases hb : b = k <;> simp [hb]
      simp only [hk, if_false, hnew, not_false_eq_true, decide_true, List.filter_cons_of_pos,
        List.eraseDups_cons, List.append_assoc, List.singleton_append]

theorem keys_ofList (writes : List (κ × α)) :
    keys (ofList writes) = (keys writes).eraseDups := by
  have hall : (keys writes).filter (· ∉ keys ([] : List (κ × α))) = keys writes :=
    List.filter_eq_self.mpr (by simp [keys])
  rw [ofList, keys_putAll, hall]
  rfl

theorem mem_put {entries : List (κ × α)} {k : κ} {a : α} {e : κ × α}
    (h : e ∈ put entries k a) : e ∈ entries ∨ e = (k, a) := by
  induction entries with
  | nil => exact Or.inr (by simpa [put] using h)
  | cons e' rest ih =>
    obtain ⟨key, b⟩ := e'
    by_cases hk : key = k
    · subst hk
      simp only [put, if_true, List.mem_cons] at h
      rcases h with h | h
      · exact Or.inr h
      · exact Or.inl (List.mem_cons_of_mem _ h)
    · simp only [put, hk, if_false, List.mem_cons] at h
      rcases h with h | h
      · exact Or.inl (by simp [h])
      · rcases ih h with old | new
        · exact Or.inl (List.mem_cons_of_mem _ old)
        · exact Or.inr new

theorem mem_putAll {entries writes : List (κ × α)} {e : κ × α}
    (h : e ∈ putAll entries writes) : e ∈ entries ∨ e ∈ writes := by
  induction writes generalizing entries with
  | nil => exact Or.inl h
  | cons w rest ih =>
    rcases ih h with old | new
    · rcases mem_put old with old | rfl
      · exact Or.inl old
      · exact Or.inr List.mem_cons_self
    · exact Or.inr (List.mem_cons_of_mem _ new)

theorem mem_of_mem_ofList {writes : List (κ × α)} {e : κ × α} (h : e ∈ ofList writes) :
    e ∈ writes := by
  rcases mem_putAll h with old | new
  · cases old
  · exact new

theorem nodup_keys_ofList (writes : List (κ × α)) : (keys (ofList writes)).Nodup := by
  apply nodup_keys_putAll
  exact List.nodup_nil

/-- A new key goes to the end. -/
theorem put_of_notMem {entries : List (κ × α)} {k : κ} (h : k ∉ keys entries) (a : α) :
    put entries k a = entries ++ [(k, a)] := by
  induction entries with
  | nil => rfl
  | cons e rest ih =>
    obtain ⟨key, b⟩ := e
    obtain ⟨hkey, hrest⟩ := not_or.mp (mt List.mem_cons.mpr h)
    rw [put, if_neg (Ne.symm hkey), ih hrest]
    rfl

theorem putAll_of_nodup {entries writes : List (κ × α)}
    (h : (keys (entries ++ writes)).Nodup) : putAll entries writes = entries ++ writes := by
  induction writes generalizing entries with
  | nil => rw [putAll_nil, List.append_nil]
  | cons w rest ih =>
    have hsplit : entries ++ w :: rest = (entries ++ [w]) ++ rest := by simp
    have hnew : w.1 ∉ keys entries := by
      rw [keys, List.map_append, List.nodup_append] at h
      intro hw
      exact h.2.2 w.1 hw w.1 List.mem_cons_self rfl
    rw [putAll_cons, put_of_notMem hnew, hsplit]
    exact ih (hsplit ▸ h)

/-- Entries with distinct keys are what their writes leave. -/
theorem ofList_of_nodup {entries : List (κ × α)} (h : (keys entries).Nodup) :
    ofList entries = entries :=
  putAll_of_nodup h

/-- Entries with their values changed. -/
def mapValues (f : α → β) (entries : List (κ × α)) : List (κ × β) :=
  entries.map fun e => (e.1, f e.2)

omit [DecidableEq κ] in
theorem keys_mapValues (f : α → β) (entries : List (κ × α)) :
    keys (mapValues f entries) = keys entries := by
  rw [keys, mapValues, List.map_map]
  rfl

theorem put_mapValues (f : α → β) (entries : List (κ × α)) (k : κ) (a : α) :
    put (mapValues f entries) k (f a) = mapValues f (put entries k a) := by
  induction entries with
  | nil => rfl
  | cons e rest ih =>
    obtain ⟨key, b⟩ := e
    by_cases h : key = k
    · simp [mapValues, put, h]
    · simpa [mapValues, put, h] using ih

theorem putAll_mapValues (f : α → β) (entries writes : List (κ × α)) :
    putAll (mapValues f entries) (mapValues f writes) = mapValues f (putAll entries writes) := by
  induction writes generalizing entries with
  | nil => rfl
  | cons w rest ih =>
    have hput := put_mapValues f entries w.1 w.2
    simp only [mapValues, List.map_cons, putAll_cons] at ih hput ⊢
    rw [hput]
    exact ih _

theorem get?_mapValues (f : α → β) (entries : List (κ × α)) (k : κ) :
    get? (mapValues f entries) k = (get? entries k).map f := by
  induction entries with
  | nil => rfl
  | cons e rest ih =>
    obtain ⟨key, b⟩ := e
    by_cases h : key = k
    · simp [mapValues, get?, h]
    · simpa [mapValues, get?, h] using ih

/-- A look-up of a key that is kept does not see the entries that are not. -/
theorem get?_filter {keep : κ → Bool} {k : κ} (hk : keep k = true) (entries : List (κ × α)) :
    get? (entries.filter fun e => keep e.1) k = get? entries k := by
  induction entries with
  | nil => rfl
  | cons e rest ih =>
    obtain ⟨key, a⟩ := e
    by_cases h : key = k
    · subst h
      simp [hk, get?]
    · by_cases hkey : keep key = true <;> simpa [hkey, get?, h] using ih

theorem put_filter {keep : κ → Bool} {k : κ} (hk : keep k = true) (entries : List (κ × α))
    (a : α) :
    put (entries.filter fun e => keep e.1) k a = (put entries k a).filter fun e => keep e.1 := by
  induction entries with
  | nil => simp [put, hk]
  | cons e rest ih =>
    obtain ⟨key, b⟩ := e
    by_cases h : key = k
    · subst h
      simp [hk, put]
    · by_cases hkey : keep key = true <;> simpa [hkey, put, h] using ih

/-- A write of a key that is not kept leaves no trace among the entries that are. -/
theorem filter_put_of_dropped {keep : κ → Bool} {k : κ} (hk : keep k = false)
    (entries : List (κ × α)) (a : α) :
    (put entries k a).filter (fun e => keep e.1) = entries.filter fun e => keep e.1 := by
  induction entries with
  | nil => simp [put, hk]
  | cons e rest ih =>
    obtain ⟨key, b⟩ := e
    by_cases h : key = k
    · subst h
      simp [hk, put]
    · by_cases hkey : keep key = true <;> simpa [hkey, put, h] using ih

theorem get?_of_mem {entries : List (κ × α)} (h : (keys entries).Nodup) {k : κ} {a : α}
    (hmem : (k, a) ∈ entries) : get? entries k = some a := by
  induction entries with
  | nil => cases hmem
  | cons e rest ih =>
    obtain ⟨key, b⟩ := e
    obtain ⟨hkey, hrest⟩ := List.nodup_cons.mp h
    rcases List.mem_cons.mp hmem with heq | hmem
    · cases heq
      simp [get?]
    · have hk : k ∈ keys rest := List.mem_map_of_mem (f := Prod.fst) hmem
      have hne : key ≠ k := fun heq => hkey (heq ▸ hk)
      rw [get?, if_neg hne]
      exact ih hrest hmem

/-- The order of entries with distinct keys does not matter to a look-up. -/
theorem get?_perm {entries order : List (κ × α)} (h : (keys entries).Nodup)
    (hperm : order.Perm entries) (k : κ) : get? order k = get? entries k := by
  have horder : (keys order).Nodup := (hperm.map Prod.fst).nodup_iff.mpr h
  apply Option.ext
  intro a
  constructor
  · intro ha
    exact get?_of_mem h (hperm.mem_iff.mp (mem_of_get? ha))
  · intro ha
    exact get?_of_mem horder (hperm.mem_iff.mpr (mem_of_get? ha))

/-- To write what is there already changes nothing. -/
theorem put_of_get? {entries : List (κ × α)} {k : κ} {a : α} (h : get? entries k = some a) :
    put entries k a = entries := by
  induction entries with
  | nil => cases h
  | cons e rest ih =>
    obtain ⟨key, b⟩ := e
    by_cases hk : key = k
    · simp only [get?, hk, if_true, Option.some.injEq] at h
      simp [put, hk, h]
    · simp only [get?, hk, if_false] at h
      simp [put, hk, ih h]

theorem put_put (entries : List (κ × α)) (k : κ) (a b : α) :
    put (put entries k a) k b = put entries k b := by
  induction entries with
  | nil => simp [put]
  | cons e rest ih =>
    obtain ⟨key, c⟩ := e
    by_cases h : key = k
    · simp [put, h]
    · simpa [put, h] using ih

end DeclTree.Ordered
