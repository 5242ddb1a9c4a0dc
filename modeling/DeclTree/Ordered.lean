/-!
# Entries in order of first appearance

An entry list is a list of key and value pairs. Writing a key that is present
replaces its value where it stands; writing a new key appends it. So a repeated
key keeps its first position and takes its last value.

`get?_put` says what a write does to every look-up, `keys_put` what it does to
the order of the keys, `nodup_keys_put` that keys stay distinct.
-/

namespace DeclTree.Ordered

variable {κ : Type} [DecidableEq κ] {α β : Type}

/-- The value of the first entry with key `k`. -/
def get? : List (κ × α) → κ → Option α
  | [], _ => none
  | (k', a) :: rest, k => if k' = k then some a else get? rest k

/-- Replace the value of the first entry with key `k`, or append an entry. -/
def put : List (κ × α) → κ → α → List (κ × α)
  | [], k, a => [(k, a)]
  | (k', b) :: rest, k, a => if k' = k then (k', a) :: rest else (k', b) :: put rest k a

def keys (entries : List (κ × α)) : List κ := entries.map Prod.fst

/-- All writes of a list, one after the other. -/
def putAll (entries : List (κ × α)) (writes : List (κ × α)) : List (κ × α) :=
  writes.foldl (fun acc w => put acc w.1 w.2) entries

/-- The entry list that the given writes build from nothing. -/
def ofList (writes : List (κ × α)) : List (κ × α) := putAll [] writes

@[simp] theorem get?_nil (k : κ) : get? ([] : List (κ × α)) k = none := rfl

theorem get?_put (entries : List (κ × α)) (k k' : κ) (a : α) :
    get? (put entries k a) k' = if k = k' then some a else get? entries k' := by
  induction entries with
  | nil => simp [put, get?]
  | cons e rest ih =>
    obtain ⟨key, b⟩ := e
    by_cases h : key = k
    · subst h
      by_cases h' : key = k' <;> simp [put, get?, h']
    · by_cases h' : key = k'
      · subst h'
        simp [put, get?, h, Ne.symm h]
      · simp [put, get?, h, h', ih]

theorem get?_eq_none_iff (entries : List (κ × α)) (k : κ) :
    get? entries k = none ↔ k ∉ keys entries := by
  induction entries with
  | nil => simp [keys]
  | cons e rest ih =>
    obtain ⟨key, b⟩ := e
    by_cases h : key = k
    · simp [get?, keys, h]
    · have : ¬ k = key := fun e => h e.symm
      simp [get?, keys, h, this] at ih ⊢
      exact ih

theorem mem_of_get? {entries : List (κ × α)} {k : κ} {a : α}
    (h : get? entries k = some a) : (k, a) ∈ entries := by
  induction entries with
  | nil => simp at h
  | cons e rest ih =>
    obtain ⟨key, b⟩ := e
    by_cases hk : key = k
    · simp [get?, hk] at h
      simp [hk, h]
    · simp [get?, hk] at h
      exact List.mem_cons_of_mem _ (ih h)

theorem keys_put (entries : List (κ × α)) (k : κ) (a : α) :
    keys (put entries k a) = if k ∈ keys entries then keys entries else keys entries ++ [k] := by
  induction entries with
  | nil => simp [put, keys]
  | cons e rest ih =>
    obtain ⟨key, b⟩ := e
    by_cases h : key = k
    · simp [put, keys, h]
    · have h' : ¬ k = key := fun e => h e.symm
      simp only [keys] at ih
      by_cases hm : k ∈ List.map Prod.fst rest
      · simp only [put, keys, h, if_false, List.map_cons, ih, hm, if_true, List.mem_cons, or_true]
      · simp [put, keys, h, ih, hm, h']

theorem nodup_keys_put {entries : List (κ × α)} (h : (keys entries).Nodup) (k : κ) (a : α) :
    (keys (put entries k a)).Nodup := by
  rw [keys_put]
  by_cases hk : k ∈ keys entries
  · simpa [hk] using h
  · simp only [hk, if_false]
    refine List.nodup_append.mpr ⟨h, by simp, ?_⟩
    intro x hx y hy hxy
    simp only [List.mem_singleton] at hy
    exact hk (hy ▸ hxy ▸ hx)

theorem nodup_keys_putAll {entries : List (κ × α)} (h : (keys entries).Nodup)
    (writes : List (κ × α)) : (keys (putAll entries writes)).Nodup := by
  induction writes generalizing entries with
  | nil => simpa [putAll] using h
  | cons w rest ih => exact ih (nodup_keys_put h w.1 w.2)

example : ofList [("a", 1), ("b", 2), ("a", 3)] = [("a", 3), ("b", 2)] := by decide

end DeclTree.Ordered
