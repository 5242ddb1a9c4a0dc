import DeclTree.Proofs.Layouts
import DeclTree.Proofs.Writes
import DeclTree.Normal
import DeclTree.Outline

/-!
# What is written is read back

However a value is laid out, the reader comes over its text to the state in which that value has
been delivered (`Layout.reads_value`): an array holds the items read so far, an object the fields
written so far. So of a repeated key the last value stands at the first place (`Json.merged`).
Nothing is merged in a value with distinct keys, and in a normal node it is what its own
conversion merges.
-/

namespace DeclTree

namespace Json

mutual

/-- Of the fields with one name, the last value at the first place, at every depth. -/
def merged : Json → Json
  | .array items => .array (mergedAll items)
  | .object fields => .object (Ordered.ofList (mergedFields fields))
  | v => v

def mergedAll : List Json → List Json
  | [] => []
  | v :: rest => merged v :: mergedAll rest

def mergedFields : List (String × Json) → List (String × Json)
  | [] => []
  | (key, v) :: rest => (key, merged v) :: mergedFields rest

end

theorem merged_of_isScalar {v : Json} (h : v.isScalar = true) : v.merged = v := by
  cases v <;> first | rfl | cases h

mutual

theorem merged_of_distinctKeys : ∀ v : Json, v.DistinctKeys → v.merged = v
  | .null, _ | .bool _, _ | .number _, _ | .string _, _ => rfl
  | .array items, h => by rw [merged, mergedAll_of_distinctKeys items h]
  | .object fields, h => by
    rw [merged, mergedFields_of_distinctKeys fields h.2, Ordered.ofList_of_nodup h.1]

theorem mergedAll_of_distinctKeys :
    ∀ items : List Json, DistinctKeysAll items → mergedAll items = items
  | [], _ => rfl
  | v :: rest, h => by
    rw [mergedAll, merged_of_distinctKeys v h.1, mergedAll_of_distinctKeys rest h.2]

theorem mergedFields_of_distinctKeys :
    ∀ fields : List (String × Json), DistinctKeysIn fields → mergedFields fields = fields
  | [], _ => rfl
  | (key, v) :: rest, h => by
    rw [mergedFields, merged_of_distinctKeys v h.1, mergedFields_of_distinctKeys rest h.2]

end

end Json

namespace Normal

mutual

/-- A normal node is written field by field; merging these gives its JSON value. -/
theorem merged_verbatim : ∀ n : Normal, n.verbatim.merged = n.toJson
  | .scalar s => by cases s <;> rfl
  | .sequence items => by rw [verbatim, Json.merged, mergedAll_verbatimAll items, toJson]
  | .mapping fields => by rw [verbatim, Json.merged, mergedFields_verbatimFields fields, toJson]

theorem mergedAll_verbatimAll : ∀ items, Json.mergedAll (verbatimAll items) = toJsonAll items
  | [] => rfl
  | n :: rest => by
    rw [verbatimAll, Json.mergedAll, merged_verbatim n, mergedAll_verbatimAll rest, toJsonAll]

theorem mergedFields_verbatimFields :
    ∀ fields, Json.mergedFields (verbatimFields fields) = toJsonFields fields
  | [] => rfl
  | (key, n) :: rest => by
    rw [verbatimFields, Json.mergedFields, merged_verbatim n, mergedFields_verbatimFields rest,
      toJsonFields]

end

end Normal

namespace Json

open Lexeme Reader

/-- From one state the reader comes to another over the characters before `rest`. -/
inductive Reads : State → List Char → State → List Char → Prop
  | done {s : State} {rest : List Char} : Reads s rest s rest
  | blank {s s' : State} {c : Char} {cs rest : List Char} (isBlank : isBlank c = true)
      (next : Reads s cs s' rest) : Reads s (c :: cs) s' rest
  | lexeme {s mid s' : State} {x : Lexeme} {cs after rest : List Char} (leads : x.Leads cs after)
      (step : step none s x = some mid) (next : Reads mid after s' rest) : Reads s cs s' rest

namespace Reads

variable {s mid s' : State} {cs after rest : List Char}

theorem trans (h : Reads s cs mid after) (h' : Reads mid after s' rest) : Reads s cs s' rest := by
  induction h with
  | done => exact h'
  | blank isBlank _ ih => exact .blank isBlank (ih h')
  | lexeme leads step _ ih => exact .lexeme leads step (ih h')

theorem blanks {bs : List Char} (hbs : ∀ c ∈ bs, isBlank c = true) (h : Reads s cs s' rest) :
    Reads s (bs ++ cs) s' rest := by
  induction bs with
  | nil => exact h
  | cons c bs ih =>
    obtain ⟨hc, hbs⟩ := List.forall_mem_cons.mp hbs
    exact .blank hc (ih hbs)

/-- A step takes at least one character, so fuel for every character is enough. -/
theorem run (h : Reads s cs s' rest) {fuel : Nat} (hfuel : cs.length ≤ fuel) :
    ∃ left, rest.length ≤ left ∧ run none fuel s cs = run none left s' rest := by
  induction h generalizing fuel with
  | done => exact ⟨fuel, hfuel, rfl⟩
  | blank isBlank _ ih =>
    obtain ⟨fuel, rfl⟩ := Nat.exists_eq_add_of_le' (Nat.le_trans (by simp) hfuel : 1 ≤ fuel)
    obtain ⟨left, hleft, hrun⟩ := ih (Nat.le_of_succ_le_succ hfuel)
    exact ⟨left, hleft, by rw [Reader.run, if_pos isBlank, hrun]⟩
  | lexeme leads step _ ih =>
    obtain ⟨c, r, rfl, hblank, hnext, hlength⟩ := leads
    obtain ⟨fuel, rfl⟩ := Nat.exists_eq_add_of_le' (Nat.le_trans (by simp) hfuel : 1 ≤ fuel)
    obtain ⟨left, hleft, hrun⟩ := ih (Nat.le_trans hlength (Nat.le_of_succ_le_succ hfuel))
    exact ⟨left, hleft, by simp only [Reader.run, hblank, hnext, step, hrun, Bool.false_eq_true,
      if_false]⟩

end Reads

/-- A text over which the reader comes to a value holds that value. -/
theorem read?_of_reads {text : String} {v : Json}
    (h : Reads .start text.toList ⟨[], .finished v⟩ []) : read? text = some v := by
  obtain ⟨left, _, hrun⟩ := h.run (Nat.le_refl _)
  rw [read?, readWithin, hrun]
  cases left <;> rfl

/-- A mark is one lexeme. -/
theorem leads_mark {c : Char} {x : Lexeme} {rest : List Char} (hblank : isBlank c = false)
    (h : next? c rest = some (x, rest)) : x.Leads (c :: rest) rest :=
  ⟨c, rest, rfl, hblank, h, Nat.le_refl _⟩

/-- The two modes in which a value may start. -/
def StartsValue (mode : Mode) : Prop := mode = .value ∨ mode = .firstItem

/-- The two modes in which a field name may start. -/
def StartsName (mode : Mode) : Prop := mode = .name ∨ mode = .firstName

theorem step_scalar {mode : Mode} (hmode : StartsValue mode) (v : Json) (frames : List Frame) :
    step none ⟨frames, mode⟩ (.scalar v) = deliver v frames := by
  rcases hmode with rfl | rfl <;> rfl

theorem step_openArray {mode : Mode} (hmode : StartsValue mode) (frames : List Frame) :
    step none ⟨frames, mode⟩ .openArray = some ⟨.array [] :: frames, .firstItem⟩ := by
  rcases hmode with rfl | rfl <;> rfl

theorem step_openObject {mode : Mode} (hmode : StartsValue mode) (frames : List Frame) :
    step none ⟨frames, mode⟩ .openObject = some ⟨.object [] :: frames, .firstName⟩ := by
  rcases hmode with rfl | rfl <;> rfl

theorem endsNumber_cons {c : Char} {rest : List Char}
    (h : c.isDigit = false ∧ c ≠ '.' ∧ c ≠ 'e' ∧ c ≠ 'E') : EndsNumber (c :: rest) :=
  fun _ hc => Option.some.inj hc ▸ h

theorem endsNumber_blanks {bs rest : List Char} (hbs : ∀ c ∈ bs, isBlank c = true)
    (h : EndsNumber rest) : EndsNumber (bs ++ rest) := by
  cases bs with
  | nil => exact h
  | cons c bs =>
    refine endsNumber_cons ?_
    have hc := hbs c List.mem_cons_self
    simp only [isBlank, Bool.or_eq_true, beq_iff_eq] at hc
    rcases hc with ((rfl | rfl) | rfl) | rfl <;> decide

namespace Layout

variable (l : Layout)

theorem endsNumber_itemsOnto (level : Nat) (items : List Json) {rest : List Char}
    (h : EndsNumber rest) : EndsNumber (l.itemsOnto level items rest) := by
  cases items with
  | nil => exact h
  | cons v more => exact endsNumber_cons (by decide)

theorem endsNumber_fieldsOnto (level : Nat) (fields : List (String × Json)) {rest : List Char}
    (h : EndsNumber rest) : EndsNumber (l.fieldsOnto level fields rest) := by
  cases fields with
  | nil => exact h
  | cons e more => exact endsNumber_cons (by decide)

/-- The bracket that closes an array or an object, after the blanks before it. -/
theorem endsNumber_close (level : Nat) {c : Char} {rest : List Char}
    (h : c.isDigit = false ∧ c ≠ '.' ∧ c ≠ 'e' ∧ c ≠ 'E') :
    EndsNumber (l.line level ++ c :: rest) :=
  endsNumber_blanks (l.line_blank level) (endsNumber_cons h)

variable {mode : Mode} {frames : List Frame} {s' : State} {rest : List Char}

theorem reads_scalar {v : Json} (hv : v.isScalar = true) (h : v.HasWords)
    (hmode : StartsValue mode) (hrest : EndsNumber rest)
    (hdeliver : deliver v.merged frames = some s') :
    Reads ⟨frames, mode⟩ (compactOnto v rest) s' rest := by
  rw [merged_of_isScalar hv] at hdeliver
  exact .lexeme (leads_scalar hv ((hasWords_scalar_iff hv).mp h) hrest)
    ((step_scalar hmode v frames).trans hdeliver) .done

/-- A name, a colon and the blanks after it. -/
theorem reads_name {key : String} {fields : List (String × Json)} {cs : List Char}
    (hmode : StartsName mode)
    (h : Reads ⟨.member fields key :: frames, .value⟩ cs s' rest) :
    Reads ⟨.object fields :: frames, mode⟩ (stringOnto key (':' :: (l.gap ++ cs))) s' rest := by
  have hcolon : Reads ⟨.member fields key :: frames, .colon⟩ (':' :: (l.gap ++ cs)) s' rest :=
    .lexeme (leads_mark rfl rfl) rfl (.blanks l.gap_blank h)
  refine .lexeme (leads_string key _) ?_ hcolon
  rcases hmode with rfl | rfl <;> rfl

mutual

theorem reads_value : ∀ v : Json, v.HasWords → ∀ (level : Nat) (mode : Mode)
    (frames : List Frame) (s' : State) (rest : List Char), StartsValue mode → EndsNumber rest →
    deliver v.merged frames = some s' → Reads ⟨frames, mode⟩ (l.valueOnto level v rest) s' rest
  | .null, h, _, _, _, _, _, hmode, hrest, hdeliver =>
    reads_scalar rfl h hmode hrest hdeliver
  | .bool _, h, _, _, _, _, _, hmode, hrest, hdeliver =>
    reads_scalar rfl h hmode hrest hdeliver
  | .number _, h, _, _, _, _, _, hmode, hrest, hdeliver =>
    reads_scalar rfl h hmode hrest hdeliver
  | .string _, h, _, _, _, _, _, hmode, hrest, hdeliver =>
    reads_scalar rfl h hmode hrest hdeliver
  | .array [], _, _, _, frames, _, _, hmode, _, hdeliver =>
    .lexeme (leads_mark rfl rfl) (step_openArray hmode frames)
      (.lexeme (x := .closeArray) (leads_mark rfl rfl) hdeliver .done)
  | .array (v :: more), h, level, mode, frames, s', rest, hmode, hrest, hdeliver => by
    obtain ⟨hv, hmore⟩ := List.forall_mem_cons.mp (hasWords_array_iff.mp h)
    have hclose : EndsNumber (l.line level ++ ']' :: rest) :=
      l.endsNumber_close level (by decide)
    have hfirst := reads_value v hv (level + 1) .firstItem (.array [] :: frames) _ _ (.inr rfl)
      (l.endsNumber_itemsOnto (level + 1) more hclose) rfl
    have hothers := reads_items more hmore (level + 1) [v.merged] frames _ hclose
    refine .lexeme (leads_mark rfl rfl) (step_openArray hmode frames)
      (.blanks (l.line_blank _) (hfirst.trans (hothers.trans
        (.blanks (l.line_blank _) (.lexeme (leads_mark rfl rfl) ?_ .done)))))
    simpa [step, close?, merged, mergedAll] using hdeliver
  | .object [], _, _, _, frames, _, _, hmode, _, hdeliver =>
    .lexeme (leads_mark rfl rfl) (step_openObject hmode frames)
      (.lexeme (x := .closeObject) (leads_mark rfl rfl) hdeliver .done)
  | .object ((key, v) :: more), h, level, mode, frames, s', rest, hmode, hrest, hdeliver => by
    obtain ⟨hv, hmore⟩ := List.forall_mem_cons.mp (hasWords_object_iff.mp h)
    have hclose : EndsNumber (l.line level ++ '}' :: rest) :=
      l.endsNumber_close level (by decide)
    have hfirst := reads_value v hv (level + 1) .value (.member [] key :: frames) _ _ (.inl rfl)
      (l.endsNumber_fieldsOnto (level + 1) more hclose) rfl
    have hothers :=
      reads_fields more hmore (level + 1) (Ordered.put [] key v.merged) frames _ hclose
    exact .lexeme (leads_mark rfl rfl) (step_openObject hmode frames)
      (.blanks (l.line_blank _) (l.reads_name (.inr rfl) (hfirst.trans (hothers.trans
        (.blanks (l.line_blank _) (.lexeme (leads_mark rfl rfl) hdeliver .done))))))

/-- The items after the first, while those before are held last first. -/
theorem reads_items : ∀ items : List Json, (∀ v ∈ items, v.HasWords) → ∀ (level : Nat)
    (held : List Json) (frames : List Frame) (rest : List Char), EndsNumber rest →
    Reads ⟨.array held :: frames, .separator⟩ (l.itemsOnto level items rest)
      ⟨.array ((mergedAll items).reverse ++ held) :: frames, .separator⟩ rest
  | [], _, _, _, _, _, _ => .done
  | v :: more, h, level, held, frames, rest, hrest => by
    obtain ⟨hv, hmore⟩ := List.forall_mem_cons.mp h
    have hfirst := reads_value v hv level .value (.array held :: frames) _ _ (.inl rfl)
      (l.endsNumber_itemsOnto level more hrest) rfl
    have hothers := reads_items more hmore level (v.merged :: held) frames rest hrest
    have hheld : (mergedAll (v :: more)).reverse ++ held =
        (mergedAll more).reverse ++ v.merged :: held := by
      simp [mergedAll]
    rw [hheld]
    exact .lexeme (leads_mark rfl rfl) rfl (.blanks (l.line_blank _) (hfirst.trans hothers))

/-- The fields after the first, written one by one into those before. -/
theorem reads_fields : ∀ fields : List (String × Json), (∀ e ∈ fields, e.2.HasWords) →
    ∀ (level : Nat) (held : List (String × Json)) (frames : List Frame) (rest : List Char),
    EndsNumber rest →
    Reads ⟨.object held :: frames, .separator⟩ (l.fieldsOnto level fields rest)
      ⟨.object (Ordered.putAll held (mergedFields fields)) :: frames, .separator⟩ rest
  | [], _, _, _, _, _, _ => .done
  | (key, v) :: more, h, level, held, frames, rest, hrest => by
    obtain ⟨hv, hmore⟩ := List.forall_mem_cons.mp h
    have hfirst := reads_value v hv level .value (.member held key :: frames) _ _ (.inl rfl)
      (l.endsNumber_fieldsOnto level more hrest) rfl
    have hothers := reads_fields more hmore level (Ordered.put held key v.merged) frames rest hrest
    exact .lexeme (leads_mark rfl rfl) rfl
      (.blanks (l.line_blank _) (l.reads_name (.inl rfl) (hfirst.trans hothers)))

end

/-- However a value is laid out, its text holds that value, its repeated fields merged. -/
theorem read?_valueOnto {v : Json} (h : v.HasWords) :
    read? (String.ofList (l.valueOnto 0 v [])) = some v.merged := by
  refine read?_of_reads ?_
  rw [String.toList_ofList]
  exact l.reads_value v h 0 .value [] _ [] (.inl rfl) nofun rfl

end Layout

theorem read?_compact {v : Json} (h : v.HasWords) : read? v.compact = some v.merged := by
  rw [compact, Layout.compactOnto_eq 0]
  exact Layout.tight.read?_valueOnto h

theorem read?_pretty {v : Json} (h : v.HasWords) : read? v.pretty = some v.merged := by
  rw [pretty, Layout.prettyOnto_eq]
  exact Layout.indented.read?_valueOnto h

end Json

/-- A value with distinct keys whose numbers are integers of 64 bits is what both of its JSON
renderings hold, and the raw one is a single line. The renderings of a normal node hold its JSON
value. -/
theorem rendered_is_read_back :
    (∀ v : Json, v.DistinctKeys → v.HasWords →
      Json.read? (v.render .raw) = some v ∧ Json.read? (v.render .json) = some v ∧
        '\n' ∉ (v.render .raw).toList) ∧
    ∀ n : Normal, n.verbatim.HasWords →
      Json.read? (n.verbatim.render .raw) = some n.toJson ∧
        Json.read? (n.verbatim.render .json) = some n.toJson ∧
        '\n' ∉ (n.verbatim.render .raw).toList := by
  have hread : ∀ v : Json, v.HasWords → Json.read? (v.render .raw) = some v.merged ∧
      Json.read? (v.render .json) = some v.merged ∧ '\n' ∉ (v.render .raw).toList :=
    fun v h => ⟨Json.read?_compact h, Json.read?_pretty h, Json.newline_notMem_compact h⟩
  constructor
  · intro v hkeys hwords
    have h := hread v hwords
    rwa [Json.merged_of_distinctKeys v hkeys] at h
  · intro n hwords
    have h := hread n.verbatim hwords
    rwa [Normal.merged_verbatim] at h

/-- Both ends of the range, escapes in a name and in a string, empty containers, and a normal node
with a name that repeats. -/
theorem rendered_is_read_back_limits :
    let value : Json := .object [
      ("low \"", .number (.int (-9223372036854775808))),
      ("high", .array [.number (.int 18446744073709551615), .array [], .string "a\\\n\x01"]),
      ("", .object [])]
    let node : Normal := .mapping [
      ("a", .scalar (.number (.int 1))), ("b", .sequence []), ("a", .scalar .null)]
    value.DistinctKeys ∧ value.HasWords ∧ node.verbatim.HasWords ∧
      Json.read? (value.render .raw) = some value ∧
      Json.read? (value.render .json) = some value ∧
      Json.read? (node.verbatim.render .raw) = some (.object [("a", .null), ("b", .array [])]) := by
  intro value node
  have hkeys : value.DistinctKeys :=
    ⟨by decide, trivial, ⟨trivial, trivial, trivial, trivial⟩, ⟨by decide, trivial⟩, trivial⟩
  have hscalar : ∀ v : Json, v.isScalar = true → (∀ n, v ≠ .number n) → v.HasWords :=
    fun v hv hne => (Json.hasWords_scalar_iff hv).mpr fun n hn => absurd hn (hne n)
  have hnumber : ∀ n : Number, n.IsWord → (Json.number n).HasWords :=
    fun n hn => (Json.hasWords_scalar_iff rfl).mpr fun m hm => Json.number.inj hm ▸ hn
  have hwords : value.HasWords := by
    simp only [value, Json.hasWords_object_iff, Json.hasWords_array_iff, List.forall_mem_cons]
    exact ⟨hnumber _ (by decide), ⟨hnumber _ (by decide), nofun, hscalar _ rfl nofun, nofun⟩,
      nofun, nofun⟩
  have hnode : node.verbatim.HasWords := by
    simp only [node, Normal.verbatim, Normal.verbatimFields, Normal.verbatimAll,
      Json.hasWords_object_iff, Json.hasWords_array_iff, List.forall_mem_cons]
    exact ⟨hnumber _ (by decide), nofun, hscalar _ rfl nofun, nofun⟩
  obtain ⟨hraw, hjson, _⟩ := rendered_is_read_back.1 value hkeys hwords
  exact ⟨hkeys, hwords, hnode, hraw, hjson, (rendered_is_read_back.2 node hnode).1⟩

end DeclTree
