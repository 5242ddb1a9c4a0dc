import Mathlib.Data.Set.Card
import DeclTree.Proofs.Lexemes
import DeclTree.Proofs.Writes
import DeclTree.KindTable

/-!
# The names that a kind table gives

A field of a table document calls a number by a name (`Calls`): its value is the number and
its key the name, or its key spells the number and its value is the name. Of all the names a
number is called by, the first one in the document that is no range marker counts, and the
first marker if there is no other (`loaded_table_names_first`).

A reader that goes over the document once keeps proper names and markers apart, for each number
the first of either (`gather`), and completes the proper names from the markers afterwards. A
number has one marker by then, so the markers may come in any order (`agrees_complete`).
-/

namespace DeclTree

theorem Json.Lexeme.after?_eq_some_iff (word cs rest : List Char) :
    after? word cs = some rest ↔ cs = word ++ rest := by
  induction word generalizing cs with
  | nil => exact Option.some_inj
  | cons w word ih =>
    cases cs with
    | nil => simp [after?]
    | cons c cs =>
      by_cases h : w = c
      · simp [after?, h, ih]
      · simp [after?, h, Ne.symm h]

theorem Word.signed?_eq_some_iff (m n : Int) :
    signed? m = some n ↔ n = m ∧ -2 ^ 63 ≤ n ∧ n < 2 ^ 63 := by
  rw [signed?]
  split
  · next h =>
    rw [isSigned_iff] at h
    rw [Option.some.injEq]
    omega
  · next h =>
    rw [isSigned_iff] at h
    simp only [reduceCtorEq, false_iff]
    omega

namespace KindTable

open Ordered

/-! ### Usable fields -/

/-- Decimal digits after a sign, if any, for an integer of 64 bits with a sign. -/
def Spells (key : String) (n : Int) : Prop :=
  ∃ sign digits, key.toList = sign ++ digits ∧ sign ∈ [[], ['+'], ['-']] ∧
    digits ≠ [] ∧ (∀ c ∈ digits, c.isDigit = true) ∧
    n = (if sign = ['-'] then -(Nat.ofDigitChars 10 digits 0 : Int)
      else Nat.ofDigitChars 10 digits 0) ∧
    -2 ^ 63 ≤ n ∧ n < 2 ^ 63

/-- A field of a table document calls a number by a name. -/
inductive Calls : String × Json → Int → String → Prop
  | number {name : String} {n : Int} (low : -2 ^ 63 ≤ n) (high : n < 2 ^ 63) :
    Calls (name, .number (.int n)) n name
  | name {key name : String} {n : Int} (spells : Spells key n) :
    Calls (key, .string name) n name

/-- `First` or `Last`, and an upper-case character after it. -/
def IsRangeMarker (name : String) : Prop :=
  ∃ word ∈ ["First", "Last"], ∃ c rest,
    name.toList = word.toList ++ c :: rest ∧ Text.isUppercase c = true

/-- What the digits after a sign stand for. -/
theorem unsignedKey?_eq_some_iff (negative : Bool) (digits : List Char) (n : Int) :
    (if digits.isEmpty || !digits.all Char.isDigit then none
      else
        let m : Int := Json.Lexeme.natOf (digits.map fun c => c.toNat - '0'.toNat)
        (Number.int (if negative then -m else m)).signed?) = some n ↔
      digits ≠ [] ∧ (∀ c ∈ digits, c.isDigit = true) ∧
        n = (if negative then -(Nat.ofDigitChars 10 digits 0 : Int)
          else Nat.ofDigitChars 10 digits 0) ∧
        -2 ^ 63 ≤ n ∧ n < 2 ^ 63 := by
  by_cases h : digits.isEmpty || !digits.all Char.isDigit
  · rw [if_pos h]
    simp only [reduceCtorEq, false_iff]
    rintro ⟨hne, hall, -⟩
    simp [hne, List.all_eq_true.mpr hall] at h
  · rw [if_neg h, Number.signed?, Word.signed?_eq_some_iff, Json.natOf_digits]
    simp only [Bool.or_eq_true, List.isEmpty_iff, Bool.not_eq_true', List.all_eq_false,
      Bool.not_eq_true, not_or, not_exists, not_and] at h
    simp only [ne_eq, h.1, not_false_eq_true, true_and]
    refine ⟨fun hn => ⟨fun c hc => by simpa using h.2 c hc, hn⟩, fun hn => hn.2⟩

theorem integerKey?_eq_some_iff (key : String) (n : Int) :
    integerKey? key = some n ↔ Spells key n := by
  constructor
  · intro h
    rw [integerKey?] at h
    split at h
    next negative digits hsign =>
    rw [unsignedKey?_eq_some_iff] at h
    split at hsign
    · next hkey =>
      cases hsign
      exact ⟨['-'], digits, hkey, by simp, h⟩
    · next hkey =>
      cases hsign
      exact ⟨['+'], digits, hkey, by simp, h⟩
    · cases hsign
      exact ⟨[], key.toList, rfl, by simp, h⟩
  · rintro ⟨sign, digits, hkey, hsign, h⟩
    have hunsigned := (unsignedKey?_eq_some_iff (decide (sign = ['-'])) digits n).mpr
      (by simpa using h)
    simp only [List.mem_cons, List.not_mem_nil, or_false] at hsign
    rw [integerKey?, hkey]
    rcases hsign with rfl | rfl | rfl
    · -- a digit is no sign
      cases digits with
      | nil => exact absurd rfl h.1
      | cons d digits =>
        have hdigit : d.isDigit = true := h.2.1 d List.mem_cons_self
        have hminus : d ≠ '-' := by rintro rfl; cases hdigit
        have hplus : d ≠ '+' := by rintro rfl; cases hdigit
        simpa [hminus, hplus] using hunsigned
    · exact hunsigned
    · exact hunsigned

theorem entry?_eq_some_iff (field : String × Json) (n : Int) (name : String) :
    entry? field = some (n, name) ↔ Calls field n name := by
  obtain ⟨key, v⟩ := field
  constructor
  · intro h
    cases v with
    | number m =>
      cases m with
      | int m =>
        obtain ⟨k, hk, heq⟩ := Option.map_eq_some_iff.mp h
        cases heq
        obtain ⟨rfl, hlow, hhigh⟩ := (Word.signed?_eq_some_iff m n).mp hk
        exact .number hlow hhigh
      | float x => cases h
    | string s =>
      obtain ⟨k, hk, heq⟩ := Option.map_eq_some_iff.mp h
      cases heq
      exact .name ((integerKey?_eq_some_iff key n).mp hk)
    | _ => cases h
  · intro h
    cases h with
    | number hlow hhigh =>
      have hn := (Word.signed?_eq_some_iff n n).mpr ⟨rfl, hlow, hhigh⟩
      simp [Number.signed?, entry?, hn]
    | name hspells =>
      have hn := (integerKey?_eq_some_iff key n).mpr hspells
      simp [hn, entry?]

theorem isRangeMarker_iff (name : String) : isRangeMarker name = true ↔ IsRangeMarker name := by
  unfold isRangeMarker
  extract_lets marked
  have hword : ∀ word : String, marked word = true ↔
      ∃ c rest, name.toList = word.toList ++ c :: rest ∧ Text.isUppercase c = true := by
    intro word
    constructor
    · intro h
      simp only [marked] at h
      split at h
      · next c rest hafter =>
        exact ⟨c, rest, (Json.Lexeme.after?_eq_some_iff _ _ _).mp hafter, h⟩
      · cases h
    · rintro ⟨c, rest, hname, hc⟩
      simp only [marked]
      rw [(Json.Lexeme.after?_eq_some_iff _ _ _).mpr hname]
      exact hc
  rw [Bool.or_eq_true, hword, hword]
  simp only [IsRangeMarker, List.mem_cons, List.not_mem_nil, or_false, exists_eq_or_imp,
    exists_eq_left]

/-! ### The first name of every number -/

theorem get?_insertNew (names : List (Int × String)) (entry : Int × String) (n : Int) :
    get? (insertNew names entry) n = (get? names n).or (get? [entry] n) := by
  rw [insertNew]
  split
  · next h =>
    obtain ⟨m, name⟩ := entry
    by_cases hm : m = n
    · subst hm
      rw [Option.or_of_isSome h]
    · simp [get?, hm]
  · exact get?_append names [entry] n

/-- A number keeps the name it has, and takes the first one else. -/
theorem get?_foldl_insertNew (names entries : List (Int × String)) (n : Int) :
    get? (entries.foldl insertNew names) n = (get? names n).or (get? entries n) := by
  induction entries generalizing names with
  | nil => simp
  | cons e rest ih =>
    rw [List.foldl_cons, ih, get?_insertNew, Option.or_assoc, ← get?_append]
    rfl

theorem nodup_keys_insertNew {names : List (Int × String)} (h : (keys names).Nodup)
    (entry : Int × String) : (keys (insertNew names entry)).Nodup := by
  rw [insertNew]
  split
  · exact h
  · next hnone =>
    have hnew : entry.1 ∉ keys names := by
      rw [← get?_eq_none_iff]
      simpa using hnone
    rw [← put_of_notMem hnew]
    exact nodup_keys_put h entry.1 entry.2

theorem nodup_keys_foldl_insertNew {names : List (Int × String)} (h : (keys names).Nodup)
    (entries : List (Int × String)) : (keys (entries.foldl insertNew names)).Nodup := by
  induction entries generalizing names with
  | nil => exact h
  | cons e rest ih => exact ih (nodup_keys_insertNew h e)

theorem nodup_keys_firsts (entries : List (Int × String)) :
    (keys (entries.foldl insertNew [])).Nodup := by
  apply nodup_keys_foldl_insertNew
  exact List.nodup_nil

theorem nodup_keys_ofEntries (entries : List (Int × String)) :
    (keys (ofEntries entries).names).Nodup :=
  nodup_keys_foldl_insertNew (nodup_keys_firsts _) _

theorem nameOf?_ofEntries (entries : List (Int × String)) (n : Int) :
    (ofEntries entries).nameOf? n =
      (get? (entries.filter (!isRangeMarker ·.2)) n).or
        (get? (entries.filter (isRangeMarker ·.2)) n) := by
  rw [nameOf?, ofEntries, get?_foldl_insertNew, get?_foldl_insertNew, get?_nil, Option.none_or]

/-- The name that a field calls a number by, when it is a good one. -/
def calledBy? (good : String → Bool) (n : Int) (field : String × Json) : Option String :=
  entry? field |>.bind fun e => if e.1 = n ∧ good e.2 then some e.2 else none

theorem calledBy?_eq_some_iff (good : String → Bool) (n : Int) (field : String × Json)
    (name : String) :
    calledBy? good n field = some name ↔ Calls field n name ∧ good name = true := by
  rw [← entry?_eq_some_iff, calledBy?, Option.bind_eq_some_iff]
  constructor
  · rintro ⟨⟨m, other⟩, hentry, h⟩
    split at h
    · next hgood =>
      cases h
      obtain ⟨rfl, hgood⟩ := hgood
      exact ⟨hentry, hgood⟩
    · cases h
  · rintro ⟨hentry, hgood⟩
    exact ⟨_, hentry, if_pos ⟨rfl, hgood⟩⟩

theorem calledBy?_eq_none_iff (good : String → Bool) (n : Int) (field : String × Json) :
    calledBy? good n field = none ↔ ∀ name, Calls field n name → good name = false := by
  simp only [Option.eq_none_iff_forall_ne_some, ne_eq, calledBy?_eq_some_iff, not_and,
    Bool.not_eq_true]

theorem get?_usable (good : String → Bool) (fields : List (String × Json)) (n : Int) :
    get? ((fields.filterMap entry?).filter (good ·.2)) n =
      fields.findSome? (calledBy? good n) := by
  induction fields with
  | nil => rfl
  | cons field rest ih =>
    rw [List.findSome?_cons, ← ih, List.filterMap_cons, calledBy?]
    cases hentry : entry? field with
    | none => rfl
    | some e =>
      obtain ⟨m, name⟩ := e
      by_cases hgood : good name <;> by_cases hm : m = n <;> simp [hgood, hm, get?]

/-- Of the names that fields call a number by, `name` is the first that is good. -/
def CallsFirst (good : String → Prop) (fields : List (String × Json)) (n : Int)
    (name : String) : Prop :=
  ∃ before field after, fields = before ++ field :: after ∧ Calls field n name ∧ good name ∧
    ∀ earlier ∈ before, ∀ other, Calls earlier n other → ¬ good other

theorem findSome?_calledBy?_eq_some_iff (good : String → Bool) (fields : List (String × Json))
    (n : Int) (name : String) :
    fields.findSome? (calledBy? good n) = some name ↔
      CallsFirst (good · = true) fields n name := by
  simp only [List.findSome?_eq_some_iff, calledBy?_eq_some_iff, calledBy?_eq_none_iff, CallsFirst,
    and_assoc, Bool.not_eq_true]

/-- It is enough to know which names are good of those that the fields call the number by. -/
theorem CallsFirst.congr {good good' : String → Prop} {fields : List (String × Json)} {n : Int}
    {name : String} (h : CallsFirst good fields n name)
    (hgood : ∀ field ∈ fields, ∀ other, Calls field n other → (good other ↔ good' other)) :
    CallsFirst good' fields n name := by
  obtain ⟨before, field, after, rfl, hcalls, hname, hfirst⟩ := h
  refine ⟨before, field, after, rfl, hcalls, (hgood field (by simp) name hcalls).mp hname, ?_⟩
  intro earlier hearlier other hother hgood'
  have hmem : earlier ∈ before ++ field :: after := List.mem_append_left _ hearlier
  exact hfirst earlier hearlier other hother ((hgood earlier hmem other hother).mpr hgood')

/-- The first name that is no marker counts, or the first one when all are markers. -/
theorem nameOf?_eq_some_iff (fields : List (String × Json)) (n : Int) (name : String) :
    (ofEntries (fields.filterMap entry?)).nameOf? n = some name ↔
      CallsFirst (¬ IsRangeMarker ·) fields n name ∨
        (∀ field ∈ fields, ∀ other, Calls field n other → IsRangeMarker other) ∧
          CallsFirst (fun _ => True) fields n name := by
  have hproper : ∀ s, (!isRangeMarker s) = true ↔ ¬ IsRangeMarker s := by
    intro s
    rw [← isRangeMarker_iff]
    simp
  rw [nameOf?_ofEntries, get?_usable (!isRangeMarker ·), get?_usable isRangeMarker,
    Option.or_eq_some_iff, findSome?_calledBy?_eq_some_iff, findSome?_calledBy?_eq_some_iff,
    List.findSome?_eq_none_iff]
  simp only [hproper, isRangeMarker_iff, calledBy?_eq_none_iff, Bool.not_eq_false']
  refine or_congr_right (and_congr_right fun hall => ?_)
  constructor
  · intro h
    exact h.congr fun field hfield other hother => iff_true_intro (hall field hfield other hother)
  · intro h
    exact h.congr fun field hfield other hother =>
      (iff_true_intro (hall field hfield other hother)).symm

theorem nameOf?_eq_none_iff (fields : List (String × Json)) (n : Int) :
    (ofEntries (fields.filterMap entry?)).nameOf? n = none ↔
      ∀ field ∈ fields, ∀ name, ¬ Calls field n name := by
  rw [nameOf?_ofEntries, get?_usable (!isRangeMarker ·), get?_usable isRangeMarker,
    Option.or_eq_none_iff, List.findSome?_eq_none_iff, List.findSome?_eq_none_iff]
  simp only [calledBy?_eq_none_iff]
  constructor
  · rintro ⟨hproper, hmarker⟩ field hfield name hname
    have h := hproper field hfield name hname
    rw [hmarker field hfield name hname] at h
    cases h
  · intro h
    exact ⟨fun field hfield name hname => absurd hname (h field hfield name),
      fun field hfield name hname => absurd hname (h field hfield name)⟩

theorem mem_keys_names_iff (fields : List (String × Json)) (n : Int) :
    n ∈ keys (ofEntries (fields.filterMap entry?)).names ↔
      ∃ field ∈ fields, ∃ name, Calls field n name := by
  rw [← not_iff_not, ← get?_eq_none_iff]
  refine (nameOf?_eq_none_iff fields n).trans ?_
  simp only [not_exists, not_and]

/-- A table has one entry for each number that is called by a name. -/
theorem size_eq_ncard (fields : List (String × Json)) :
    (ofEntries (fields.filterMap entry?)).size =
      {n | ∃ field ∈ fields, ∃ name, Calls field n name}.ncard := by
  have hset : {n | ∃ field ∈ fields, ∃ name, Calls field n name} =
      ((keys (ofEntries (fields.filterMap entry?)).names).toFinset : Set Int) := by
    ext n
    simp [mem_keys_names_iff]
  rw [hset, Set.ncard_coe_finset, List.toFinset_card_of_nodup (nodup_keys_ofEntries _), keys,
    List.length_map, size]

/-! ### A single pass -/

/-- The first proper name and the first marker of every number so far. -/
structure Gathered where
  proper : List (Int × String)
  markers : List (Int × String)

def Gathered.record (g : Gathered) (entry : Int × String) : Gathered :=
  if isRangeMarker entry.2 then { g with markers := insertNew g.markers entry }
  else { g with proper := insertNew g.proper entry }

def gather (entries : List (Int × String)) : Gathered := entries.foldl Gathered.record ⟨[], []⟩

/-- The table of the proper names and, for other numbers, of markers in an order. -/
def Gathered.complete (g : Gathered) (order : List (Int × String)) : KindTable :=
  ⟨order.foldl insertNew g.proper⟩

/-- Two tables that give every number the same name. -/
def Agrees (t t' : KindTable) : Prop := (∀ n, t.nameOf? n = t'.nameOf? n) ∧ t.size = t'.size

theorem foldl_record (g : Gathered) (entries : List (Int × String)) :
    entries.foldl Gathered.record g =
      ⟨(entries.filter (!isRangeMarker ·.2)).foldl insertNew g.proper,
        (entries.filter (isRangeMarker ·.2)).foldl insertNew g.markers⟩ := by
  induction entries generalizing g with
  | nil => rfl
  | cons e rest ih =>
    rw [List.foldl_cons, ih, Gathered.record]
    cases h : isRangeMarker e.2 <;> simp [h]

theorem agrees_of_nameOf? {t t' : KindTable} (ht : (keys t.names).Nodup)
    (ht' : (keys t'.names).Nodup) (h : ∀ n, t.nameOf? n = t'.nameOf? n) : t.Agrees t' := by
  have hperm : (keys t.names).Perm (keys t'.names) := by
    rw [List.perm_ext_iff_of_nodup ht ht']
    intro n
    rw [← not_iff_not, ← get?_eq_none_iff, ← get?_eq_none_iff]
    exact Eq.congr_left (h n)
  refine ⟨h, ?_⟩
  have hlength := hperm.length_eq
  rwa [keys, keys, List.length_map, List.length_map] at hlength

/-- The markers of a single pass may complete the table in any order. -/
theorem agrees_complete (entries : List (Int × String)) {order : List (Int × String)}
    (horder : order.Perm (gather entries).markers) :
    ((gather entries).complete order).Agrees (ofEntries entries) := by
  have hgather := foldl_record ⟨[], []⟩ entries
  have hproper : (keys (gather entries).proper).Nodup := by
    rw [gather, hgather]
    exact nodup_keys_firsts _
  have hmarkers : (keys (gather entries).markers).Nodup := by
    rw [gather, hgather]
    exact nodup_keys_firsts _
  refine agrees_of_nameOf? (nodup_keys_foldl_insertNew hproper order)
    (nodup_keys_ofEntries entries) ?_
  intro n
  rw [nameOf?_ofEntries, nameOf?, Gathered.complete, get?_foldl_insertNew,
    get?_perm hmarkers horder, gather, hgather, get?_foldl_insertNew, get?_foldl_insertNew,
    get?_nil, Option.none_or, Option.none_or]

theorem isEmpty_eq_true_iff (t : KindTable) : t.isEmpty = true ↔ ∀ n, t.nameOf? n = none := by
  obtain ⟨names⟩ := t
  simp only [isEmpty, List.isEmpty_iff, nameOf?, get?_eq_none_iff, keys]
  constructor
  · rintro rfl n
    simp
  · intro h
    cases names with
    | nil => rfl
    | cons e rest => exact absurd List.mem_cons_self (h e.1)

/-- A document is refused exactly when it is no object or no field calls a number by a name.
Otherwise every number has its first proper name, or its first marker when it is called by
markers only, and there is one entry for each number; the markers may be looked through in any
order at the end. -/
theorem loaded_table_names_first (v : Json) :
    ((∃ e, ofJson v = .error e) ↔ ∀ fields, v = .object fields →
      ∀ field ∈ fields, ∀ n name, ¬ Calls field n name) ∧
    ∀ fields, v = .object fields → (∃ field ∈ fields, ∃ n name, Calls field n name) →
      ∃ t, ofJson v = .ok t ∧
        (∀ n name, t.nameOf? n = some name ↔ CallsFirst (¬ IsRangeMarker ·) fields n name ∨
          (∀ field ∈ fields, ∀ other, Calls field n other → IsRangeMarker other) ∧
            CallsFirst (fun _ => True) fields n name) ∧
        (∀ n, t.nameOf? n = none ↔ ∀ field ∈ fields, ∀ name, ¬ Calls field n name) ∧
        t.size = {n | ∃ field ∈ fields, ∃ name, Calls field n name}.ncard ∧
        ∀ order, order.Perm (gather (fields.filterMap entry?)).markers →
          ((gather (fields.filterMap entry?)).complete order).Agrees t := by
  have hempty : ∀ fields : List (String × Json),
      (ofEntries (fields.filterMap entry?)).isEmpty = true ↔
        ∀ field ∈ fields, ∀ n name, ¬ Calls field n name := by
    intro fields
    simp only [isEmpty_eq_true_iff, nameOf?_eq_none_iff]
    exact ⟨fun h field hfield n => h n field hfield, fun h n field hfield => h field hfield n⟩
  constructor
  · cases v with
    | object fields =>
      have hfields : ∀ fields', Json.object fields = .object fields' ↔ fields = fields' := by simp
      simp only [hfields, forall_eq', ← hempty, ofJson]
      split
      · next h => simp [h]
      · next h => simp [h]
    | _ => exact iff_of_true ⟨.notObject, rfl⟩ nofun
  · rintro fields rfl ⟨field, hfield, n, name, hcalls⟩
    have hne : ¬ (ofEntries (fields.filterMap entry?)).isEmpty = true :=
      fun h => (hempty fields).mp h field hfield n name hcalls
    refine ⟨ofEntries (fields.filterMap entry?), ?_, nameOf?_eq_some_iff fields,
      nameOf?_eq_none_iff fields, size_eq_ncard fields, fun order horder => ?_⟩
    · rw [ofJson]
      exact if_neg hne
    · exact agrees_complete _ horder

/-- Two numbers, one of them spelled with a sign and called by a marker first, the other called by
markers only. The markers are looked through from the last to the first. -/
theorem loaded_table_names_first_aliases :
    let fields : List (String × Json) := [("FirstToken", .ofNat 7), ("+007", .string "Alpha"),
      ("Beta", .ofNat 7), ("LastToken", .ofNat 8), ("FirstNode", .ofNat 8), ("note", .bool true)]
    let t : KindTable := ⟨[(7, "Alpha"), (8, "LastToken")]⟩
    ofJson (.object fields) = .ok t ∧
      {n | ∃ field ∈ fields, ∃ name, Calls field n name}.ncard = 2 ∧
      ((gather (fields.filterMap entry?)).complete [(8, "LastToken"), (7, "FirstToken")]).Agrees
        t := by
  intro fields t
  have hload : ofJson (.object fields) = .ok t := by decide +kernel
  have hcalls : Calls ("Beta", .ofNat 7) 7 "Beta" := .number (by decide) (by decide)
  have hmarkers : (gather (fields.filterMap entry?)).markers =
      [(7, "FirstToken"), (8, "LastToken")] := by decide +kernel
  obtain ⟨t', hload', -, -, hsize, hagrees⟩ :=
    (loaded_table_names_first (.object fields)).2 fields rfl ⟨_, by simp [fields], _, _, hcalls⟩
  rw [hload] at hload'
  cases hload'
  refine ⟨hload, hsize.symm, hagrees _ ?_⟩
  rw [hmarkers]
  exact .swap _ _ _

end KindTable

end DeclTree
