import DeclTree.Proofs.Writes
import DeclTree.Settings

/-!
# No table of settings repeats a key

A settings file that assigns a key twice is refused, and of the entries of a table in a
variable the last of a name counts. So in all that is read, no table at any depth has
two entries of one key (`Toml.distinct_of_read?`, `Reading.distinct_of_ofText?`).

A document under construction is looked at through the value that it stands for. Every
change of it goes down a path and changes one table there, so it is enough to say what
happens to that table (`Toml.distinct_of_modifyAt`).
-/

namespace DeclTree.Settings

/-- No table in a value has two entries of one key. -/
inductive Value.Distinct : Value → Prop where
  | text (s : String) : Distinct (.text s)
  | flag (b : Bool) : Distinct (.flag b)
  | integer (n : Int) : Distinct (.integer n)
  | fraction : Distinct .fraction
  | list {items : List Value} (h : ∀ v ∈ items, Distinct v) : Distinct (.list items)
  | table {entries : List (String × Value)} (hkeys : (Ordered.keys entries).Nodup)
      (h : ∀ e ∈ entries, Distinct e.2) : Distinct (.table entries)

namespace Value

theorem distinct_table_iff {entries : List (String × Value)} :
    (Value.table entries).Distinct ↔
      (Ordered.keys entries).Nodup ∧ ∀ e ∈ entries, e.2.Distinct :=
  ⟨fun | .table hkeys h => ⟨hkeys, h⟩, fun h => .table h.1 h.2⟩

theorem distinct_list_iff {items : List Value} :
    (Value.list items).Distinct ↔ ∀ v ∈ items, v.Distinct :=
  ⟨fun | .list h => h, .list⟩

theorem Distinct.nil : (Value.table []).Distinct :=
  distinct_table_iff.mpr ⟨List.nodup_nil, fun _ he => absurd he List.not_mem_nil⟩

theorem Distinct.put {entries : List (String × Value)} (h : (Value.table entries).Distinct)
    (key : String) {v : Value} (hv : v.Distinct) :
    (Value.table (Ordered.put entries key v)).Distinct := by
  obtain ⟨hkeys, hvalues⟩ := distinct_table_iff.mp h
  refine distinct_table_iff.mpr ⟨Ordered.nodup_keys_put hkeys key v, fun e he => ?_⟩
  rcases Ordered.mem_put he with old | rfl
  · exact hvalues e old
  · exact hv

theorem Distinct.nest {v : Value} (h : v.Distinct) (path : List String) :
    (Value.nest path v).Distinct := by
  induction path with
  | nil => exact h
  | cons key rest ih => exact Distinct.nil.put key ih

end Value

end DeclTree.Settings

namespace DeclTree.Toml

open Settings (Value)

theorem entriesValue_eq (entries : Entries) :
    entriesValue entries = Ordered.mapValues Item.toValue entries := by
  induction entries with
  | nil => rfl
  | cons e rest ih =>
    obtain ⟨key, item⟩ := e
    rw [entriesValue, ih]
    rfl

theorem elementValues_eq (elements : List Entries) :
    elementValues elements = elements.map fun entries => .table (entriesValue entries) := by
  induction elements with
  | nil => rfl
  | cons entries rest ih => rw [elementValues, ih, List.map_cons]

/-- No table in a document has two entries of one key. -/
def Entries.Distinct (entries : Entries) : Prop := (Value.table (entriesValue entries)).Distinct

theorem Entries.Distinct.nil : Entries.Distinct [] := Value.Distinct.nil

section Tables

variable {entries : Entries} {key : String}

theorem Entries.Distinct.put (h : Entries.Distinct entries) (key : String) {item : Item}
    (hitem : item.toValue.Distinct) : Entries.Distinct (Ordered.put entries key item) := by
  have hput := Value.Distinct.put h key hitem
  rwa [entriesValue_eq, Ordered.put_mapValues, ← entriesValue_eq] at hput

/-- A new entry may go to the end. -/
theorem Entries.Distinct.append (h : Entries.Distinct entries)
    (hnew : Ordered.get? entries key = none) {item : Item} (hitem : item.toValue.Distinct) :
    Entries.Distinct (entries ++ [(key, item)]) := by
  rw [← Ordered.put_of_notMem ((Ordered.get?_eq_none_iff entries key).mp hnew)]
  exact h.put key hitem

theorem Entries.Distinct.get? (h : Entries.Distinct entries) {item : Item}
    (hitem : Ordered.get? entries key = some item) : item.toValue.Distinct := by
  have hvalue : Ordered.get? (entriesValue entries) key = some item.toValue := by
    rw [entriesValue_eq, Ordered.get?_mapValues, hitem, Option.map_some]
  exact (Value.distinct_table_iff.mp h).2 _ (Ordered.mem_of_get? hvalue)

theorem Entries.Distinct.filter (h : Entries.Distinct entries) (keep : String × Item → Bool) :
    Entries.Distinct (entries.filter keep) := by
  obtain ⟨hkeys, hvalues⟩ := Value.distinct_table_iff.mp h
  have hsub : (entriesValue (entries.filter keep)).Sublist (entriesValue entries) := by
    rw [entriesValue_eq, entriesValue_eq]
    exact List.filter_sublist.map _
  exact Value.distinct_table_iff.mpr
    ⟨hkeys.sublist (hsub.map Prod.fst), fun e he => hvalues e (hsub.subset he)⟩

theorem distinct_tables_iff {elements : List Entries} :
    (Item.tables elements).toValue.Distinct ↔ ∀ e ∈ elements, Entries.Distinct e := by
  rw [Item.toValue, Value.distinct_list_iff, elementValues_eq]
  simp only [List.mem_reverse, List.forall_mem_map]
  rfl

end Tables

/-- A change of one table that leaves keys distinct, with a result of which `good` holds. -/
def LeavesDistinct {α : Type} (f : Origin → Entries → Option (Entries × α)) (good : α → Prop) :
    Prop :=
  ∀ {origin inner inner' a}, Entries.Distinct inner → f origin inner = some (inner', a) →
    Entries.Distinct inner' ∧ good a

/-- A change of the table at a path leaves keys distinct when the change of that table does. -/
theorem distinct_of_modifyAt {α : Type} {dotted : Bool}
    {f : Origin → Entries → Option (Entries × α)} {good : α → Prop}
    (hf : LeavesDistinct f good) (path : List String) :
    LeavesDistinct (modifyAt dotted f path) good := by
  induction path with
  | nil => exact hf
  | cons key rest ih =>
    intro origin entries entries' a hentries h
    rw [modifyAt] at h
    split at h
    case h_1 hnone =>
      obtain ⟨⟨inner, b⟩, hinner, heq⟩ := Option.map_eq_some_iff.mp h
      obtain ⟨rfl, rfl⟩ := Prod.mk.inj heq
      obtain ⟨hdistinct, hgood⟩ := ih .nil hinner
      exact ⟨hentries.append hnone hdistinct, hgood⟩
    case h_2 origin' old hold =>
      split at h
      case isTrue => cases h
      case isFalse =>
        obtain ⟨⟨inner, b⟩, hinner, heq⟩ := Option.map_eq_some_iff.mp h
        obtain ⟨rfl, rfl⟩ := Prod.mk.inj heq
        obtain ⟨hdistinct, hgood⟩ := ih (hentries.get? hold) hinner
        exact ⟨hentries.put key hdistinct, hgood⟩
    case h_3 last before hold =>
      obtain ⟨⟨inner, b⟩, hinner, heq⟩ := Option.map_eq_some_iff.mp h
      obtain ⟨rfl, rfl⟩ := Prod.mk.inj heq
      obtain ⟨hlast, hbefore⟩ := List.forall_mem_cons.mp (distinct_tables_iff.mp (hentries.get? hold))
      obtain ⟨hdistinct, hgood⟩ := ih hlast hinner
      have htables := distinct_tables_iff.mpr (List.forall_mem_cons.mpr ⟨hdistinct, hbefore⟩)
      exact ⟨hentries.put key htables, hgood⟩
    case h_4 => cases h

section Changes

variable {root root' entries : Entries} {path : List String} {key : String}

/-- A change without a result. -/
theorem distinct_of_changed {dotted : Bool} {f : Origin → Entries → Option (Entries × Unit)}
    (hf : ∀ {origin inner inner'}, Entries.Distinct inner → f origin inner = some (inner', ()) →
      Entries.Distinct inner')
    (hroot : Entries.Distinct root)
    (h : (modifyAt dotted f path .header root).map (·.1) = some root') :
    Entries.Distinct root' := by
  obtain ⟨⟨_, _⟩, hmodify, rfl⟩ := Option.map_eq_some_iff.mp h
  have hleaves : LeavesDistinct f fun _ => True := fun hinner h => ⟨hf hinner h, trivial⟩
  exact (distinct_of_modifyAt hleaves path hroot hmodify).1

theorem distinct_of_assign {v : Value} (hroot : Entries.Distinct root) (hv : v.Distinct)
    (h : assign root path key v = some root') : Entries.Distinct root' := by
  refine distinct_of_changed (fun {origin inner inner'} hinner hinsert => ?_) hroot h
  split at hinsert
  case isTrue => cases hinsert
  case isFalse hfree =>
    cases hinsert
    have hnew : Ordered.get? inner key = none := by
      simpa using (not_or.mp (mt Bool.or_eq_true_iff.mpr hfree)).2
    exact hinner.append hnew hv

theorem distinct_of_takeTable {taken : Entries} (hroot : Entries.Distinct root)
    (h : takeTable root path key = some (root', taken)) :
    Entries.Distinct root' ∧ Entries.Distinct taken := by
  refine distinct_of_modifyAt (fun {origin inner inner' a} hinner htake => ?_) path hroot h
  split at htake
  case h_1 =>
    cases htake
    exact ⟨hinner, .nil⟩
  case h_2 hold =>
    split at htake
    case isTrue =>
      cases htake
      exact ⟨hinner.filter _, hinner.get? hold⟩
    case isFalse => cases htake
  case h_3 => cases htake

theorem distinct_of_putTable (hroot : Entries.Distinct root) (hentries : Entries.Distinct entries)
    (h : putTable root path key entries = some root') : Entries.Distinct root' := by
  refine distinct_of_changed (fun {origin inner inner'} hinner hput => ?_) hroot h
  cases hput
  exact hinner.put key hentries

theorem distinct_of_mayAppend (hroot : Entries.Distinct root)
    (h : mayAppend root path key = some root') : Entries.Distinct root' := by
  refine distinct_of_changed (fun {origin inner inner'} hinner happend => ?_) hroot h
  split at happend
  case h_1 hnew =>
    cases happend
    have hempty : (Item.tables []).toValue.Distinct :=
      distinct_tables_iff.mpr fun _ he => absurd he List.not_mem_nil
    exact hinner.append hnew hempty
  case h_2 =>
    cases happend
    exact hinner
  case h_3 => cases happend

theorem distinct_of_appendTable (hroot : Entries.Distinct root)
    (hentries : Entries.Distinct entries) (h : appendTable root path key entries = some root') :
    Entries.Distinct root' := by
  refine distinct_of_changed (fun {origin inner inner'} hinner happend => ?_) hroot h
  split at happend
  case h_1 elements hold =>
    cases happend
    have helements := distinct_tables_iff.mp (hinner.get? hold)
    exact hinner.put key
      (distinct_tables_iff.mpr (List.forall_mem_cons.mpr ⟨hentries, helements⟩))
  case h_2 => cases happend

end Changes

section Document

theorem distinct_moment (cs : List Char) : (moment cs).Distinct :=
  Value.Distinct.nil.put "$datetime" (.text _)

theorem distinct_of_inRange {n : Int} {v : Value} (h : inRange n = some v) : v.Distinct := by
  obtain ⟨m, -, rfl⟩ := Option.map_eq_some_iff.mp h
  exact .integer m

theorem distinct_of_float? {negative : Bool} {cs : List Char} {v : Value}
    (h : float? negative cs = some v) : v.Distinct := by
  simp only [float?] at h
  grind [Value.Distinct]

theorem distinct_of_wordValue? {cs : List Char} {v : Value} (h : wordValue? cs = some v) :
    v.Distinct := by
  simp only [wordValue?] at h
  grind [Value.Distinct, distinct_moment, distinct_of_inRange, distinct_of_float?]

/-- What the readers of values read with some fuel has distinct keys. -/
structure ReadsDistinct (fuel : Nat) : Prop where
  value : ∀ {depth cs v rest}, value? fuel depth cs = some (v, rest) → v.Distinct
  items : ∀ {depth cs vs rest}, items? fuel depth cs = some (vs, rest) → ∀ v ∈ vs, v.Distinct
  pairs : ∀ {depth entries cs entries' rest}, Entries.Distinct entries →
    pairs? fuel depth entries cs = some (entries', rest) → Entries.Distinct entries'

variable {fuel depth : Nat} {cs rest : List Char}

theorem ReadsDistinct.value_succ (hreads : ReadsDistinct fuel) {v : Value}
    (h : value? (fuel + 1) depth cs = some (v, rest)) : v.Distinct := by
  rw [value?.eq_def] at h
  dsimp only at h
  split at h
  case h_1 =>
    split at h
    case isTrue =>
      obtain ⟨⟨vs, _⟩, hitems, heq⟩ := Option.map_eq_some_iff.mp h
      cases heq
      exact .list (hreads.items hitems)
    case isFalse => cases h
  case h_2 =>
    split at h
    case isTrue =>
      split at h
      case h_1 =>
        cases h
        exact .nil
      case h_2 =>
        obtain ⟨⟨entries, _⟩, hpairs, heq⟩ := Option.map_eq_some_iff.mp h
        cases heq
        exact hreads.pairs .nil hpairs
    case isFalse => cases h
  case h_3 | h_4 =>
    obtain ⟨⟨s, _⟩, -, heq⟩ := Option.map_eq_some_iff.mp h
    cases heq
    exact .text s
  case h_5 =>
    obtain ⟨v', hword, heq⟩ := Option.map_eq_some_iff.mp h
    cases heq
    exact distinct_of_wordValue? hword

theorem ReadsDistinct.items_succ (hreads : ReadsDistinct fuel) {vs : List Value}
    (h : items? (fuel + 1) depth cs = some (vs, rest)) : ∀ v ∈ vs, v.Distinct := by
  rw [items?] at h
  split at h
  case h_1 => cases h
  case h_2 =>
    cases h
    exact fun _ h => absurd h List.not_mem_nil
  case h_3 =>
    split at h
    case h_1 => cases h
    case h_2 v more hv =>
      split at h
      case h_1 =>
        obtain ⟨⟨vs', _⟩, hvs, heq⟩ := Option.map_eq_some_iff.mp h
        cases heq
        exact List.forall_mem_cons.mpr ⟨hreads.value hv, hreads.items hvs⟩
      case h_2 =>
        cases h
        exact List.forall_mem_singleton.mpr (hreads.value hv)
      case h_3 => cases h

theorem ReadsDistinct.pairs_succ (hreads : ReadsDistinct fuel) {entries entries' : Entries}
    (hentries : Entries.Distinct entries)
    (h : pairs? (fuel + 1) depth entries cs = some (entries', rest)) :
    Entries.Distinct entries' := by
  rw [pairs?] at h
  split at h
  case h_1 =>
    split at h
    case h_1 => cases h
    case h_2 hv =>
      split at h
      case h_1 => cases h
      case h_2 hassign =>
        have hassigned := distinct_of_assign hentries (hreads.value hv) hassign
        split at h
        case h_1 => exact hreads.pairs hassigned h
        case h_2 =>
          cases h
          exact hassigned
        case h_3 => cases h
  case h_2 => cases h

theorem readsDistinct (fuel : Nat) : ReadsDistinct fuel := by
  induction fuel with
  | zero => exact { value := nofun, items := nofun, pairs := nofun }
  | succ fuel ih => exact ⟨ih.value_succ, ih.items_succ, ih.pairs_succ⟩

/-- A draft of a document repeats no key, in its place or in the table that is being filled. -/
def Draft.Distinct (d : Draft) : Prop := Entries.Distinct d.root ∧ Entries.Distinct d.current

theorem Draft.Distinct.finish {d : Draft} (hd : d.Distinct) {root : Entries}
    (h : d.finish = some root) : Entries.Distinct root := by
  rw [Draft.finish] at h
  split at h
  case h_1 =>
    cases h
    exact hd.2
  case h_2 => exact distinct_of_appendTable hd.1 hd.2 h
  case h_3 => exact distinct_of_putTable hd.1 hd.2 h

variable {d d' : Draft} {path : List String} {key : String}

theorem Draft.Distinct.openTable (hd : d.Distinct) (h : d.openTable path key = some d') :
    d'.Distinct := by
  obtain ⟨root, hfinish, h⟩ := Option.bind_eq_some_iff.mp h
  obtain ⟨⟨root', current⟩, htake, h⟩ := Option.bind_eq_some_iff.mp h
  cases h
  exact distinct_of_takeTable (hd.finish hfinish) htake

theorem Draft.Distinct.openElement (hd : d.Distinct) (h : d.openElement path key = some d') :
    d'.Distinct := by
  obtain ⟨root, hfinish, h⟩ := Option.bind_eq_some_iff.mp h
  obtain ⟨root', hmay, h⟩ := Option.bind_eq_some_iff.mp h
  cases h
  exact ⟨distinct_of_mayAppend (hd.finish hfinish) hmay, .nil⟩

theorem Draft.Distinct.put (hd : d.Distinct) {v : Value} (hv : v.Distinct)
    (h : d.put path key v = some d') : d'.Distinct := by
  obtain ⟨current, hassign, rfl⟩ := Option.map_eq_some_iff.mp h
  exact ⟨hd.1, distinct_of_assign hd.2 hv hassign⟩

theorem Draft.Distinct.line (hd : d.Distinct) (h : line? d cs = some (d', rest)) :
    d'.Distinct := by
  rw [line?.eq_def] at h
  split at h
  case h_1 =>
    obtain ⟨⟨⟨path, key⟩, more⟩, -, h⟩ := Option.bind_eq_some_iff.mp h
    dsimp only at h
    split at h
    case h_1 =>
      obtain ⟨d'', hopen, h⟩ := Option.bind_eq_some_iff.mp h
      cases h
      exact hd.openElement hopen
    case h_2 => cases h
  case h_2 =>
    obtain ⟨⟨⟨path, key⟩, more⟩, -, h⟩ := Option.bind_eq_some_iff.mp h
    dsimp only at h
    split at h
    case h_1 =>
      obtain ⟨d'', hopen, h⟩ := Option.bind_eq_some_iff.mp h
      cases h
      exact hd.openTable hopen
    case h_2 => cases h
  case h_3 =>
    obtain ⟨⟨⟨path, key⟩, more⟩, -, h⟩ := Option.bind_eq_some_iff.mp h
    dsimp only at h
    split at h
    case h_1 =>
      obtain ⟨⟨v, _⟩, hv, h⟩ := Option.bind_eq_some_iff.mp h
      obtain ⟨d'', hput, h⟩ := Option.bind_eq_some_iff.mp h
      cases h
      exact hd.put ((readsDistinct _).value hv) hput
    case h_2 => cases h

theorem Draft.Distinct.lines (hd : d.Distinct) {root : Entries}
    (h : lines? fuel d cs = some root) : Entries.Distinct root := by
  induction fuel generalizing d cs with
  | zero => cases h
  | succ fuel ih =>
    rw [lines?] at h
    split at h
    case h_1 => exact hd.finish h
    case h_2 =>
      split at h
      case h_1 => exact ih hd h
      case h_2 => cases h
    case h_3 =>
      split at h
      case h_1 => exact ih hd h
      case h_2 =>
        split at h
        case h_1 => cases h
        case h_2 hline =>
          split at h
          case h_1 => exact ih (hd.line hline) h
          case h_2 => cases h

/-- A document that can be read assigns every key once. -/
theorem distinct_of_read? {text : String} {entries : List (String × Value)}
    (h : read? text = some entries) : (Value.table entries).Distinct := by
  obtain ⟨root, hlines, rfl⟩ := Option.map_eq_some_iff.mp h
  have hstart : Draft.start.Distinct := ⟨.nil, .nil⟩
  exact hstart.lines hlines

end Document

end DeclTree.Toml

namespace DeclTree.Settings.Reading

theorem distinct_wordValue (cs : List Char) : (wordValue cs).Distinct := by
  rw [wordValue]
  split
  · exact .integer _
  · split
    · exact .fraction
    · exact .text _

/-- What the readers of values read with some fuel has distinct keys. -/
structure ReadsDistinct (fuel : Nat) : Prop where
  value : ∀ {cs v rest}, value fuel cs = .ok (v, rest) → v.Distinct
  items : ∀ {cs vs rest}, items fuel cs = .ok (vs, rest) → ∀ v ∈ vs, v.Distinct
  pairs : ∀ {entries cs entries' rest}, (Value.table entries).Distinct →
    pairs fuel entries cs = .ok (entries', rest) → (Value.table entries').Distinct

theorem Result.of_map_eq_ok {α β : Type} {f : α → β} {r : Result α} {b : β} {rest : List Char}
    (h : Result.map f r = .ok (b, rest)) : ∃ a, r = .ok (a, rest) ∧ f a = b := by
  match r, h with
  | .ok (a, _), rfl => exact ⟨a, rfl, rfl⟩

variable {fuel : Nat} {cs rest : List Char}

theorem ReadsDistinct.value_succ (hreads : ReadsDistinct fuel) {v : Value}
    (h : Reading.value (fuel + 1) cs = .ok (v, rest)) : v.Distinct := by
  rw [Reading.value] at h
  split at h
  case h_2 => cases h
  case h_1 v' rest' hfound =>
    cases h
    split at hfound
    case h_1 =>
      cases hfound
      exact .flag _
    case h_2 =>
      obtain ⟨entries, hpairs, rfl⟩ := Result.of_map_eq_ok hfound
      exact hreads.pairs .nil hpairs
    case h_3 =>
      obtain ⟨vs, hitems, rfl⟩ := Result.of_map_eq_ok hfound
      exact .list (hreads.items hitems)
    case h_4 =>
      obtain ⟨s, -, rfl⟩ := Result.of_map_eq_ok hfound
      exact .text s
    case h_5 =>
      cases hfound
      exact .text _
    case h_6 => cases hfound
    case h_7 =>
      cases hfound
      exact distinct_wordValue _

theorem ReadsDistinct.items_succ (hreads : ReadsDistinct fuel) {vs : List Value}
    (h : Reading.items (fuel + 1) cs = .ok (vs, rest)) : ∀ v ∈ vs, v.Distinct := by
  rw [Reading.items.eq_def] at h
  split at h
  case h_1 => cases h
  case h_2 =>
    cases h
    exact fun _ h => absurd h List.not_mem_nil
  case h_3 fuel' hfuel _ =>
    obtain rfl : fuel = fuel' := Nat.succ.inj hfuel
    split at h
    case h_1 hv =>
      obtain ⟨vs', hvs, rfl⟩ := Result.of_map_eq_ok h
      exact List.forall_mem_cons.mpr ⟨hreads.value hv, hreads.items hvs⟩
    case h_2 hv =>
      cases h
      exact List.forall_mem_singleton.mpr (hreads.value hv)
    case h_3 => cases h
    case h_4 => cases h

theorem ReadsDistinct.pairs_succ (hreads : ReadsDistinct fuel)
    {entries entries' : List (String × Value)} (hentries : (Value.table entries).Distinct)
    (h : Reading.pairs (fuel + 1) entries cs = .ok (entries', rest)) :
    (Value.table entries').Distinct := by
  rw [Reading.pairs.eq_def] at h
  split at h
  case h_1 => cases h
  case h_2 =>
    cases h
    exact hentries
  case h_3 fuel' hfuel _ =>
    obtain rfl : fuel = fuel' := Nat.succ.inj hfuel
    split at h
    case h_1 =>
      split at h
      case h_1 hv => exact hreads.pairs (hentries.put _ (hreads.value hv)) h
      case h_2 hv =>
        cases h
        exact hentries.put _ (hreads.value hv)
      case h_3 => cases h
      case h_4 => cases h
    case h_2 => cases h
    case h_3 => cases h

theorem readsDistinct (fuel : Nat) : ReadsDistinct fuel := by
  induction fuel with
  | zero => exact { value := nofun, items := nofun, pairs := nofun }
  | succ fuel ih => exact ⟨ih.value_succ, ih.items_succ, ih.pairs_succ⟩

/-- The value of a variable repeats no key. -/
theorem distinct_of_ofText? {text : String} {v : Value} (h : ofText? text = some v) :
    v.Distinct := by
  rw [ofText?] at h
  split at h
  case h_1 hv =>
    cases h
    exact (readsDistinct _).value hv
  case h_2 => cases h
  case h_3 =>
    cases h
    exact .text text

end DeclTree.Settings.Reading
