import DeclTree.Proofs.DistinctKeys

/-!
# Every setting is that of the highest layer that assigns it

Layers are laid over each other before any value is looked at. Where both assign a
setting the upper value stands, and of two tables their entries, which no setting takes
(`Value.at?_merge`). So of the layers together, each setting is that of the last one
that assigns it (`Value.at?_foldl`), and what an upper layer replaces does not matter.
Variables are layers of one value each.

This needs that sections are tables: any other value of a section replaces all that the
layers below assign in it. And it needs that every variable of the program can be read, also
one that names no setting (`unknown_variable_ends_the_load`).
-/

namespace DeclTree.Settings

namespace Value

def isTable : Value → Bool
  | .table _ => true
  | _ => false

/-- The entry of a table. -/
def lookup? : Value → String → Option Value
  | .table entries, key => Ordered.get? entries key
  | _, _ => none

/-- What a layer assigns to a setting of a section. -/
def at? (layer : Value) (part key : String) : Option Value :=
  (layer.lookup? part).bind (·.lookup? key)

/-- A value without the entries of a table. -/
def bare : Value → Value
  | .table _ => .table []
  | v => v

/-- The sections that a layer has are tables. -/
def HasSections (layer : Value) : Prop :=
  ∀ part ∈ ["walk", "kinds"], ∀ inner, layer.lookup? part = some inner → inner.isTable = true

instance (layer : Value) : Decidable layer.HasSections :=
  decidable_of_iff (∀ part ∈ ["walk", "kinds"], (layer.lookup? part).all isTable = true) <| by
    simp only [HasSections, Option.all_eq_true]

/-- A table in which every section is a table, and none repeats a key. -/
structure IsLayer (layer : Value) : Prop where
  distinct : layer.Distinct
  table : layer.isTable = true
  sections : layer.HasSections

/-- A value laid over what was there. -/
def layOver (old : Option Value) (v : Value) : Value := (old.map (merge · v)).getD v

section Merging

variable {lower upper : Value}

theorem isTable_bare (v : Value) : v.bare.isTable = v.isTable := by cases v <;> rfl

theorem bare_merge (lower upper : Value) : (merge lower upper).bare = upper.bare := by
  cases upper with
  | table entries => cases lower <;> rfl
  | _ => rfl

theorem bare_layOver (old : Option Value) (v : Value) : (layOver old v).bare = v.bare := by
  cases old with
  | none => rfl
  | some lower => exact bare_merge lower v

theorem isTable_layOver (old : Option Value) (v : Value) : (layOver old v).isTable = v.isTable := by
  rw [← isTable_bare, bare_layOver, isTable_bare]

theorem mergeEntries_cons (lower rest : List (String × Value)) (key : String) (v : Value) :
    mergeEntries lower ((key, v) :: rest) =
      mergeEntries (Ordered.put lower key (layOver (Ordered.get? lower key) v)) rest := by
  rw [mergeEntries]
  cases Ordered.get? lower key <;> rfl

/-- Each entry of the upper table is laid over the one below it, and the others stay. -/
theorem get?_mergeEntries {upper : List (String × Value)} (h : (Ordered.keys upper).Nodup)
    (lower : List (String × Value)) (key : String) :
    Ordered.get? (mergeEntries lower upper) key =
      ((Ordered.get? upper key).map (layOver (Ordered.get? lower key))).or
        (Ordered.get? lower key) := by
  induction upper generalizing lower with
  | nil => rw [mergeEntries]; rfl
  | cons e rest ih =>
    obtain ⟨k, v⟩ := e
    obtain ⟨hnew, hrest⟩ := List.nodup_cons.mp h
    rw [mergeEntries_cons, ih hrest, Ordered.get?_put, Ordered.get?]
    by_cases hk : k = key
    · have hnone : Ordered.get? rest key = none := (Ordered.get?_eq_none_iff rest key).mpr (hk ▸ hnew)
      simp [hk, hnone]
    · simp [hk]

theorem lookup?_merge (hdistinct : upper.Distinct) (htable : upper.isTable = true) (key : String) :
    (merge lower upper).lookup? key =
      ((upper.lookup? key).map (layOver (lower.lookup? key))).or (lower.lookup? key) := by
  match upper, htable with
  | .table entries, _ =>
    have hkeys := (distinct_table_iff.mp hdistinct).1
    cases lower with
    | table below => exact get?_mergeEntries hkeys below key
    | _ =>
      simp only [merge, lookup?]
      cases Ordered.get? entries key <;> rfl

theorem lookup?_distinct {v inner : Value} {key : String} (h : v.Distinct)
    (hinner : v.lookup? key = some inner) : inner.Distinct := by
  match v, hinner with
  | .table entries, hinner =>
    exact (distinct_table_iff.mp h).2 _ (Ordered.mem_of_get? hinner)

theorem Distinct.layOver {old : Option Value} {v : Value}
    (hmerge : ∀ lower ∈ old, (merge lower v).Distinct) (hv : v.Distinct) :
    (layOver old v).Distinct := by
  cases old with
  | none => exact hv
  | some lower => exact hmerge lower rfl

mutual

theorem Distinct.merge {lower : Value} (hlower : lower.Distinct) :
    (upper : Value) → upper.Distinct → (merge lower upper).Distinct
  | .table entries, hupper => by
    cases hlower with
    | table hkeys h =>
      exact Distinct.mergeEntries (.table hkeys h) entries (distinct_table_iff.mp hupper).2
    | _ => exact hupper
  | .text _, h | .flag _, h | .integer _, h | .fraction, h | .list _, h => h

theorem Distinct.mergeEntries {lower : List (String × Value)} (hlower : (Value.table lower).Distinct) :
    (upper : List (String × Value)) → (∀ e ∈ upper, e.2.Distinct) →
      (Value.table (mergeEntries lower upper)).Distinct
  | [], _ => hlower
  | (key, v) :: rest, hupper => by
    obtain ⟨hv, hrest⟩ := List.forall_mem_cons.mp hupper
    rw [mergeEntries_cons]
    refine Distinct.mergeEntries (hlower.put key (.layOver (fun old hold => ?_) hv)) rest hrest
    exact Distinct.merge (lookup?_distinct (v := .table lower) hlower hold) v hv

end

/-- The upper layer decides, up to the entries of a value that is a table. -/
theorem at?_merge (lower : Value) (hupper : upper.IsLayer) {part : String}
    (hpart : part ∈ ["walk", "kinds"]) (key : String) :
    ((merge lower upper).at? part key).map bare =
      ((upper.at? part key).or (lower.at? part key)).map bare := by
  rw [at?, lookup?_merge hupper.distinct hupper.table, at?, at?]
  cases hinner : upper.lookup? part with
  | none => rfl
  | some inner =>
    have htable := hupper.sections part hpart inner hinner
    cases lower.lookup? part with
    | none => simp [layOver]
    | some old =>
      have hentry : (layOver (some old) inner).lookup? key =
          ((inner.lookup? key).map (layOver (old.lookup? key))).or (old.lookup? key) :=
        lookup?_merge (lookup?_distinct hupper.distinct hinner) htable key
      simp only [Option.map_some, Option.some_or, Option.bind_some, hentry]
      cases inner.lookup? key with
      | none => rfl
      | some v => simp [bare_layOver]

theorem IsLayer.merge (hlower : lower.IsLayer) (hupper : upper.IsLayer) :
    (Value.merge lower upper).IsLayer := by
  refine ⟨hlower.distinct.merge upper hupper.distinct, ?_, fun part hpart inner hinner => ?_⟩
  · rw [← isTable_bare, bare_merge, isTable_bare, hupper.table]
  · rw [lookup?_merge hupper.distinct hupper.table] at hinner
    cases hentry : upper.lookup? part with
    | none =>
      rw [hentry] at hinner
      exact hlower.sections part hpart inner hinner
    | some v =>
      rw [hentry] at hinner
      obtain rfl : layOver (lower.lookup? part) v = inner := Option.some.inj hinner
      rw [isTable_layOver]
      exact hupper.sections part hpart v hentry

/-- Of layers over each other, the last one that assigns a setting decides it. -/
theorem at?_foldl {layers : List Value} (h : ∀ layer ∈ layers, layer.IsLayer) (base : Value)
    {part : String} (hpart : part ∈ ["walk", "kinds"]) (key : String) :
    ((layers.foldl merge base).at? part key).map bare =
      ((layers.reverse.findSome? (·.at? part key)).or (base.at? part key)).map bare := by
  induction layers generalizing base with
  | nil => rfl
  | cons layer rest ih =>
    obtain ⟨hlayer, hrest⟩ := List.forall_mem_cons.mp h
    rw [List.foldl_cons, ih hrest, Option.map_or, at?_merge base hlayer hpart, ← Option.map_or,
      List.reverse_cons, List.findSome?_append, Option.or_assoc]
    cases hat : layer.at? part key <;> simp [hat]

theorem isLayer_foldl {layers : List Value} (h : ∀ layer ∈ layers, layer.IsLayer) {base : Value}
    (hbase : base.IsLayer) : (layers.foldl merge base).IsLayer := by
  induction layers generalizing base with
  | nil => exact hbase
  | cons layer rest ih =>
    obtain ⟨hlayer, hrest⟩ := List.forall_mem_cons.mp h
    exact ih hrest (hbase.merge hlayer)

end Merging

end Value

/-- The text of a variable of the program is cut inside a character when it is read. -/
def isCut (var : String × String) : Bool :=
  (Environment.path? var.1).isSome && (Reading.ofText? var.2).isNone

namespace Environment

/-- The layer of one variable of the program. -/
def layer? (var : String × String) : Option Value :=
  (path? var.1).bind fun path => (Reading.ofText? var.2).map (.nest path)

/-- Every variable of the program has a value; a text cut inside a character has none. -/
def Readable (env : Environment) : Prop :=
  ∀ var ∈ env, (path? var.1).isSome = true → (Reading.ofText? var.2).isSome = true

/-- What the variables assign to a setting; of several that do, the last counts. -/
def assigned? (env : Environment) (part key : String) : Option Value :=
  (env.filterMap layer?).reverse.findSome? (·.at? part key)

theorem settings?_of_readable {env : Environment} (h : env.Readable) :
    env.settings? = some ((env.filterMap layer?).foldl Value.merge (.table [])) := by
  rw [settings?]
  generalize Value.table [] = base
  induction env generalizing base with
  | nil => rfl
  | cons var rest ih =>
    obtain ⟨hvar, hrest⟩ := List.forall_mem_cons.mp h
    have hassign : assign? base var = some (((layer? var).map (base.merge ·)).getD base) := by
      rw [assign?, layer?]
      cases hpath : path? var.1 with
      | none => rfl
      | some path =>
        obtain ⟨v, hv⟩ := Option.isSome_iff_exists.mp (hvar (by rw [hpath]; rfl))
        simp [hv]
    rw [List.foldlM_cons, hassign, Option.bind_eq_bind, Option.bind_some, ih hrest,
      List.filterMap_cons]
    cases layer? var <;> rfl

theorem assign?_of_isCut {var : String × String} (h : isCut var = true) (acc : Value) :
    assign? acc var = none := by
  rw [isCut, Bool.and_eq_true] at h
  obtain ⟨path, hpath⟩ := Option.isSome_iff_exists.mp h.1
  rw [assign?, hpath]
  simp [Option.isNone_iff_eq_none.mp h.2]

theorem foldlM_assign?_of_isCut {env : Environment} {var : String × String} (hvar : var ∈ env)
    (h : isCut var = true) (acc : Value) : env.foldlM assign? acc = none := by
  induction env generalizing acc with
  | nil => cases hvar
  | cons first rest ih =>
    rw [List.foldlM_cons]
    rcases List.mem_cons.mp hvar with rfl | hrest
    · rw [assign?_of_isCut h]
      rfl
    · cases assign? acc first with
      | none => rfl
      | some acc => exact ih hrest acc

theorem exists_isCut {env : Environment} (h : ¬ env.Readable) : ∃ var ∈ env, isCut var = true := by
  simpa [Readable, isCut] using h

/-- A path has at least one part. -/
theorem path?_ne_nil (name : String) : path? name ≠ some [] := by
  rw [path?]
  split
  case h_1 => exact nofun
  case h_2 rest _ =>
    dsimp only
    split
    case isTrue => exact nofun
    case isFalse => simp [Text.splitChars_ne_nil]

theorem isLayer_layer? {var : String × String} {layer : Value} (h : layer? var = some layer)
    (hsections : layer.HasSections) : layer.IsLayer := by
  obtain ⟨path, hpath, hvalue⟩ := Option.bind_eq_some_iff.mp h
  obtain ⟨v, hv, rfl⟩ := Option.map_eq_some_iff.mp hvalue
  refine ⟨(Reading.distinct_of_ofText? hv).nest path, ?_, hsections⟩
  cases path with
  | nil => exact absurd hpath (path?_ne_nil _)
  | cons key rest => rfl

theorem isLayer_assigned {env : Environment}
    (hsections : ∀ layer ∈ env.filterMap layer?, layer.HasSections) :
    ∀ layer ∈ env.filterMap layer?, layer.IsLayer := by
  intro layer hlayer
  obtain ⟨var, -, hvar⟩ := List.mem_filterMap.mp hlayer
  exact isLayer_layer? hvar (hsections layer hlayer)

/-- The variables together assign to a setting what the last of them does that assigns it. -/
theorem at?_assigned {env : Environment}
    (hsections : ∀ layer ∈ env.filterMap layer?, layer.HasSections) {part : String}
    (hpart : part ∈ ["walk", "kinds"]) (key : String) :
    (((env.filterMap layer?).foldl Value.merge (.table [])).at? part key).map Value.bare =
      (env.assigned? part key).map Value.bare := by
  have hnone : (Value.table []).at? part key = none := rfl
  rw [Value.at?_foldl (isLayer_assigned hsections) _ hpart, hnone, Option.or_none, assigned?]

end Environment

/-- A read of a setting that takes no table. -/
def TakesNoTable {α : Type} (read : Value → Option α) : Prop :=
  ∀ entries, read (.table entries) = none

/-- The entries of a table do not matter to a read that takes none. -/
theorem typed_congr {α : Type} {read : Value → Option α} (hread : TakesNoTable read) (default : α)
    {found found' : Option Value} (h : found.map Value.bare = found'.map Value.bare) :
    typed read default found = typed read default found' := by
  have hbare : ∀ v, read v = read v.bare := by
    intro v
    cases v with
    | table entries => rw [Value.bare, hread, hread]
    | _ => rfl
  have htyped : ∀ found, typed read default found = typed read default (found.map Value.bare) := by
    intro found
    cases found with
    | none => rfl
    | some v => exact hbare v
  rw [htyped found, htyped found', h]

theorem takesNoTable_flags? : TakesNoTable flags? := fun _ => rfl

theorem takesNoTable_mode? : TakesNoTable mode? := fun _ => rfl

theorem takesNoTable_unsigned? : TakesNoTable Value.unsigned? := fun _ => rfl

theorem takesNoTable_text? : TakesNoTable Value.text? := fun _ => rfl

/-- A section that is a table gives what a layer assigns in it. -/
theorem sectionOf_lookup? {v : Value} (h : v.HasSections) {part : String}
    (hpart : part ∈ ["walk", "kinds"]) (names : List String) :
    sectionOf (v.lookup? part) names = some (v.at? part) := by
  have hat : v.at? part = fun key => (v.lookup? part).bind (·.lookup? key) := rfl
  rw [hat]
  cases hentry : v.lookup? part with
  | none => rfl
  | some inner =>
    match inner, h part hpart inner hentry with
    | .table entries, _ => rfl

/-- Each of the settings is what is assigned to it, when that has the right type, or else the
default. -/
structure Takes (assigned : String → String → Option Value) (s : Settings) : Prop where
  flags : typed flags? default.walk.namespaceFlags (assigned "walk" "namespace_flags") =
    some s.walk.namespaceFlags
  mode : typed mode? default.walk.scopeMode (assigned "walk" "namespace_scope") =
    some s.walk.scopeMode
  depth : typed Value.unsigned? default.walk.maxDepth (assigned "walk" "max_depth") =
    some s.walk.maxDepth
  path : typed Value.text? default.tablePath (assigned "kinds" "table_path") = some s.tablePath

theorem ofValue?_eq_some_iff {v : Value} (h : v.IsLayer) (s : Settings) :
    ofValue? v = some s ↔ Takes v.at? s := by
  match v, h with
  | .table entries, h =>
    have hwalk := @sectionOf_lookup? _ h.sections "walk" (by decide)
      ["namespace_flags", "namespace_scope", "max_depth"]
    have hkinds := @sectionOf_lookup? _ h.sections "kinds" (by decide) ["table_path"]
    rw [Value.lookup?] at hwalk hkinds
    rw [ofValue?, hwalk, hkinds]
    simp only [Option.bind_eq_bind, Option.bind_some, Option.bind_eq_some_iff, Option.some.injEq]
    constructor
    · rintro ⟨flags, hflags, mode, hmode, depth, hdepth, path, hpath, rfl⟩
      exact ⟨hflags, hmode, hdepth, hpath⟩
    · rintro ⟨hflags, hmode, hdepth, hpath⟩
      exact ⟨_, hflags, _, hmode, _, hdepth, _, hpath, rfl⟩

/-- Settings see of a table nothing but that it is one. -/
theorem Takes.congr {assigned assigned' : String → String → Option Value}
    (h : ∀ part ∈ ["walk", "kinds"], ∀ key,
      (assigned part key).map Value.bare = (assigned' part key).map Value.bare)
    {s : Settings} (hs : Takes assigned s) : Takes assigned' s := by
  have hwalk := fun key => (h "walk" (by decide) key).symm
  have hkinds := fun key => (h "kinds" (by decide) key).symm
  exact {
    flags := (typed_congr takesNoTable_flags? _ (hwalk _)).trans hs.flags
    mode := (typed_congr takesNoTable_mode? _ (hwalk _)).trans hs.mode
    depth := (typed_congr takesNoTable_unsigned? _ (hwalk _)).trans hs.depth
    path := (typed_congr takesNoTable_text? _ (hkinds _)).trans hs.path }

/-- A value for the default may also come from below. -/
theorem typed_or {α : Type} {read : Value → Option α} {default : α} {below : Option Value}
    (h : typed read default below = some default) (found : Option Value) :
    typed read default (found.or below) = typed read default found := by
  cases found with
  | none => exact h
  | some v => rfl

theorem takes_or_default_iff (assigned : String → String → Option Value) (s : Settings) :
    Takes (fun part key => (assigned part key).or (default.toValue.at? part key)) s ↔
      Takes assigned s := by
  have hflags : typed flags? default.walk.namespaceFlags
      (default.toValue.at? "walk" "namespace_flags") = some default.walk.namespaceFlags := by rfl
  have hmode : typed mode? default.walk.scopeMode
      (default.toValue.at? "walk" "namespace_scope") = some default.walk.scopeMode := by rfl
  have hdepth : typed Value.unsigned? default.walk.maxDepth
      (default.toValue.at? "walk" "max_depth") = some default.walk.maxDepth := by decide
  have hpath : typed Value.text? default.tablePath
      (default.toValue.at? "kinds" "table_path") = some default.tablePath := by rfl
  constructor
  · rintro ⟨hf, hm, hd, hp⟩
    rw [typed_or hflags] at hf
    rw [typed_or hmode] at hm
    rw [typed_or hdepth] at hd
    rw [typed_or hpath] at hp
    exact ⟨hf, hm, hd, hp⟩
  · rintro ⟨hf, hm, hd, hp⟩
    exact ⟨(typed_or hflags _).trans hf, (typed_or hmode _).trans hm, (typed_or hdepth _).trans hd,
      (typed_or hpath _).trans hp⟩

/-- Settings are a layer when they are written as one. -/
theorem isLayer_toValue (s : Settings) : s.toValue.IsLayer := by
  have hwalk : (Value.table [
      ("namespace_flags", .list (s.walk.namespaceFlags.map .integer)),
      ("namespace_scope", .text s.walk.scopeMode.name),
      ("max_depth", .integer s.walk.maxDepth)]).Distinct := by
    refine .table (by simp [Ordered.keys]) ?_
    simp only [List.forall_mem_cons, List.not_mem_nil, false_implies, implies_true, and_true]
    exact ⟨.list (List.forall_mem_map.mpr fun n _ => .integer n), .text _, .integer _⟩
  have hkinds : (Value.table [("table_path", .text s.tablePath)]).Distinct :=
    Value.Distinct.nil.put "table_path" (.text _)
  refine ⟨(Value.Distinct.nil.put "walk" hwalk).put "kinds" hkinds, rfl, ?_⟩
  intro part hpart inner hinner
  simp only [List.mem_cons, List.not_mem_nil, or_false] at hpart
  rcases hpart with rfl | rfl
  · obtain rfl := Option.some.inj hinner
    rfl
  · obtain rfl := Option.some.inj hinner
    rfl

theorem isLayer_of_fileLayer {files : Files} {path : Option String} {layer : Value}
    (h : fileLayer files path = some layer) (hsections : layer.HasSections) : layer.IsLayer := by
  rw [fileLayer] at h
  split at h
  case h_1 =>
    cases h
    exact ⟨.nil, rfl, hsections⟩
  case h_2 =>
    obtain ⟨entries, hread, rfl⟩ := Option.map_eq_some_iff.mp h
    obtain ⟨text, -, htext⟩ := Option.bind_eq_some_iff.mp hread
    exact ⟨Toml.distinct_of_read? htext, rfl, hsections⟩

theorem validate_eq_ok_iff {s s' : Settings} :
    validate s = .ok s' ↔ s = s' ∧ s.walk.namespaceFlags ≠ [] ∧ s.walk.maxDepth ≠ 0 := by
  rw [validate]
  by_cases hflags : s.walk.namespaceFlags = []
  · simp [hflags]
  · by_cases hdepth : s.walk.maxDepth = 0 <;> simp [hflags, hdepth]

/-- Whatever the files and the variables, settings that are loaded have a flag and some depth. -/
theorem valid_of_load {env : Environment} {files : Files} {s : Settings}
    (h : load env files = .ok s) : s.walk.namespaceFlags ≠ [] ∧ 1 ≤ s.walk.maxDepth := by
  rw [load] at h
  split at h
  case h_1 => cases h
  case h_2 =>
    rw [ofLayers] at h
    split at h
    case h_1 => cases h
    case h_2 =>
      split at h
      case h_1 => cases h
      case h_2 =>
        obtain ⟨rfl, hflags, hdepth⟩ := validate_eq_ok_iff.mp h
        exact ⟨hflags, Nat.pos_of_ne_zero hdepth⟩

/-- Whatever the files, a variable that is cut inside a character ends the load. -/
theorem load_of_isCut {env : Environment} {files : Files} {var : String × String}
    (hvar : var ∈ env) (h : isCut var = true) : load env files = .error .splitCharacter := by
  rw [load, Environment.settings?, Environment.foldlM_assign?_of_isCut hvar h]

/-- The value of a setting in the highest layer that assigns it. -/
def chosen (env : Environment) (user project : Value) (part key : String) : Option Value :=
  (env.assigned? part key).or ((project.at? part key).or (user.at? part key))

section Load

variable {env : Environment} {files : Files} {user project : Value}

/-- What is laid over the defaults: the files, and all variables together. -/
def layers (env : Environment) (user project : Value) : List Value :=
  [user, project, (env.filterMap Environment.layer?).foldl Value.merge (.table [])]

/-- What the files and the variables assign, laid over the defaults. -/
def merged (env : Environment) (user project : Value) : Value :=
  (layers env user project).foldl Value.merge default.toValue

theorem load_eq (huser : fileLayer files (userFile? env) = some user)
    (hproject : fileLayer files (some projectFile) = some project) (hreadable : env.Readable) :
    load env files =
      match ofValue? (merged env user project) with
      | none => .error .malformed
      | some s => validate s := by
  rw [load, Environment.settings?_of_readable hreadable, huser, hproject]
  rfl

theorem isLayer_layers (huser : user.IsLayer) (hproject : project.IsLayer)
    (hvars : ∀ layer ∈ env.filterMap Environment.layer?, layer.HasSections) :
    ∀ layer ∈ layers env user project, layer.IsLayer := by
  have hempty : (Value.table []).IsLayer := ⟨.nil, rfl, fun _ _ _ h => by cases h⟩
  have hassigned := Value.isLayer_foldl (Environment.isLayer_assigned hvars) hempty
  simp only [layers, List.forall_mem_cons, List.not_mem_nil, false_implies, implies_true, and_true]
  exact ⟨huser, hproject, hassigned⟩

/-- All layers together assign what the highest of them does, else the default. -/
theorem at?_merged (huser : user.IsLayer) (hproject : project.IsLayer)
    (hvars : ∀ layer ∈ env.filterMap Environment.layer?, layer.HasSections) {part : String}
    (hpart : part ∈ ["walk", "kinds"]) (key : String) :
    ((merged env user project).at? part key).map Value.bare =
      ((chosen env user project part key).or (default.toValue.at? part key)).map Value.bare := by
  have hfirst : ∀ a b c : Value, [a, b, c].reverse.findSome? (·.at? part key) =
      (c.at? part key).or ((b.at? part key).or (a.at? part key)) := by
    intro a b c
    simp only [List.reverse_cons, List.reverse_nil, List.nil_append, List.cons_append,
      List.findSome?_cons, List.findSome?_nil]
    cases c.at? part key <;> cases b.at? part key <;> cases a.at? part key <;> rfl
  have hvar := Environment.at?_assigned hvars hpart key
  rw [merged, Value.at?_foldl (isLayer_layers huser hproject hvars) _ hpart, Option.map_or,
    Option.map_or, layers, hfirst, Option.map_or, hvar, ← Option.map_or, chosen]

/-- Of all that is assigned, the settings take what the highest layer assigns. -/
theorem ofValue?_merged (huser : user.IsLayer) (hproject : project.IsLayer)
    (hvars : ∀ layer ∈ env.filterMap Environment.layer?, layer.HasSections) (s : Settings) :
    ofValue? (merged env user project) = some s ↔ Takes (chosen env user project) s := by
  have hmerged : (merged env user project).IsLayer :=
    Value.isLayer_foldl (isLayer_layers huser hproject hvars) (isLayer_toValue default)
  rw [ofValue?_eq_some_iff hmerged, ← takes_or_default_iff (chosen env user project)]
  constructor
  · exact Takes.congr fun part hpart key => at?_merged huser hproject hvars hpart key
  · exact Takes.congr fun part hpart key => (at?_merged huser hproject hvars hpart key).symm

theorem validate_eq (s : Settings) :
    validate s =
      if s.walk.namespaceFlags = [] then
        .error (.invalidValue "walk.namespace_flags" "at least one flag value is required")
      else if s.walk.maxDepth = 0 then
        .error (.invalidValue "walk.max_depth" "must be greater than zero")
      else .ok s := by
  simp only [validate, List.isEmpty_iff, beq_iff_eq]

/-- Every setting is taken on its own from the highest layer that assigns it, and only what is taken
has to have the right type, at least one flag and a depth above zero. The one exception is a
variable of the program, whatever it assigns, with a value that is cut inside a character: then
there is no result. -/
theorem load_takes_highest_layer
    (huser : fileLayer files (userFile? env) = some user)
    (hproject : fileLayer files (some projectFile) = some project)
    (hsections : ∀ layer ∈ user :: project :: env.filterMap Environment.layer?,
      layer.HasSections) :
    (env.Readable → ∀ s, Takes (chosen env user project) s → load env files =
      if s.walk.namespaceFlags = [] then
        .error (.invalidValue "walk.namespace_flags" "at least one flag value is required")
      else if s.walk.maxDepth = 0 then
        .error (.invalidValue "walk.max_depth" "must be greater than zero")
      else .ok s) ∧
    (env.Readable → (∀ s, ¬ Takes (chosen env user project) s) →
      load env files = .error .malformed) ∧
    (¬ env.Readable → load env files = .error .splitCharacter) ∧
    ∀ s, load env files = .ok s →
      Takes (chosen env user project) s ∧ s.walk.namespaceFlags ≠ [] ∧ 1 ≤ s.walk.maxDepth := by
  obtain ⟨huserSections, hproject', hvars⟩ : user.HasSections ∧ project.HasSections ∧
      ∀ layer ∈ env.filterMap Environment.layer?, layer.HasSections := by
    simpa only [List.forall_mem_cons] using hsections
  have htakes := ofValue?_merged (isLayer_of_fileLayer huser huserSections)
    (isLayer_of_fileLayer hproject hproject') hvars
  have hmalformed : env.Readable → (∀ s, ¬ Takes (chosen env user project) s) →
      load env files = .error .malformed := by
    intro hreadable hnone
    have hvalue : ofValue? (merged env user project) = none :=
      Option.eq_none_iff_forall_ne_some.mpr fun s hs => hnone s ((htakes s).mp hs)
    rw [load_eq huser hproject hreadable, hvalue]
  have hvalid : env.Readable → ∀ s, Takes (chosen env user project) s →
      load env files = validate s := by
    intro hreadable s hs
    rw [load_eq huser hproject hreadable, (htakes s).mpr hs]
  have hcut : ¬ env.Readable → load env files = .error .splitCharacter := by
    intro hunread
    obtain ⟨var, hvar, h⟩ := Environment.exists_isCut hunread
    exact load_of_isCut hvar h
  refine ⟨fun hr s hs => (hvalid hr s hs).trans (validate_eq s), hmalformed, hcut, fun s hs => ?_⟩
  have hreadable : env.Readable := by
    apply Classical.byContradiction
    intro hunread
    rw [hcut hunread] at hs
    cases hs
  by_cases hex : ∃ s', Takes (chosen env user project) s'
  · obtain ⟨s', hs'⟩ := hex
    obtain ⟨rfl, -⟩ := validate_eq_ok_iff.mp ((hvalid hreadable s' hs').symm.trans hs)
    exact ⟨hs', valid_of_load hs⟩
  · rw [hmalformed hreadable (not_exists.mp hex)] at hs
    cases hs

/-- A variable that names no setting, and nothing else: all settings are the defaults, which are
valid, yet an escape after a character of two bytes ends the load. -/
theorem unknown_variable_ends_the_load :
    let env : Environment := [("TSDECL_WALK_MAX_DEPTH", "\"é\\n\"")]
    let files : Files := ⟨["w"], []⟩
    Environment.path? "TSDECL_WALK_MAX_DEPTH" = some ["walk_max_depth"] ∧
      fileLayer files (userFile? env) = some (.table []) ∧
      fileLayer files (some projectFile) = some (.table []) ∧
      (∀ layer ∈ .table [] :: .table [] :: env.filterMap Environment.layer?,
        layer.HasSections) ∧
      Takes (chosen env (.table []) (.table [])) default ∧
      default.walk.namespaceFlags ≠ [] ∧ 1 ≤ default.walk.maxDepth ∧
      load env files = .error .splitCharacter := by
  intro env files
  have hlayers : env.filterMap Environment.layer? = [] := by decide +kernel
  have hcut : isCut ("TSDECL_WALK_MAX_DEPTH", "\"é\\n\"") = true := by decide +kernel
  refine ⟨by decide, by rfl, by rfl, ?_, ?_, by decide, by decide,
    load_of_isCut List.mem_cons_self hcut⟩
  · rw [hlayers]
    decide
  · exact ⟨by decide +kernel, by decide +kernel, by decide +kernel, by decide +kernel⟩

end Load

section Files

theorem fromUTF8?_toUTF8 (text : String) : String.fromUTF8? text.toUTF8 = some text :=
  dif_pos text.isValidUTF8

/-- A file of settings is read as its text. -/
theorem fileLayer_of_text {files : Files} {path text : String}
    (h : files.bytes? path = some text.toUTF8) (hread : (Toml.read? text).isSome = true) :
    fileLayer files (some path) = some (.table ((Toml.read? text).getD [])) := by
  obtain ⟨entries, hentries⟩ := Option.isSome_iff_exists.mp hread
  rw [fileLayer, Option.bind_some, h]
  dsimp only
  rw [fromUTF8?_toUTF8, Option.bind_some, hentries, Option.map_some, Option.getD_some]

/-- The files of a user and a project that both have settings. -/
def bothFiles (user project : ByteArray) : Files :=
  ⟨["w"], [(["h", ".config", "tsdecl", "config.toml"], user),
    (["w", ".tsdecl", "config.toml"], project)]⟩

theorem bytes?_userFile (user project : ByteArray) :
    (bothFiles user project).bytes? "/h/.config/tsdecl/config.toml" = some user := by rfl

theorem bytes?_projectFile (user project : ByteArray) :
    (bothFiles user project).bytes? projectFile = some project := by rfl

/-- The user's depth has the wrong type, but a variable assigns another. -/
theorem load_takes_highest_layer_of_each :
    load [("HOME", "/h"), ("TSDECL_WALK__MAX_DEPTH", "8")]
      (bothFiles "walk.max_depth = 'x'".toUTF8 "[walk]\nnamespace_flags = [7]".toUTF8) =
        .ok ⟨⟨[7], .flat, 8⟩, ""⟩ := by
  have hpath : userFile? [("HOME", "/h"), ("TSDECL_WALK__MAX_DEPTH", "8")] =
      some "/h/.config/tsdecl/config.toml" := by
    decide
  have huser := fileLayer_of_text
    (bytes?_userFile "walk.max_depth = 'x'".toUTF8 "[walk]\nnamespace_flags = [7]".toUTF8)
    (by decide +kernel)
  have hproject := fileLayer_of_text
    (bytes?_projectFile "walk.max_depth = 'x'".toUTF8 "[walk]\nnamespace_flags = [7]".toUTF8)
    (by decide +kernel)
  rw [← hpath] at huser
  have hload := load_takes_highest_layer huser hproject (by decide +kernel)
  have hreadable : Environment.Readable [("HOME", "/h"), ("TSDECL_WALK__MAX_DEPTH", "8")] := by
    unfold Environment.Readable
    decide +kernel
  exact hload.1 hreadable ⟨⟨[7], .flat, 8⟩, ""⟩
    ⟨by decide +kernel, by decide +kernel, by decide +kernel, by decide +kernel⟩

end Files

end DeclTree.Settings
