import DeclTree.Cli.Run
import DeclTree.Proofs.Layering
import DeclTree.Proofs.NumberNames
import DeclTree.Proofs.Writes

/-!
# Misspelt variables assign no setting

A variable with the name of a section and a single underscore is one that a run warns of. The
underscore stays in the first part of its path, whatever comes after it, so that it names no
section (`underscore_mem_of_misspelt`). What it assigns lies beside the settings, and they come
out as without it (`load_without_misspelt`).

Its value is read all the same. One that is cut inside a character ends the load: this is the only
way in which such a variable is noticed (`misspelt_variable_ends_the_load`).
-/

namespace DeclTree.Text

theorem trimEndChars_append {c : Char} (hc : isBlank c = false) (front rest : List Char) :
    trimEndChars (front ++ c :: rest) = front ++ c :: trimEndChars rest := by
  have hreverse : (front ++ c :: rest).reverse = rest.reverse ++ c :: front.reverse := by simp
  rw [trimEndChars, trimEndChars, hreverse, List.dropWhile_append]
  by_cases hrest : (rest.reverse.dropWhile isBlank).isEmpty = true
  · rw [if_pos hrest, List.dropWhile_cons_of_neg (by simp [hc]), List.isEmpty_iff.mp hrest]
    simp
  · rw [if_neg hrest]
    simp

/-- Trimming goes no further than a character that is not blank. -/
theorem trimChars_append {front : List Char} (hfront : ∀ x ∈ front, isBlank x = false)
    {c : Char} (hc : isBlank c = false) (rest : List Char) :
    trimChars (front ++ c :: rest) = front ++ c :: trimEndChars rest := by
  have hstart : trimStartChars (front ++ c :: rest) = front ++ c :: rest := by
    cases front with
    | nil => exact List.dropWhile_cons_of_neg (by simp [hc])
    | cons x front =>
      exact List.dropWhile_cons_of_neg (by simp [hfront x List.mem_cons_self])
  rw [trimChars, hstart, trimEndChars_append hc]

/-- Text without a separator begins the first piece. -/
theorem splitChars_prepend {sep : Char} {front : List Char} (hfront : sep ∉ front)
    (rest : List Char) :
    ∃ piece pieces, splitChars sep (front ++ rest) = (front ++ piece) :: pieces := by
  induction front with
  | nil => exact List.exists_cons_of_ne_nil (splitChars_ne_nil sep rest)
  | cons c front ih =>
    obtain ⟨hc, htail⟩ := List.ne_and_not_mem_of_not_mem_cons hfront
    obtain ⟨piece, pieces, hsplit⟩ := ih htail
    exact ⟨piece, pieces, by simp [splitChars, Ne.symm hc, hsplit]⟩

theorem head?_trimEndChars {rest : List Char} {c : Char} (h : rest.head? ≠ some c) :
    (trimEndChars rest).head? ≠ some c := by
  have hprefix : trimEndChars rest <+: rest := by
    rw [trimEndChars, ← List.reverse_suffix, List.reverse_reverse]
    exact List.dropWhile_suffix _
  intro hhead
  obtain ⟨tail, htail⟩ := hprefix
  rw [← htail, List.head?_append, hhead] at h
  exact h rfl

end DeclTree.Text

namespace DeclTree.Settings

open Text (trimChars_append head?_trimEndChars splitChars_prepend)

/-! ### The path of a misspelt variable -/

section Name

theorem dotted_append {front : List Char} (hfront : '_' ∉ front) (rest : List Char) :
    Environment.dotted (front ++ rest) = front ++ Environment.dotted rest := by
  induction front with
  | nil => rfl
  | cons c front ih =>
    obtain ⟨hc, hrest⟩ := List.ne_and_not_mem_of_not_mem_cons hfront
    rw [List.cons_append, Environment.dotted, ih hrest, List.cons_append]
    intro cs hcs
    exact absurd hcs.symm hc

/-- One underscore stays. -/
theorem dotted_underscore {rest : List Char} (h : rest.head? ≠ some '_') :
    Environment.dotted ('_' :: rest) = '_' :: Environment.dotted rest := by
  rw [Environment.dotted]
  rintro cs - rfl
  exact h rfl

/-- Neither an underscore nor a dot nor white space. -/
def isPlainName (part : List Char) : Bool :=
  part.all fun c => c != '_' && c != '.' && !Text.isBlank c

theorem forall_of_isPlainName {part : List Char} (h : isPlainName part = true) :
    ∀ c ∈ part, c ≠ '_' ∧ c ≠ '.' ∧ Text.isBlank c = false := by
  simpa [isPlainName, and_assoc] using h

variable {part rest : List Char} (hpart : isPlainName part = true)

include hpart

theorem afterMarker?_trimmed {name : String}
    (hname : name.toList = "TSDECL_".toList ++ part ++ '_' :: rest) :
    Environment.afterMarker? (Text.trimChars name.toList) =
      some (part ++ '_' :: Text.trimEndChars rest) := by
  have hblank : ∀ c ∈ "TSDECL_".toList ++ part, Text.isBlank c = false := by
    intro c hc
    rcases List.mem_append.mp hc with hc | hc
    · have hmarker : "TSDECL_".toList.all (!Text.isBlank ·) = true := by decide
      simpa using List.all_eq_true.mp hmarker c hc
    · exact (forall_of_isPlainName hpart c hc).2.2
  rw [hname, trimChars_append hblank (by decide), List.append_assoc]
  rfl

theorem trimChars_dotted (hrest : rest.head? ≠ some '_') :
    Text.trimChars (Environment.dotted (part ++ '_' :: rest)) =
      (part ++ ['_']) ++ Text.trimEndChars (Environment.dotted rest) := by
  have hname := forall_of_isPlainName hpart
  rw [dotted_append fun h => (hname _ h).1 rfl, dotted_underscore hrest,
    trimChars_append (fun c hc => (hname c hc).2.2) (by decide), List.append_assoc]
  rfl

/-- A single underscore after the name of a section is in the first part of the path. -/
theorem underscore_mem_of_single (hrest : rest.head? ≠ some '_') {name : String}
    (hname : name.toList = "TSDECL_".toList ++ part ++ '_' :: rest) {path : List String}
    (hpath : Environment.path? name = some path) :
    ∃ key more, path = key :: more ∧ '_' ∈ key.toList := by
  have hdot : '.' ∉ part ++ ['_'] := by
    intro h
    rcases List.mem_append.mp h with h | h
    · exact (forall_of_isPlainName hpart _ h).2.1 rfl
    · exact absurd h (by decide)
  obtain ⟨piece, pieces, hsplit⟩ :=
    splitChars_prepend hdot (Text.trimEndChars (Environment.dotted (Text.trimEndChars rest)))
  rw [Environment.path?, afterMarker?_trimmed hpart hname] at hpath
  simp only [trimChars_dotted hpart (head?_trimEndChars hrest), hsplit] at hpath
  split at hpath
  case isTrue => cases hpath
  case isFalse =>
    obtain rfl := Option.some.inj hpath
    have hlower : Char.toLower '_' = '_' := rfl
    exact ⟨_, _, rfl, by simp [hlower]⟩

omit hpart

/-- The name of a variable that a run warns of: that of a section, followed by one underscore. -/
def misspelt (name : String) : Bool :=
  Cli.isMisspelt "TSDECL_WALK" name || Cli.isMisspelt "TSDECL_KINDS" name

/-- The other variables. -/
def Environment.wellSpelt (env : Environment) : Environment :=
  env.filter fun var => !misspelt var.1

theorem single_of_isMisspelt {part name : String} (h : Cli.isMisspelt part name = true) :
    ∃ rest, rest.head? ≠ some '_' ∧ name.toList = part.toList ++ '_' :: rest := by
  rw [Cli.isMisspelt] at h
  split at h
  case h_1 => cases h
  case h_2 rest hdouble hafter =>
    refine ⟨rest, fun hhead => ?_, (Json.Lexeme.after?_eq_some_iff _ _ _).mp hafter⟩
    obtain ⟨tail, rfl⟩ := List.head?_eq_some_iff.mp hhead
    exact hdouble tail rfl
  case h_3 => cases h

theorem underscore_mem_of_misspelt {name : String} (h : misspelt name = true)
    {path : List String} (hpath : Environment.path? name = some path) :
    ∃ key more, path = key :: more ∧ '_' ∈ key.toList := by
  rw [misspelt, Bool.or_eq_true] at h
  rcases h with h | h
  · obtain ⟨rest, hrest, hname⟩ := single_of_isMisspelt h
    exact @underscore_mem_of_single "WALK".toList rest (by decide) hrest _ hname _ hpath
  · obtain ⟨rest, hrest, hname⟩ := single_of_isMisspelt h
    exact @underscore_mem_of_single "KINDS".toList rest (by decide) hrest _ hname _ hpath

end Name

/-! ### What lies beside the settings -/

section Beside

open Value (lookup?_merge)

/-- Tables with the same sections, whatever else is in them. -/
structure SameSections (v v' : Value) : Prop where
  table : v.isTable = true
  table' : v'.isTable = true
  distinct : v.Distinct
  distinct' : v'.Distinct
  sections : ∀ part ∈ ["walk", "kinds"], v.lookup? part = v'.lookup? part

variable {v v' upper : Value}

theorem isTable_merge (lower upper : Value) : (lower.merge upper).isTable = upper.isTable := by
  rw [← Value.isTable_bare, Value.bare_merge, Value.isTable_bare]

theorem SameSections.merge (h : SameSections v v') (hdistinct : upper.Distinct)
    (htable : upper.isTable = true) : SameSections (v.merge upper) (v'.merge upper) where
  table := (isTable_merge v upper).trans htable
  table' := (isTable_merge v' upper).trans htable
  distinct := h.distinct.merge upper hdistinct
  distinct' := h.distinct'.merge upper hdistinct
  sections := by
    intro part hpart
    rw [lookup?_merge hdistinct htable, lookup?_merge hdistinct htable, h.sections part hpart]

/-- A value under a key of its own changes no section. -/
theorem SameSections.merge_nest (h : SameSections v v') {key : String}
    (hkey : key ∉ ["walk", "kinds"]) (more : List String) {x : Value} (hx : x.Distinct) :
    SameSections (v.merge (.nest (key :: more) x)) v' where
  table := isTable_merge v _
  table' := h.table'
  distinct := h.distinct.merge _ (hx.nest _)
  distinct' := h.distinct'
  sections := by
    intro part hpart
    have hother : (Value.nest (key :: more) x).lookup? part = none := by
      have hne : key ≠ part := (ne_of_mem_of_not_mem hpart hkey).symm
      exact if_neg hne
    rw [lookup?_merge (hx.nest _) rfl, hother, h.sections part hpart]
    rfl

/-- The settings of a table come from its sections. -/
theorem ofValue?_congr (htable : v.isTable = true) (htable' : v'.isTable = true)
    (h : ∀ part ∈ ["walk", "kinds"], v.lookup? part = v'.lookup? part) :
    ofValue? v = ofValue? v' := by
  match v, htable, v', htable' with
  | .table entries, _, .table entries', _ =>
    have hwalk : Ordered.get? entries "walk" = Ordered.get? entries' "walk" :=
      h "walk" (by decide)
    have hkinds : Ordered.get? entries "kinds" = Ordered.get? entries' "kinds" :=
      h "kinds" (by decide)
    rw [ofValue?, ofValue?, hwalk, hkinds]

theorem ofLayers_congr (h : SameSections v v') (user project : Option Value) :
    ofLayers [user, project, some v] = ofLayers [user, project, some v'] := by
  have hvalue : ∀ lower : Value, ofValue? (lower.merge v) = ofValue? (lower.merge v') := by
    intro lower
    refine ofValue?_congr ((isTable_merge lower v).trans h.table)
      ((isTable_merge lower v').trans h.table') fun part hpart => ?_
    rw [lookup?_merge h.distinct h.table, lookup?_merge h.distinct' h.table',
      h.sections part hpart]
  cases user with
  | none => rfl
  | some user =>
    cases project with
    | none => rfl
    | some project =>
      have hmerged := hvalue ((default.toValue.merge user).merge project)
      simp only [ofLayers, List.mapM_cons, List.mapM_nil, id, Option.pure_def, Option.bind_eq_bind,
        Option.bind_some, List.foldl_cons, List.foldl_nil, hmerged]

end Beside

/-! ### Loading without the misspelt variables -/

/-- A misspelt variable leaves the sections as they are. -/
theorem SameSections.assign_misspelt {acc acc' : Value} (h : SameSections acc acc')
    {var : String × String} (hmisspelt : misspelt var.1 = true) (hread : isCut var = false) :
    ∃ next, Environment.assign? acc var = some next ∧ SameSections next acc' := by
  rw [Environment.assign?]
  cases hpath : Environment.path? var.1 with
  | none => exact ⟨acc, rfl, h⟩
  | some path =>
    obtain ⟨key, more, rfl, hunderscore⟩ := underscore_mem_of_misspelt hmisspelt hpath
    have hkey : key ∉ ["walk", "kinds"] := by
      intro hmem
      have hplain : ∀ part ∈ ["walk", "kinds"], '_' ∉ part.toList := by decide
      exact hplain key hmem hunderscore
    have hsome : (Reading.ofText? var.2).isSome = true := by simpa [isCut, hpath] using hread
    obtain ⟨x, hx⟩ := Option.isSome_iff_exists.mp hsome
    have hbeside := h.merge_nest hkey more (Reading.distinct_of_ofText? hx)
    exact ⟨acc.merge (.nest (key :: more) x), by rw [hx]; rfl, hbeside⟩

/-- The same variable keeps the same sections, or cannot be read on either side. -/
theorem SameSections.assign {acc acc' : Value} (h : SameSections acc acc')
    (var : String × String) :
    Option.Rel SameSections (Environment.assign? acc var) (Environment.assign? acc' var) := by
  rw [Environment.assign?, Environment.assign?]
  cases hpath : Environment.path? var.1 with
  | none => exact .some h
  | some path =>
    cases hx : Reading.ofText? var.2 with
    | none => exact .none
    | some x =>
      have hdistinct := (Reading.distinct_of_ofText? hx).nest path
      have htable : (Value.nest path x).isTable = true := by
        cases path with
        | nil => exact absurd hpath (Environment.path?_ne_nil _)
        | cons key more => rfl
      exact .some (h.merge hdistinct htable)

/-- Variable by variable, the sections stay the same without the misspelt ones. -/
theorem sameSections_foldlM {env : Environment}
    (hread : ∀ var ∈ env, misspelt var.1 = true → isCut var = false) {acc acc' : Value}
    (h : SameSections acc acc') :
    Option.Rel SameSections (env.foldlM Environment.assign? acc)
      (env.wellSpelt.foldlM Environment.assign? acc') := by
  -- only the left side takes the step of a misspelt variable
  induction env generalizing acc acc' with
  | nil => exact .some h
  | cons var rest ih =>
    obtain ⟨hvar, hrest⟩ := List.forall_mem_cons.mp hread
    rw [Environment.wellSpelt, List.filter_cons, List.foldlM_cons]
    by_cases hmisspelt : misspelt var.1 = true
    · obtain ⟨next, hnext, hsame⟩ := h.assign_misspelt hmisspelt (hvar hmisspelt)
      rw [if_neg (by simp [hmisspelt]), hnext]
      exact ih hrest hsame
    · rw [if_pos (by simpa using hmisspelt), List.foldlM_cons]
      have hstep := h.assign var
      revert hstep
      generalize Environment.assign? acc var = next
      generalize Environment.assign? acc' var = next'
      rintro (hsame | -)
      · exact ih hrest hsame
      · exact .none

theorem userFile?_wellSpelt (env : Environment) : userFile? env.wellSpelt = userFile? env := by
  have hkept : ∀ name, misspelt name = false → env.wellSpelt.get? name = env.get? name := by
    intro name hname
    have hkeep : (!misspelt name) = true := by rw [hname, Bool.not_false]
    exact @Ordered.get?_filter _ _ _ (!misspelt ·) name hkeep env
  rw [userFile?, userFile?, userDirectory?, userDirectory?, hkept "XDG_CONFIG_HOME" (by decide),
    hkept "HOME" (by decide)]

/-- Without the misspelt variables the settings, or what is wrong with them, are the same. Only a
value that is cut inside a character makes such a variable noticed, and then there is no result. -/
theorem load_without_misspelt (env : Environment) (files : Files) :
    load env files =
      if env.any (fun var => misspelt var.1 && isCut var) then .error .splitCharacter
      else load env.wellSpelt files := by
  by_cases hcut : env.any (fun var => misspelt var.1 && isCut var) = true
  · obtain ⟨var, hvar, h⟩ := List.any_eq_true.mp hcut
    rw [Bool.and_eq_true] at h
    rw [if_pos hcut, load_of_isCut hvar h.2]
  · have hread : ∀ var ∈ env, misspelt var.1 = true → isCut var = false := by
      intro var hvar hmisspelt
      by_contra hne
      exact hcut (List.any_eq_true.mpr ⟨var, hvar, by simpa [hmisspelt] using hne⟩)
    have hempty : SameSections (.table []) (.table []) := ⟨rfl, rfl, .nil, .nil, fun _ _ => rfl⟩
    have hsame := sameSections_foldlM hread hempty
    rw [if_neg hcut, load, load, userFile?_wellSpelt, Environment.settings?, Environment.settings?]
    revert hsame
    generalize env.foldlM Environment.assign? (.table []) = assigned
    generalize env.wellSpelt.foldlM Environment.assign? (.table []) = assigned'
    rintro (h | -)
    · exact ofLayers_congr h _ _
    · rfl

/-- A misspelt variable with an escape after a character of two bytes. -/
theorem misspelt_variable_ends_the_load :
    let env : Environment := [("TSDECL_WALK_MAX_DEPTH", "\"é\\n\"")]
    misspelt "TSDECL_WALK_MAX_DEPTH" = true ∧ load env ⟨["w"], []⟩ = .error .splitCharacter ∧
      load env.wellSpelt ⟨["w"], []⟩ = .ok default := by
  intro env
  refine ⟨by decide, by decide +kernel, by decide +kernel⟩

end DeclTree.Settings
