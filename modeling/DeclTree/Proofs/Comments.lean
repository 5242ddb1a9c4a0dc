import DeclTree.Proofs.Descendants
import DeclTree.Proofs.Reading
import DeclTree.Proofs.Writes

/-!
# Concrete trees without their comments

`uncommented` takes every comment below the root out of a tree. Kinds, texts and ranges stay,
and a field leads to the same descendant by a path that counts no comments; one that led to a
comment or into one leads nowhere. `FieldsClear` says that there is no such field.

Then what a node hands out is what it handed out before, without comments
(`field?_uncommented`, `main_uncommented`, `childOfKind?_uncommented`).
-/

namespace DeclTree.Cst

variable {α : Type}

namespace Tree

def isComment (t : Tree α) : Bool := t.kind == "comment"

/-- The same way down when comments are not counted. A step to a comment leads past the end. -/
def pathUncommented : List (Tree α) → Path → Path
  | _, [] => []
  | siblings, i :: rest =>
    match siblings[i]? with
    | some t =>
      if t.isComment then siblings.length :: rest
      else (siblings.take i).countP (!·.isComment) :: pathUncommented t.children rest
    | none => siblings.length :: rest

mutual

/-- The tree without the comments below its root. -/
def uncommented : Tree α → Tree α
  | .node attr info fields children =>
    .node attr info (Ordered.mapValues (pathUncommented children) fields)
      (uncommentedAll children)

/-- The trees that are no comments, without the comments in them. -/
def uncommentedAll : List (Tree α) → List (Tree α)
  | [] => []
  | t :: rest =>
    if t.isComment then uncommentedAll rest else uncommented t :: uncommentedAll rest

end

/-- The nodes on the way to a descendant, the last one included. -/
def along : List (Tree α) → Path → List (Tree α)
  | _, [] => []
  | siblings, i :: rest =>
    match siblings[i]? with
    | some t => t :: along t.children rest
    | none => []

/-- No field, here or below, leads to a comment or into one. -/
def FieldsClear (t : Tree α) : Prop :=
  ∀ u : Tree α, u.Within t → ∀ name path, Ordered.get? u.head.fields name = some path →
    ∀ c ∈ along u.children path, c.isComment = false

theorem FieldsClear.within {t u : Tree α} (h : t.FieldsClear) (hu : u.Within t) :
    u.FieldsClear := fun v hv => h v (hv.trans hu)

theorem FieldsClear.below {t u : Tree α} (h : t.FieldsClear) (hu : u.Below t) : u.FieldsClear :=
  h.within hu.within

theorem uncommentedAll_eq (ts : List (Tree α)) :
    uncommentedAll ts = (ts.filter (!·.isComment)).map uncommented := by
  induction ts with
  | nil => rfl
  | cons t rest ih =>
    rw [uncommentedAll, ih]
    cases h : t.isComment <;> simp [h]

@[simp] theorem attr_uncommented (t : Tree α) : t.uncommented.attr = t.attr := by
  cases t
  rfl

@[simp] theorem info_uncommented (t : Tree α) : t.uncommented.info = t.info := by
  cases t
  rfl

@[simp] theorem head_info_uncommented (t : Tree α) : t.uncommented.head.info = t.head.info :=
  info_uncommented t

@[simp] theorem kind_uncommented (t : Tree α) : t.uncommented.kind = t.kind :=
  congrArg Info.kind (info_uncommented t)

@[simp] theorem head_kind_uncommented (t : Tree α) : t.uncommented.head.kind = t.head.kind :=
  kind_uncommented t

@[simp] theorem text_uncommented (t : Tree α) : t.uncommented.text = t.text :=
  congrArg Info.text (info_uncommented t)

@[simp] theorem head_text_uncommented (t : Tree α) : t.uncommented.head.text = t.head.text :=
  text_uncommented t

theorem children_uncommented (t : Tree α) :
    t.uncommented.children = (t.children.filter (!·.isComment)).map uncommented := by
  cases t
  exact uncommentedAll_eq _

theorem head_children_uncommented (t : Tree α) :
    t.uncommented.head.children = (t.head.children.filter (!·.isComment)).map uncommented :=
  children_uncommented t

theorem uncommentedAll_children (t : Tree α) :
    uncommentedAll t.children = t.uncommented.children := by
  cases t
  rfl

theorem head_fields_uncommented (t : Tree α) :
    t.uncommented.head.fields =
      Ordered.mapValues (pathUncommented t.children) t.head.fields := by
  cases t
  rfl

theorem isMain_uncommented (t : Tree α) : t.uncommented.isMain = t.isMain := by
  rw [isMain, isMain, info_uncommented, kind_uncommented]

theorem isToken_uncommented (t : Tree α) (kind : String) :
    t.uncommented.isToken kind = t.isToken kind := by
  rw [isToken, isToken, info_uncommented, kind_uncommented]

/-- A child that stays is found after those that stay before it. -/
theorem getElem?_uncommentedAll {siblings : List (Tree α)} {i : Nat} {t : Tree α}
    (h : siblings[i]? = some t) (hstays : t.isComment = false) :
    (uncommentedAll siblings)[(siblings.take i).countP (!·.isComment)]? = some t.uncommented := by
  induction siblings generalizing i with
  | nil => cases h
  | cons s rest ih =>
    cases i with
    | zero =>
      obtain rfl : s = t := Option.some.inj h
      simp [uncommentedAll, hstays]
    | succ i =>
      have hrest := ih h
      cases hs : s.isComment <;> simpa [uncommentedAll, hs] using hrest

theorem length_uncommentedAll_le (ts : List (Tree α)) :
    (uncommentedAll ts).length ≤ ts.length := by
  rw [uncommentedAll_eq, List.length_map]
  exact List.length_filter_le _ _

theorem at?_past_end (siblings : List (Tree α)) {i : Nat} (h : siblings.length ≤ i) (rest : Path) :
    at? siblings (i :: rest) = none := by
  cases rest <;> simp [at?, List.getElem?_eq_none h]

theorem pathUncommented_cons (siblings : List (Tree α)) (i : Nat) (rest : Path) :
    ∃ j more, pathUncommented siblings (i :: rest) = j :: more := by
  rw [pathUncommented]
  cases siblings[i]? with
  | none => exact ⟨_, _, rfl⟩
  | some t => cases h : t.isComment <;> simp [h]

/-- Along a path without comments the new path leads to the same descendant. -/
theorem at?_uncommentedAll {siblings : List (Tree α)} {path : Path}
    (h : ∀ c ∈ along siblings path, c.isComment = false) :
    at? (uncommentedAll siblings) (pathUncommented siblings path) =
      (at? siblings path).map uncommented := by
  induction path generalizing siblings with
  | nil => rfl
  | cons i rest ih =>
    rw [pathUncommented]
    cases hi : siblings[i]? with
    | none =>
      have hend : siblings.length ≤ i := List.getElem?_eq_none_iff.mp hi
      rw [at?_past_end siblings hend, at?_past_end _ (length_uncommentedAll_le siblings)]
      rfl
    | some t =>
      simp only [along, hi, List.mem_cons, forall_eq_or_imp] at h
      obtain ⟨ht, hrest⟩ := h
      have hstep := getElem?_uncommentedAll hi ht
      simp only [ht, Bool.false_eq_true, if_false]
      cases rest with
      | nil => simp only [pathUncommented, at?, hstep, hi, Option.map_some]
      | cons j rest =>
        have hbelow := ih hrest
        obtain ⟨k, more, hpath⟩ := pathUncommented_cons t.children j rest
        rw [hpath, uncommentedAll_children] at hbelow
        rw [hpath]
        simp only [at?, hstep, hi, Option.bind_some]
        exact hbelow

end Tree

namespace Head

open Cst.Tree

variable {t : Tree α} (name kind : String)

theorem field?_uncommented (h : t.FieldsClear) :
    t.uncommented.head.field? name = (t.head.field? name).map uncommented := by
  rw [field?, field?, head_fields_uncommented, Ordered.get?_mapValues]
  cases hpath : Ordered.get? t.head.fields name with
  | none => rfl
  | some path =>
    have hclear := h t .root name path hpath
    have hat := at?_uncommentedAll hclear
    rw [uncommentedAll_children] at hat
    exact hat

@[simp] theorem main_uncommented (t : Tree α) :
    t.uncommented.head.main = t.head.main.map uncommented := by
  have hmain : Tree.isMain ∘ uncommented = (Tree.isMain : Tree α → Bool) :=
    funext isMain_uncommented
  have hstays : ∀ c : Tree α, (c.isMain && !c.isComment) = c.isMain := by
    intro c
    simp only [Tree.isMain, isComment, bne, Bool.and_assoc, Bool.and_self]
  rw [main, main, head_children_uncommented, List.filter_map, hmain, List.filter_filter]
  simp only [hstays]

@[simp] theorem firstMain?_uncommented (t : Tree α) :
    t.uncommented.head.firstMain? = (t.head.firstMain?).map uncommented := by
  rw [firstMain?, main_uncommented, List.head?_map]
  rfl

/-- Children of a kind are looked for among those that are no comments. -/
@[simp] theorem childOfKind?_uncommented (t : Tree α) (h : kind ≠ "comment") :
    t.uncommented.head.childOfKind? kind = (t.head.childOfKind? kind).map uncommented := by
  have hstays : ∀ c : Tree α, (!c.isComment && c.kind == kind) = (c.kind == kind) := by
    intro c
    cases hc : c.kind == kind with
    | false => exact Bool.and_false _
    | true => simp [isComment, beq_iff_eq.mp hc, h]
  rw [childOfKind?, childOfKind?, head_children_uncommented, List.find?_map, List.find?_filter]
  simp only [Function.comp_def, kind_uncommented, ← Bool.and_eq_true, Bool.decide_eq_true, hstays]

theorem fieldOrChild?_uncommented (ht : t.FieldsClear) (h : kind ≠ "comment") :
    t.uncommented.head.fieldOrChild? name kind =
      (t.head.fieldOrChild? name kind).map uncommented := by
  rw [fieldOrChild?, fieldOrChild?, field?_uncommented name ht, childOfKind?_uncommented kind t h]
  cases t.head.field? name <;> rfl

@[simp] theorem hasToken_uncommented (t : Tree α) (h : kind ≠ "comment") :
    t.uncommented.head.hasToken kind = t.head.hasToken kind := by
  have hstays : ∀ c : Tree α, (!c.isComment && c.isToken kind) = c.isToken kind := by
    intro c
    cases hc : c.kind == kind with
    | false => simp [isToken, hc]
    | true => simp [isToken, isComment, beq_iff_eq.mp hc, h]
  rw [hasToken, hasToken, head_children_uncommented, List.any_map, List.any_filter]
  simp only [Function.comp_def, isToken_uncommented, hstays]

end Head

end DeclTree.Cst
