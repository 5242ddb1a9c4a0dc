import DeclTree.Proofs.Reading
import Mathlib.Data.List.Sort

/-!
# Operands of unions and intersections

A parser groups `A | B | C` to the left, to the right or in some other way, and comments stand
wherever they were written. A type of operands is read as one flat list, and that list is told
by the operands alone (`operands_do_not_depend_on_grouping`).

What the operands are is said by their places: an operand is of another kind, and every node
between it and the type is of the same kind as the type (`IsOperand`). Places in their own order
are the order of the source. So there is one list of operands for each tree
(`readsOperands_iff`), and no operand stands in another: what is in parentheses, or has the other
connective, is one operand.
-/

namespace DeclTree.Cst.Tree

variable {α : Type} {kind : String}

/-- `o` stands at a path below siblings as an operand of a type of a kind. -/
inductive IsOperand (kind : String) : List (Tree α) → Path → Tree α → Prop
  | here {siblings : List (Tree α)} {i : Nat} {o : Tree α} (found : siblings[i]? = some o)
      (main : o.isMain = true) (other : o.kind ≠ kind) : IsOperand kind siblings [i] o
  | inside {siblings : List (Tree α)} {i : Nat} {t o : Tree α} {rest : Path}
      (found : siblings[i]? = some t) (main : t.isMain = true) (same : t.kind = kind)
      (deeper : IsOperand kind t.children rest o) : IsOperand kind siblings (i :: rest) o

/-- These are all operands of a type, from left to right. -/
def ReadsOperands (t : Tree α) (operands : List (Tree α)) : Prop :=
  ∃ places : List (Path × Tree α),
    (∀ path o, (path, o) ∈ places ↔ IsOperand t.kind t.children path o) ∧
      places.Pairwise (·.1 < ·.1) ∧ places.map (·.2) = operands

mutual

/-- What a node adds to the operands of a type of a kind, with the paths from the node. -/
def operandsAt (kind : String) : Tree α → List (Path × Tree α)
  | .node attr info fields children =>
    if info.kind = kind then operandsIn kind 0 children else [([], .node attr info fields children)]

/-- The operands below siblings, of which the first stands at place `i`. -/
def operandsIn (kind : String) (i : Nat) : List (Tree α) → List (Path × Tree α)
  | [] => []
  | t :: rest =>
    (if t.isMain then (operandsAt kind t).map fun e => (i :: e.1, e.2) else []) ++
      operandsIn kind (i + 1) rest

end

/-- The operands of a type. -/
def operands (t : Tree α) : List (Tree α) := (operandsIn t.kind 0 t.children).map (·.2)

theorem isOperand_cons_iff {siblings : List (Tree α)} {i : Nat} {rest : Path} {o : Tree α} :
    IsOperand kind siblings (i :: rest) o ↔
      ∃ t, siblings[i]? = some t ∧ t.isMain = true ∧
        (t.kind ≠ kind ∧ rest = [] ∧ o = t ∨ t.kind = kind ∧ IsOperand kind t.children rest o) := by
  constructor
  · intro h
    cases h with
    | here found main other => exact ⟨o, found, main, .inl ⟨other, rfl, rfl⟩⟩
    | inside found main same deeper => exact ⟨_, found, main, .inr ⟨same, deeper⟩⟩
  · rintro ⟨t, found, main, ⟨other, rfl, rfl⟩ | ⟨same, deeper⟩⟩
    · exact .here found main other
    · exact .inside found main same deeper

theorem isOperand_later_iff {t : Tree α} {siblings : List (Tree α)} {i : Nat} {rest : Path}
    {o : Tree α} :
    IsOperand kind (t :: siblings) ((i + 1) :: rest) o ↔ IsOperand kind siblings (i :: rest) o := by
  rw [isOperand_cons_iff, isOperand_cons_iff, List.getElem?_cons_succ]

/-- Counted from place zero, an operand stands where it stands. -/
theorem exists_place_iff {siblings : List (Tree α)} {path : Path} {o : Tree α} :
    (∃ j rest, path = (0 + j) :: rest ∧ IsOperand kind siblings (j :: rest) o) ↔
      IsOperand kind siblings path o := by
  constructor
  · rintro ⟨j, rest, rfl, h⟩
    rwa [Nat.zero_add]
  · intro h
    cases path with
    | nil => cases h
    | cons j rest => exact ⟨j, rest, by rw [Nat.zero_add], h⟩

/-- No operand stands in an operand. -/
theorem IsOperand.not_inside {siblings : List (Tree α)} {path : Path} {o : Tree α}
    (h : IsOperand kind siblings path o) {more : Path} (hmore : more ≠ []) (o' : Tree α) :
    ¬ IsOperand kind siblings (path ++ more) o' := by
  induction h with
  | @here siblings i o found main other =>
    rw [List.singleton_append, isOperand_cons_iff]
    rintro ⟨t, hfound, -, ⟨-, hnil, -⟩ | ⟨same, -⟩⟩
    · exact hmore hnil
    · obtain rfl := Option.some.inj (found.symm.trans hfound)
      exact other same
  | @inside siblings i t o rest found main same deeper ih =>
    rw [List.cons_append, isOperand_cons_iff]
    rintro ⟨t', hfound, -, ⟨other, -, -⟩ | ⟨-, h⟩⟩
    · obtain rfl := Option.some.inj (found.symm.trans hfound)
      exact other same
    · obtain rfl := Option.some.inj (found.symm.trans hfound)
      exact ih h

mutual

theorem mem_operandsAt_iff (path : Path) (o : Tree α) : ∀ t : Tree α,
    (path, o) ∈ operandsAt kind t ↔
      t.kind ≠ kind ∧ path = [] ∧ o = t ∨ t.kind = kind ∧ IsOperand kind t.children path o
  | .node attr info fields siblings => by
    have hkind : (Tree.node attr info fields siblings).kind = info.kind := rfl
    have hchildren : (Tree.node attr info fields siblings).children = siblings := rfl
    rw [operandsAt, hkind, hchildren]
    by_cases hsame : info.kind = kind
    · rw [if_pos hsame, mem_operandsIn_iff 0 path o siblings, exists_place_iff]
      simp [hsame]
    · simp [hsame]

theorem mem_operandsIn_iff (i : Nat) (path : Path) (o : Tree α) : ∀ siblings : List (Tree α),
    (path, o) ∈ operandsIn kind i siblings ↔
      ∃ j rest, path = (i + j) :: rest ∧ IsOperand kind siblings (j :: rest) o
  | [] => by simp [operandsIn, isOperand_cons_iff]
  | t :: siblings => by
    rw [operandsIn, List.mem_append, mem_operandsIn_iff (i + 1) path o siblings]
    constructor
    · rintro (h | ⟨j, rest, rfl, h⟩)
      · split at h
        case isTrue hmain =>
          obtain ⟨⟨rest, o'⟩, he, heq⟩ := List.mem_map.mp h
          obtain ⟨rfl, rfl⟩ := Prod.mk.inj heq
          exact ⟨0, rest, rfl,
            isOperand_cons_iff.mpr ⟨t, rfl, hmain, (mem_operandsAt_iff rest o' t).mp he⟩⟩
        case isFalse => cases h
      · exact ⟨j + 1, rest, by rw [Nat.add_assoc, Nat.add_comm 1 j], isOperand_later_iff.mpr h⟩
    · rintro ⟨j, rest, rfl, h⟩
      cases j with
      | zero =>
        obtain ⟨t', hfound, hmain, h⟩ := isOperand_cons_iff.mp h
        obtain rfl := Option.some.inj hfound
        refine .inl ?_
        rw [if_pos hmain]
        exact List.mem_map.mpr ⟨(rest, o), (mem_operandsAt_iff rest o t).mpr h, rfl⟩
      | succ j =>
        exact .inr ⟨j, rest, by rw [Nat.add_assoc, Nat.add_comm 1 j], isOperand_later_iff.mp h⟩

end

mutual

/-- Operands are listed in the order of their places. -/
theorem pairwise_operandsAt : ∀ t : Tree α, (operandsAt kind t).Pairwise (·.1 < ·.1)
  | .node attr info fields siblings => by
    rw [operandsAt]
    by_cases hsame : info.kind = kind
    · rw [if_pos hsame]
      exact pairwise_operandsIn 0 siblings
    · rw [if_neg hsame]
      exact List.pairwise_singleton _ _

theorem pairwise_operandsIn (i : Nat) : ∀ siblings : List (Tree α),
    (operandsIn kind i siblings).Pairwise (·.1 < ·.1)
  | [] => List.Pairwise.nil
  | t :: siblings => by
    rw [operandsIn, List.pairwise_append]
    refine ⟨?_, pairwise_operandsIn (i + 1) siblings, ?_⟩
    · split
      case isTrue =>
        refine List.pairwise_map.mpr ((pairwise_operandsAt t).imp ?_)
        intro e e' h
        exact List.cons_lt_cons_iff.mpr (.inr ⟨rfl, h⟩)
      case isFalse => exact List.Pairwise.nil
    · rintro ⟨path, o⟩ he ⟨path', o'⟩ he'
      obtain ⟨j, rest, rfl, -⟩ := (mem_operandsIn_iff (i + 1) path' o' siblings).mp he'
      split at he
      case isTrue =>
        obtain ⟨e, -, heq⟩ := List.mem_map.mp he
        obtain ⟨rfl, -⟩ := Prod.mk.inj heq
        exact List.cons_lt_cons_iff.mpr (.inl (by omega))
      case isFalse => cases he

end

/-- A type has one list of operands. -/
theorem readsOperands_iff {t : Tree α} {found : List (Tree α)} :
    t.ReadsOperands found ↔ found = t.operands := by
  have hmem : ∀ path o, (path, o) ∈ operandsIn t.kind 0 t.children ↔
      IsOperand t.kind t.children path o :=
    fun path o => (mem_operandsIn_iff 0 path o t.children).trans exists_place_iff
  constructor
  · rintro ⟨places, hplaces, hsorted, rfl⟩
    have hirrefl : Std.Irrefl fun e e' : Path × Tree α => e.1 < e'.1 :=
      ⟨fun e => List.lt_irrefl e.1⟩
    have hantisymm : Std.Antisymm fun e e' : Path × Tree α => e.1 < e'.1 :=
      ⟨fun e e' h h' => absurd (List.lt_trans h h') (List.lt_irrefl e.1)⟩
    have hsame : places = operandsIn t.kind 0 t.children :=
      hsorted.eq_of_mem_iff (pairwise_operandsIn 0 t.children) fun e =>
        (hplaces e.1 e.2).trans (hmem e.1 e.2).symm
    rw [hsame, operands]
  · rintro rfl
    exact ⟨_, hmem, pairwise_operandsIn 0 t.children, rfl⟩

end DeclTree.Cst.Tree

namespace DeclTree.Lower

open Cst.Tree (IsOperand operandsAt operandsIn)

/-- Kinds of types with operands and the kinds of their nodes. -/
def connectives : List (String × String) :=
  [("union_type", "UnionType"), ("intersection_type", "IntersectionType")]

mutual

/-- What is merged for a node is its operands, each read as a type. -/
theorem operandsOf_read (kind : String) : ∀ t : Cst,
    operandsOf kind (read t) = (operandsAt kind t).map fun e => typeOf (read e.2)
  | .node attr info fields siblings => by
    have hread : read (.node attr info fields siblings) =
        .node (read (.node attr info fields siblings)).attr info fields (siblings.map read) := by
      have hsiblings : siblings.map read = Cst.Tree.annotateAll readings siblings :=
        (Cst.Tree.annotateAll_eq_map readings siblings).symm
      rw [hsiblings]
      rfl
    rw [hread, operandsOf, operandsAt]
    by_cases hsame : info.kind = kind
    · rw [if_pos (beq_iff_eq.mpr hsame), if_pos hsame]
      exact operandsAll_read kind 0 siblings
    · rw [if_neg (by simpa using hsame), if_neg hsame]
      rfl

theorem operandsAll_read (kind : String) (i : Nat) : ∀ siblings : List Cst,
    operandsAll kind (siblings.map read) =
      (operandsIn kind i siblings).map fun e => typeOf (read e.2)
  | [] => rfl
  | t :: siblings => by
    rw [List.map_cons, operandsAll, operandsIn, List.map_append, isMain_read,
      operandsOf_read kind t, operandsAll_read kind (i + 1) siblings]
    congr 1
    split
    case isTrue => rw [List.map_map]; rfl
    case isFalse => rfl

end

theorem connectives_form {kind shown : String} (h : (kind, shown) ∈ connectives) :
    Ordered.get? typeForms kind = some (.operands shown) := by
  simp only [connectives, List.mem_cons, List.not_mem_nil, or_false, Prod.mk.injEq] at h
  rcases h with ⟨rfl, rfl⟩ | ⟨rfl, rfl⟩ <;> rfl

/-- A type with operands is read as the flat list of them. -/
theorem typeOf_operands {t : Cst} {shown : String} (h : (t.kind, shown) ∈ connectives) :
    typeOf (read t) = ((Draft.new shown t.info).putItems "types"
      (t.operands.map fun o => typeOf (read o))).build := by
  have hoperands : operandsAll t.kind (t.children.map read) =
      t.operands.map fun o => typeOf (read o) := by
    rw [operandsAll_read t.kind 0, Cst.Tree.operands, List.map_map]
    rfl
  rw [typeOf, type_read]
  simp only [readType, head_kind_read, connectives_form h, head_info_read, head_children_read,
    hoperands]

/-- However a type is grouped, it is read as the list of its operands in the order of the source,
each read on its own. So types with the same operands have the same list, and nothing in an operand
is merged into it. -/
theorem operands_do_not_depend_on_grouping {kind shown : String}
    (h : (kind, shown) ∈ connectives) :
    (∀ t : Cst, t.kind = kind → ∃ operands, t.ReadsOperands operands) ∧
    (∀ (t : Cst) (operands : List Cst), t.kind = kind → t.ReadsOperands operands →
      typeOf (read t) = .object [("kind", .string shown), ("pos", .ofNat t.info.start),
        ("end", .ofNat t.info.stop), ("types", .array (operands.map fun o => typeOf (read o)))]) ∧
    (∀ (t u : Cst) (operands : List Cst), t.kind = kind → u.kind = kind →
      t.ReadsOperands operands → u.ReadsOperands operands →
      (typeOf (read t)).get? "types" = (typeOf (read u)).get? "types") ∧
    ∀ (t : Cst) (path : Cst.Path) (o : Cst), t.kind = kind → IsOperand kind t.children path o →
      ∀ more, more ≠ [] → ∀ o', ¬ IsOperand kind t.children (path ++ more) o' := by
  have hlist : ∀ (t : Cst) (operands : List Cst), t.kind = kind → t.ReadsOperands operands →
      typeOf (read t) = .object [("kind", .string shown), ("pos", .ofNat t.info.start),
        ("end", .ofNat t.info.stop),
        ("types", .array (operands.map fun o => typeOf (read o)))] := by
    rintro t operands rfl hreads
    obtain rfl := Cst.Tree.readsOperands_iff.mp hreads
    exact typeOf_operands h
  refine ⟨fun t _ => ⟨_, Cst.Tree.readsOperands_iff.mpr rfl⟩, hlist, ?_, ?_⟩
  · intro t u operands ht hu htreads hureads
    rw [hlist t operands ht htreads, hlist u operands hu hureads]
    rfl
  · intro t path o _ ho more hmore o'
    exact ho.not_inside hmore o'

/-- The text `A|(B|C)/**/|D`, grouped to the left and to the right, with the comment in the inner
union and in the outer one. -/
theorem operands_do_not_depend_on_grouping_nested :
    let word (kind : String) (named : Bool) (start : Nat) (text : String) : Cst :=
      .node () ⟨kind, named, start, start + text.length, text⟩ [] []
    let name (start : Nat) (text : String) : Cst := word "type_identifier" true start text
    let bar (start : Nat) : Cst := word "|" false start "|"
    let union (start stop : Nat) (text : String) (children : List Cst) : Cst :=
      .node () ⟨"union_type", true, start, stop, text⟩ [] children
    let enclosed : Cst := .node () ⟨"parenthesized_type", true, 2, 7, "(B|C)"⟩ []
      [word "(" false 2 "(", union 3 6 "B|C" [name 3 "B", bar 4, name 5 "C"], word ")" false 6 ")"]
    let comment : Cst := word "comment" true 7 "/**/"
    let left := union 0 13 "A|(B|C)/**/|D"
      [union 0 11 "A|(B|C)/**/" [name 0 "A", bar 1, enclosed, comment], bar 11, name 12 "D"]
    let right := union 0 13 "A|(B|C)/**/|D"
      [name 0 "A", bar 1, union 2 13 "(B|C)/**/|D" [enclosed, comment, bar 11, name 12 "D"]]
    ("union_type", "UnionType") ∈ connectives ∧ left.kind = "union_type" ∧
      right.kind = "union_type" ∧ left.ReadsOperands [name 0 "A", enclosed, name 12 "D"] ∧
      right.ReadsOperands [name 0 "A", enclosed, name 12 "D"] ∧
      (typeOf (read left)).get? "types" = (typeOf (read right)).get? "types" ∧
      IsOperand "union_type" left.children [0, 2] enclosed ∧
      ¬ IsOperand "union_type" left.children [0, 2, 1, 0] (name 3 "B") := by
  intro word name bar union enclosed comment left right
  have hleft : left.ReadsOperands [name 0 "A", enclosed, name 12 "D"] :=
    Cst.Tree.readsOperands_iff.mpr rfl
  have hright : right.ReadsOperands [name 0 "A", enclosed, name 12 "D"] :=
    Cst.Tree.readsOperands_iff.mpr rfl
  have henclosed : IsOperand "union_type" left.children [0, 2] enclosed :=
    .inside rfl rfl rfl (.here rfl rfl (by decide))
  have hconnective : ("union_type", "UnionType") ∈ connectives := by decide
  obtain ⟨-, -, hsame, hapart⟩ := operands_do_not_depend_on_grouping hconnective
  exact ⟨hconnective, rfl, rfl, hleft, hright, hsame left right _ rfl rfl hleft hright, henclosed,
    hapart left [0, 2] enclosed rfl henclosed [1, 0] (by decide) _⟩

end DeclTree.Lower
