import DeclTree.Cst

/-!
# Descendants of a concrete tree

A tree is within another when it is that tree or one of its descendants, and below it when it
is a descendant. Whatever a node hands out is below it: its children, the descendants that its
fields name, and the children that are found by their kind or by being neither tokens nor
comments.
-/

namespace DeclTree.Cst

variable {α : Type}

namespace Tree

/-- The tree itself or one of its descendants. -/
inductive Within (u : Tree α) : Tree α → Prop
  | root : Within u u
  | deeper {c t : Tree α} (child : c ∈ t.children) (inside : Within u c) : Within u t

theorem Within.trans {u v t : Tree α} (huv : u.Within v) (hvt : v.Within t) : u.Within t := by
  induction hvt with
  | root => exact huv
  | deeper hc _ ih => exact .deeper hc ih

/-- A descendant, the tree itself left out. -/
def Below (u t : Tree α) : Prop := ∃ c ∈ t.children, u.Within c

theorem Below.within {u t : Tree α} (h : u.Below t) : u.Within t := by
  obtain ⟨c, hc, hu⟩ := h
  exact .deeper hc hu

theorem Below.trans_within {u v t : Tree α} (huv : u.Below v) (hvt : v.Within t) :
    u.Below t := by
  cases hvt with
  | root => exact huv
  | deeper hc hv => exact ⟨_, hc, huv.within.trans hv⟩

theorem below_of_mem_children {c t : Tree α} (h : c ∈ t.children) : c.Below t := ⟨c, h, .root⟩

/-- What holds of a node and of all its descendants. -/
theorem forall_within_node_iff {P : Tree α → Prop} {a : α} {i : Info}
    {fields : List (String × Path)} {children : List (Tree α)} :
    (∀ u : Tree α, u.Within (.node a i fields children) → P u) ↔
      P (.node a i fields children) ∧ ∀ c ∈ children, ∀ u : Tree α, u.Within c → P u := by
  constructor
  · intro h
    exact ⟨h _ .root, fun c hc u hu => h u (.deeper hc hu)⟩
  · rintro ⟨hroot, hbelow⟩ u hu
    cases hu with
    | root => exact hroot
    | deeper hc hu => exact hbelow _ hc _ hu

theorem exists_within_of_at? {siblings : List (Tree α)} {path : Path} {u : Tree α}
    (h : at? siblings path = some u) : ∃ c ∈ siblings, u.Within c := by
  induction path generalizing siblings with
  | nil => cases h
  | cons i rest ih =>
    cases rest with
    | nil => exact ⟨u, List.mem_of_getElem? h, .root⟩
    | cons j rest =>
      obtain ⟨c, hc, hu⟩ := Option.bind_eq_some_iff.mp h
      obtain ⟨d, hd, hud⟩ := ih hu
      exact ⟨c, List.mem_of_getElem? hc, .deeper hd hud⟩

end Tree

namespace Head

open Cst.Tree

variable {t u : Tree α} {name kind : String}

theorem below_of_field? (h : t.head.field? name = some u) : u.Below t := by
  obtain ⟨path, _, hpath⟩ := Option.bind_eq_some_iff.mp h
  exact exists_within_of_at? hpath

theorem below_of_mem_main (h : u ∈ t.head.main) : u.Below t :=
  below_of_mem_children (List.mem_filter.mp h).1

theorem below_of_firstMain? (h : t.head.firstMain? = some u) : u.Below t :=
  below_of_mem_main (List.mem_of_mem_head? h)

theorem below_of_childOfKind? (h : t.head.childOfKind? kind = some u) : u.Below t :=
  below_of_mem_children (List.mem_of_find?_eq_some h)

theorem below_of_fieldOrChild? (h : t.head.fieldOrChild? name kind = some u) : u.Below t := by
  rcases Option.or_eq_some_iff.mp h with hfield | ⟨_, hchild⟩
  · exact below_of_field? hfield
  · exact below_of_childOfKind? hchild

end Head

end DeclTree.Cst
