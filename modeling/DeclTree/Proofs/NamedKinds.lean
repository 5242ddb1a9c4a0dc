import Mathlib.Data.List.Basic
import DeclTree.Proofs.Occurrences
import DeclTree.Proofs.SymbolicKinds

/-!
# Trees without kind numbers

A kind table is only asked for the name of a number. So where no object has a number for a
kind (`Json.Named`), every table gives the same normal node (`Normal.normalize_of_named`) and
the same walk, its events included (`Walker.walk_of_named`).
-/

namespace DeclTree

namespace Json

theorem occurs_of_mem_units {v u : Json} (h : u ∈ v.units) : u.Occurs v := by
  rw [units] at h
  cases hs : v.statements? with
  | none =>
    rw [hs, Option.getD_none, List.mem_singleton] at h
    exact h ▸ .root
  | some statements =>
    rw [hs, Option.getD_some] at h
    exact occurs_of_mem_sequence? _ hs h

/-- No object that occurs has a number for its kind. -/
def Named (v : Json) : Prop := ∀ u : Json, u.Occurs v → ∀ n, u.get? "kind" ≠ some (.number n)

theorem Named.of_occurs {u v : Json} (h : v.Named) (hu : u.Occurs v) : u.Named :=
  fun w hw => h w (hw.trans hu)

mutual

theorem symbolic_of_named (kinds : KindTable) : ∀ v : Json, v.Named → v.symbolic kinds = v
  | .null, _ | .bool _, _ | .number _, _ | .string _, _ => rfl
  | .array items, h => by
    rw [symbolic, symbolicAll_of_named kinds items fun v hv => h.of_occurs (.item hv .root)]
  | .object fields, h => by
    have hfields := symbolicFields_of_named kinds fields
      fun e he => h.of_occurs (.field he .root)
    rw [symbolic, hfields, nameKind_of_ne (h _ .root)]

theorem symbolicAll_of_named (kinds : KindTable) :
    ∀ items : List Json, (∀ v ∈ items, v.Named) → symbolicAll kinds items = items
  | [], _ => rfl
  | v :: rest, h => by
    obtain ⟨hv, hrest⟩ := List.forall_mem_cons.mp h
    rw [symbolicAll, symbolic_of_named kinds v hv, symbolicAll_of_named kinds rest hrest]

theorem symbolicFields_of_named (kinds : KindTable) :
    ∀ fields : List (String × Json), (∀ e ∈ fields, e.2.Named) →
      symbolicFields kinds fields = fields
  | [], _ => rfl
  | (key, v) :: rest, h => by
    obtain ⟨hv, hrest⟩ := List.forall_mem_cons.mp h
    rw [symbolicFields, symbolic_of_named kinds v hv, symbolicFields_of_named kinds rest hrest]

end

end Json

variable {v : Json}

theorem KindTable.classify_of_named (h : v.Named) (kinds other : KindTable) :
    other.classify v.kind? = kinds.classify v.kind? := by
  cases hk : v.kind? with
  | none => rfl
  | some k =>
    cases k with
    | number n => exact absurd (Option.filter_eq_some_iff.mp hk).1 (h v .root n)
    | _ => rfl

theorem KindTable.kindName?_of_named (h : v.Named) (kinds other : KindTable) :
    (v.kind?).bind other.kindName? = (v.kind?).bind kinds.kindName? := by
  have hsymbolic := kindName?_symbolic kinds other v
  rwa [Json.symbolic_of_named kinds v h] at hsymbolic

theorem Normal.normalize_of_named (h : v.Named) (kinds other : KindTable) :
    normalize other v = normalize kinds v := by
  have hsymbolic := normalize_symbolic kinds other v
  rwa [Json.symbolic_of_named kinds v h] at hsymbolic

namespace Walker

variable {kinds other : KindTable} {print : Printer} {options : WalkOptions}

theorem resolve_of_named (h : v.Named) :
    resolve ⟨other, print, options⟩ v = resolve ⟨kinds, print, options⟩ v := by
  have hsymbolic := (unnoticed_symbolic kinds other print options).resolve v
  rwa [Json.symbolic_of_named kinds v h] at hsymbolic

/-- Two ways to fill a context that agree on bodies without kind numbers. -/
def SameDescent (descend descend' : Descent) : Prop :=
  ∀ body : Json, body.Named → descend' body = descend body

theorem descendBody_of_named {descend descend' : Descent} (hd : SameDescent descend descend')
    (h : v.Named) (depth : Nat) (p : Pass) :
    descendBody descend' v depth p = descendBody descend v depth p := by
  rw [descendBody, descendBody]
  cases hbody : v.field? "body" with
  | none => rfl
  | some body => simp only [hd body (h.of_occurs (Json.occurs_of_field? hbody))]

theorem collectWith_of_named {descend descend' : Descent} (hd : SameDescent descend descend')
    (h : v.Named) (depth : Nat) (p : Pass) :
    collectWith ⟨other, print, options⟩ descend' v depth p =
      collectWith ⟨kinds, print, options⟩ descend v depth p := by
  have hclass : Statement.classify other options.namespaceFlags v =
      Statement.classify kinds options.namespaceFlags v := by
    rw [Statement.classify, Statement.classify, KindTable.classify_of_named h kinds other]
  have hname : resolve ⟨other, print, options⟩ v = resolve ⟨kinds, print, options⟩ v :=
    resolve_of_named h
  have hleaf : ∀ kind name, Leaf.ofNode other kind name v = Leaf.ofNode kinds kind name v := by
    intro kind name
    rw [Leaf.ofNode, Leaf.ofNode, KindTable.kindName?_of_named h kinds other]
  rw [collectWith, collectWith, hclass]
  cases Statement.classify kinds options.namespaceFlags v <;>
    simp only [collectNamespace, openNamespace, collectModule, openModule, collectLeaf,
      Leaf.property, hname, hleaf, descendBody_of_named hd h]

theorem traverseWithin_of_named (room : Nat) :
    SameDescent (traverseWithin ⟨kinds, print, options⟩ room)
      (traverseWithin ⟨other, print, options⟩ room) := by
  induction room with
  | zero => exact fun body _ => rfl
  | succ room ih =>
    intro body h
    funext depth p
    rw [traverseWithin_succ, traverseWithin_succ]
    refine List.foldl_ext _ _ p fun p u hu => ?_
    exact collectWith_of_named ih (h.of_occurs (Json.occurs_of_mem_units hu)) depth p

/-- A program without kind numbers is walked alike with every kind table. -/
theorem walk_of_named (h : v.Named) (s : State) :
    walk ⟨other, print, options⟩ v s = walk ⟨kinds, print, options⟩ v s := by
  have htraverse : traverseWithin ⟨other, print, options⟩ (options.maxDepth + 1) v =
      traverseWithin ⟨kinds, print, options⟩ (options.maxDepth + 1) v :=
    traverseWithin_of_named (options.maxDepth + 1) v h
  rw [walk, walk, traverse, traverse, Nat.sub_zero, htraverse]

end Walker

end DeclTree
