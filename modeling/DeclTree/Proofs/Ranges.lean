import DeclTree.Proofs.LoweredShape

/-!
# Ranges of lowered nodes

In a concrete tree whose nodes lie within their parents (`Cst.Tree.Ranged`), the ranges of a
lowered program nest as its objects do, with one exception. A class that extends a type with
arguments gets a node that stands at the expression alone, and the arguments lie behind it
(`ranges_nest`). The range of an object comes from the tree that it is placed in, so it is
enough that everything inside is placed in the same tree.
-/

namespace DeclTree

namespace Cst.Tree

variable {α : Type} {u d : Tree α}

/-- Every node of a tree has its start before its stop and its children inside its range. -/
def Ranged (t : Tree α) : Prop :=
  ∀ u : Tree α, u.Within t → u.info.start ≤ u.info.stop ∧
    ∀ c ∈ u.children, u.info.start ≤ c.info.start ∧ c.info.stop ≤ u.info.stop

theorem Ranged.of_within (h : u.Ranged) (hd : d.Within u) : d.Ranged :=
  fun w hw => h w (hw.trans hd)

/-- A descendant lies in the range of the tree. -/
theorem Ranged.bounds (h : u.Ranged) (hd : d.Within u) :
    u.info.start ≤ d.info.start ∧ d.info.stop ≤ u.info.stop := by
  induction hd with
  | root => exact ⟨Nat.le_refl _, Nat.le_refl _⟩
  | deeper child _ ih =>
    have hchild := (h _ .root).2 _ child
    have hdeeper := ih (h.of_within (.deeper child .root))
    omega

end Cst.Tree

/-- The positions that an object carries. -/
def Json.HasRange (v : Json) (start stop : Nat) : Prop :=
  v.get? "pos" = some (.ofNat start) ∧ v.get? "end" = some (.ofNat stop)

/-- What lies inside, if both values have a range. -/
def Json.Encloses (outer inner : Json) : Prop :=
  ∀ a b c d, outer.HasRange a b → inner.HasRange c d → a ≤ c ∧ d ≤ b

theorem Json.HasRange.unique {v : Json} {a b c d : Nat} (h : v.HasRange a b)
    (h' : v.HasRange c d) : a = c ∧ b = d := by
  have hpos := h.1.symm.trans h'.1
  have hend := h.2.symm.trans h'.2
  simp only [Json.ofNat, Option.some.injEq, Json.number.injEq, Number.int.injEq,
    Int.natCast_inj] at hpos hend
  exact ⟨hpos, hend⟩

theorem Json.Encloses.refl (v : Json) : v.Encloses v := by
  intro a b c d h h'
  obtain ⟨rfl, rfl⟩ := h.unique h'
  exact ⟨Nat.le_refl a, Nat.le_refl b⟩

namespace Lower

open Cst Cst.Tree

variable {α : Type} {u d : Cst.Tree α}

/-- An object that starts with a kind and the range of a tree has that range. -/
theorem hasRange_of_place (kind : String) (d : Cst.Tree α) (rest : List (String × Json)) :
    Json.HasRange (.object (("kind", .string kind) :: ("pos", .ofNat d.info.start) ::
      ("end", .ofNat d.info.stop) :: rest)) d.info.start d.info.stop :=
  ⟨rfl, rfl⟩

/-- A placed object has a range inside that of the tree. -/
theorem Placed.bounds (hu : u.Ranged) {v : Json} (h : Placed u v) {a b : Nat}
    (hv : v.HasRange a b) : u.info.start ≤ a ∧ b ≤ u.info.stop := by
  cases v with
  | object fields =>
    rcases h.object_cases with ⟨kind, rfl⟩ | ⟨kind, d, rest, hd, rfl⟩
    · cases hv.1
    · obtain ⟨rfl, rfl⟩ := hv.unique (hasRange_of_place kind d rest)
      exact hu.bounds hd
  | _ => cases hv.1

/-- A node with the range of a tree encloses what occurs in a value placed in that tree. -/
theorem encloses_of_placed (hd : d.Ranged) {outer v inner : Json}
    (houter : outer.HasRange d.info.start d.info.stop) (hv : Placed d v) (hi : inner.Occurs v) :
    outer.Encloses inner := by
  intro a b c e hab hce
  obtain ⟨rfl, rfl⟩ := hab.unique houter
  exact (hv.of_occurs hi).bounds hd hce

/-- An extended type with its arguments, and a value in these. -/
def InArguments (outer inner : Json) : Prop :=
  outer.get? "kind" = some (.string "ExpressionWithTypeArguments") ∧
    ∃ arguments, outer.get? "typeArguments" = some arguments ∧ inner.Occurs arguments

/-- A placed object encloses what occurs in it, but for the arguments of an extended type. -/
theorem Placed.encloses (hu : u.Ranged) {outer inner : Json} (h : Placed u outer)
    (hi : inner.Occurs outer) :
    outer.Encloses inner ∨ ArgumentsApart u ∧ InArguments outer inner := by
  cases h with
  | node within kind inside =>
    have hd := hu.of_within within
    exact .inl (encloses_of_placed hd (hasRange_of_place kind _ _) (.node .root kind inside) hi)
  | @extended d _ within apart expression arguments inside beside =>
    have hd := hu.of_within within
    have hrange := hasRange_of_place "ExpressionWithTypeArguments" d
      [("expression", expression), ("typeArguments", .array arguments)]
    cases hi with
    | root => exact .inl (.refl _)
    | field mem hi =>
      simp only [List.mem_cons, Prod.mk.injEq, List.not_mem_nil, or_false] at mem
      rcases mem with ⟨_, rfl⟩ | ⟨_, rfl⟩ | ⟨_, rfl⟩ | ⟨_, rfl⟩ | ⟨_, rfl⟩
      · exact .inl (encloses_of_placed hd hrange (.text _) hi)
      · exact .inl (encloses_of_placed hd hrange (.number _) hi)
      · exact .inl (encloses_of_placed hd hrange (.number _) hi)
      · exact .inl (encloses_of_placed hd hrange inside hi)
      · exact .inr ⟨apart, rfl, _, rfl, hi⟩
  | _ =>
    refine .inl fun a b c d hab => ?_
    cases hab.1

/-- In a lowered program every object encloses what occurs in it, at any depth, unless it is
the type that a class extends and what occurs is among its type arguments. -/
theorem ranges_nest (t : Cst) (ht : t.Ranged) (language : Language) (fileName : Option String) :
    ∀ outer inner : Json, outer.Occurs (program t language fileName).node →
      inner.Occurs outer →
      outer.Encloses inner ∨ ArgumentsApart t ∧ InArguments outer inner :=
  fun _ _ houter hinner =>
    ((placed_program t language fileName).of_occurs houter).encloses ht hinner

/-- `class A extends B<C> {}` as a parser gives it. -/
def genericHeritage : Cst :=
  let leaf (kind text : String) (named : Bool) (start stop : Nat) : Cst :=
    .node () ⟨kind, named, start, stop, text⟩ [] []
  .node () ⟨"program", true, 0, 23, "class A extends B<C> \x7b\x7d"⟩ []
    [.node () ⟨"class_declaration", true, 0, 23, "class A extends B<C> \x7b\x7d"⟩
      [("name", [1]), ("body", [3])]
      [leaf "class" "class" false 0 5, leaf "type_identifier" "A" true 6 7,
        .node () ⟨"class_heritage", true, 8, 20, "extends B<C>"⟩ []
          [.node () ⟨"extends_clause", true, 8, 20, "extends B<C>"⟩
            [("value", [1]), ("type_arguments", [2])]
            [leaf "extends" "extends" false 8 15, leaf "identifier" "B" true 16 17,
              .node () ⟨"type_arguments", true, 17, 20, "<C>"⟩ []
                [leaf "<" "<" false 17 18, leaf "type_identifier" "C" true 18 19,
                  leaf ">" ">" false 19 20]]],
        .node () ⟨"class_body", true, 21, 23, "\x7b\x7d"⟩ []
          [leaf "\x7b" "\x7b" false 21 22, leaf "\x7d" "\x7d" false 22 23]]]

/-- A node at a range, as `genericHeritage` has it lowered. -/
def nodeAt (kind : String) (start stop : Nat) (fields : List (String × Json)) : Json :=
  .object (("kind", .string kind) :: ("pos", .ofNat start) :: ("end", .ofNat stop) :: fields)

def identifierAt (text : String) (start : Nat) : Json :=
  nodeAt "Identifier" start (start + 1) [("text", .string text)]

def argumentC : Json := nodeAt "TypeReference" 18 19 [("typeName", identifierAt "C" 18)]

def extendedB : Json :=
  nodeAt "ExpressionWithTypeArguments" 16 17
    [("expression", identifierAt "B" 16), ("typeArguments", .array [argumentC])]

def extendsClause : Json :=
  nodeAt "HeritageClause" 8 20 [("token", .string "ExtendsKeyword"), ("types", .array [extendedB])]

def classA : Json :=
  nodeAt "ClassDeclaration" 0 23 [("name", identifierAt "A" 6),
    ("heritageClauses", .array [extendsClause]), ("members", .array [])]

theorem program_genericHeritage : (program genericHeritage .typeScript none).node =
    nodeAt "SourceFile" 0 23 [("statements", .array [classA])] :=
  rfl

theorem extendsClause_occurs :
    extendsClause.Occurs (program genericHeritage .typeScript none).node := by
  rw [program_genericHeritage]
  have hclass : extendsClause.Occurs classA :=
    Json.occurs_of_mem_sequence? "heritageClauses" rfl List.mem_cons_self
  exact hclass.trans (Json.occurs_of_mem_sequence? "statements" rfl List.mem_cons_self)

theorem extendedB_occurs : extendedB.Occurs extendsClause :=
  Json.occurs_of_mem_sequence? "types" rfl List.mem_cons_self

theorem argumentC_occurs : argumentC.Occurs extendedB :=
  Json.occurs_of_mem_sequence? "typeArguments" rfl List.mem_cons_self

theorem ranged_genericHeritage : genericHeritage.Ranged := by
  simp [genericHeritage, Ranged, forall_within_node_iff, info, head, children]

/-- In `class A extends B<C> {}` the clause encloses the argument `C`. -/
theorem ranges_nest_clause : genericHeritage.Ranged ∧ extendsClause.Encloses argumentC := by
  refine ⟨ranged_genericHeritage, ?_⟩
  rcases ranges_nest genericHeritage ranged_genericHeritage .typeScript none extendsClause argumentC
    extendsClause_occurs (argumentC_occurs.trans extendedB_occurs) with henclosed | ⟨_, hkind, _⟩
  · exact henclosed
  · have hsame : "HeritageClause" = "ExpressionWithTypeArguments" :=
      Json.string.inj (Option.some.inj hkind)
    exact absurd hsame (by decide)

/-- In `class A extends B<C> {}` the type that `A` extends does not enclose its argument `C`,
although every node of the concrete tree lies within its parent. -/
theorem argument_stands_outside :
    genericHeritage.Ranged ∧ extendedB.Occurs (program genericHeritage .typeScript none).node ∧
      argumentC.Occurs extendedB ∧ extendedB.HasRange 16 17 ∧ argumentC.HasRange 18 19 ∧
      ¬ extendedB.Encloses argumentC := by
  have hextended : extendedB.HasRange 16 17 := ⟨rfl, rfl⟩
  have hargument : argumentC.HasRange 18 19 := ⟨rfl, rfl⟩
  refine ⟨ranged_genericHeritage, extendedB_occurs.trans extendsClause_occurs, argumentC_occurs,
    hextended, hargument, fun henclosed => ?_⟩
  have hstop := (henclosed 16 17 18 19 hextended hargument).2
  omega

end Lower

end DeclTree
