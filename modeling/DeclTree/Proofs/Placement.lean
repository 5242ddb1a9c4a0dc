import DeclTree.Lower.Draft
import DeclTree.Proofs.Descendants
import DeclTree.Proofs.Writes

/-!
# Where lowered nodes are placed

`Placed u v` says how a lowered value is made from a concrete tree `u`: of texts, flags,
numbers, tokens, sequences, and nodes, each of which starts with a kind and with the range of a
tree within the one around it. One node is made otherwise. The type that a class extends stands
at its expression, but its type arguments are read from a sibling of that (`Placed.extended`).

Drafts keep this: `Draft.PlacedAt` is what `new` makes, what every write of a field after the
leading three keeps, and what `build` needs.
-/

namespace DeclTree.Lower

open Cst Cst.Tree

variable {α : Type}

/-- Some extends clause within a tree has type arguments of its own, beside its expression. -/
def ArgumentsApart (u : Cst.Tree α) : Prop :=
  ∃ clause : Cst.Tree α, clause.Within u ∧ clause.kind = "extends_clause" ∧
    ∃ q ∈ clause.head.main, q.kind = "type_arguments"

theorem ArgumentsApart.mono {u t : Cst.Tree α} (h : ArgumentsApart u) (hut : u.Within t) :
    ArgumentsApart t := by
  obtain ⟨clause, hclause, hkind⟩ := h
  exact ⟨clause, hclause.trans hut, hkind⟩

inductive Placed : Cst.Tree α → Json → Prop
  | text {u : Cst.Tree α} (s : String) : Placed u (.string s)
  | truth {u : Cst.Tree α} (b : Bool) : Placed u (.bool b)
  | number {u : Cst.Tree α} (n : Nat) : Placed u (.ofNat n)
  | token {u : Cst.Tree α} (kind : String) : Placed u (token kind)
  | items {u : Cst.Tree α} {vs : List Json} (all : ∀ v ∈ vs, Placed u v) : Placed u (.array vs)
  | node {d u : Cst.Tree α} (within : d.Within u) (kind : String) {fields : List (String × Json)}
      (inside : ∀ e ∈ fields, Placed d e.2) :
      Placed u (.object (("kind", .string kind) :: ("pos", .ofNat d.info.start) ::
        ("end", .ofNat d.info.stop) :: fields))
  /-- a type that a class extends, with arguments from beside its expression -/
  | extended {d u : Cst.Tree α} (within : d.Within u) (apart : ArgumentsApart u) {expression : Json}
      {arguments : List Json} (inside : Placed d expression)
      (beside : ∀ v ∈ arguments, Placed u v) :
      Placed u (.object [("kind", .string "ExpressionWithTypeArguments"),
        ("pos", .ofNat d.info.start), ("end", .ofNat d.info.stop), ("expression", expression),
        ("typeArguments", .array arguments)])

/-- What is placed in a part of a tree is placed in the tree. -/
theorem Placed.mono {u t : Cst.Tree α} {v : Json} (h : Placed u v) (hut : u.Within t) :
    Placed t v := by
  induction h generalizing t with
  | text s => exact .text s
  | truth b => exact .truth b
  | number n => exact .number n
  | token kind => exact .token kind
  | items _ ih => exact .items fun v hv => ih v hv hut
  | node within kind inside _ => exact .node (within.trans hut) kind inside
  | extended within apart inside _ _ ih =>
    exact .extended (within.trans hut) (apart.mono hut) inside fun v hv => ih v hv hut

namespace Draft

/-- The names of the three fields that every draft starts with. -/
def leading : List String := ["kind", "pos", "end"]

/-- A draft at the place of a tree, made of values placed in that tree. -/
def PlacedAt (u : Cst.Tree α) (d : Draft) : Prop :=
  ∃ (kind : String) (fields : List (String × Json)),
    d.fields = ("kind", .string kind) :: ("pos", .ofNat u.info.start) ::
      ("end", .ofNat u.info.stop) :: fields ∧
    ∀ e ∈ fields, Placed u e.2

namespace PlacedAt

variable {u : Cst.Tree α} {d : Draft} {key : String}

theorem new (u : Cst.Tree α) (kind : String) : (Draft.new kind u.info).PlacedAt u :=
  ⟨kind, [], rfl, fun _ h => absurd h List.not_mem_nil⟩

theorem put (h : d.PlacedAt u) {v : Json} (hv : Placed u v)
    (hkey : key ∉ leading) : (d.put key v).PlacedAt u := by
  obtain ⟨kind, fields, hd, hfields⟩ := h
  simp only [leading, List.mem_cons, List.not_mem_nil, or_false, not_or] at hkey
  obtain ⟨hkind, hpos, hend⟩ := hkey
  refine ⟨kind, Ordered.put fields key v, ?_, ?_⟩
  · simp only [Draft.put, hd, Ordered.put, Ne.symm hkind, Ne.symm hpos, Ne.symm hend, if_false]
  · intro e he
    rcases Ordered.mem_put he with old | rfl
    · exact hfields e old
    · exact hv

theorem put? (h : d.PlacedAt u) {o : Option Json} (ho : ∀ v ∈ o, Placed u v)
    (hkey : key ∉ leading) : (d.put? key o).PlacedAt u := by
  cases o with
  | none => exact h
  | some v => exact h.put (ho v rfl) hkey

theorem putItems (h : d.PlacedAt u) {items : List Json} (hitems : ∀ v ∈ items, Placed u v)
    (hkey : key ∉ leading) : (d.putItems key items).PlacedAt u :=
  h.put (.items hitems) hkey

theorem putSome (h : d.PlacedAt u) {items : List Json} (hitems : ∀ v ∈ items, Placed u v)
    (hkey : key ∉ leading) : (d.putSome key items).PlacedAt u := by
  rw [Draft.putSome]
  split
  · exact h
  · exact h.putItems hitems hkey

theorem modifiers (h : d.PlacedAt u) (kinds : List String) : (d.modifiers kinds).PlacedAt u := by
  refine h.putSome (fun v hv => ?_) (by decide)
  obtain ⟨kind, _, rfl⟩ := List.mem_map.mp hv
  exact .token kind

theorem mark (h : d.PlacedAt u) (kind : String) (on : Bool)
    (hkey : key ∉ leading) : (d.mark key kind on).PlacedAt u := by
  cases on with
  | false => exact h
  | true => exact h.put (.token kind) hkey

theorem optional (h : d.PlacedAt u) (on : Bool) : (d.optional on).PlacedAt u :=
  h.mark "QuestionToken" on (by decide)

theorem build (h : d.PlacedAt u) : Placed u d.build := by
  obtain ⟨kind, fields, hd, hfields⟩ := h
  rw [Draft.build, hd]
  exact .node .root kind hfields

end PlacedAt

end Draft

section Leaves

variable (u : Cst.Tree α)

theorem placed_identifierNamed (text : String) : Placed u (identifierNamed u.info text) :=
  ((Draft.PlacedAt.new u "Identifier").put (.text text) (by decide)).build

theorem placed_identifier : Placed u (identifier u.info) := placed_identifierNamed u u.info.text

theorem placed_stringLiteral : Placed u (stringLiteral u.info) :=
  ((Draft.PlacedAt.new u "StringLiteral").put (.text _) (by decide)).build

theorem placed_textOnly : Placed u (textOnly u.info) :=
  ((Draft.PlacedAt.new u _).put (.text u.info.text) (by decide)).build

theorem placed_entityName : Placed u (entityName u.info) := by
  have hfold : ∀ (rest : List String) (left : Json), Placed u left →
      Placed u (rest.foldl
        (fun left right =>
          (((Draft.new "QualifiedName" u.info).put "left" left).put "right"
            (identifierNamed u.info right)).build) left) := by
    intro rest
    induction rest with
    | nil => exact fun left hleft => hleft
    | cons right rest ih =>
      intro left hleft
      exact ih _ ((Draft.PlacedAt.new u _).put hleft (by decide)
        |>.put (placed_identifierNamed u right) (by decide)).build
  rw [entityName]
  split
  · exact placed_identifierNamed u ""
  · exact hfold _ _ (placed_identifierNamed u _)

end Leaves

end DeclTree.Lower
