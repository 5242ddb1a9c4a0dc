import DeclTree.Proofs.NamedKinds
import DeclTree.Proofs.PlacedStatements

/-!
# The shape of a lowered program

Whatever occurs in a placed value is placed in the same tree (`Placed.of_occurs`), so what one
node looks like is true at every depth: no value is null, and an object is a token or starts
with its kind and the range of a node of the tree. Kinds are texts, so a lowered program
means the same under every kind table.
-/

namespace DeclTree.Lower

open Cst Cst.Tree

variable {α : Type} {u : Cst.Tree α}

/-- The values of the fields of a placed object are placed. -/
theorem Placed.field {fields : List (String × Json)} (h : Placed u (.object fields))
    {e : String × Json} (he : e ∈ fields) : Placed u e.2 := by
  generalize hv : Json.object fields = v at h
  cases h with
  | token kind =>
    obtain rfl := Json.object.inj hv
    obtain rfl := List.mem_singleton.mp he
    exact .text kind
  | @node d _ within kind rest inside =>
    obtain rfl := Json.object.inj hv
    simp only [List.mem_cons] at he
    rcases he with rfl | rfl | rfl | he
    · exact .text kind
    · exact .number d.info.start
    · exact .number d.info.stop
    · exact (inside e he).mono within
  | @extended d _ within apart expression arguments inside beside =>
    obtain rfl := Json.object.inj hv
    simp only [List.mem_cons, List.not_mem_nil, or_false] at he
    rcases he with rfl | rfl | rfl | rfl | rfl
    · exact .text _
    · exact .number d.info.start
    · exact .number d.info.stop
    · exact inside.mono within
    · exact .items beside
  | _ => cases hv

theorem Placed.item {items : List Json} (h : Placed u (.array items)) {v : Json}
    (hv : v ∈ items) : Placed u v := by
  generalize hw : Json.array items = w at h
  cases h with
  | items all =>
    obtain rfl := Json.array.inj hw
    exact all v hv
  | _ => cases hw

theorem Placed.of_occurs {v w : Json} (h : Placed u v) (hw : w.Occurs v) : Placed u w := by
  induction hw with
  | root => exact h
  | item mem _ ih => exact ih (h.item mem)
  | field mem _ ih => exact ih (h.field mem)

theorem Placed.ne_null {v : Json} (h : Placed u v) : v ≠ .null := by
  rintro rfl
  cases h

/-- A placed object is a token, or it starts with its kind and the range of a node. -/
theorem Placed.object_cases {fields : List (String × Json)} (h : Placed u (.object fields)) :
    (∃ kind, fields = [("kind", .string kind)]) ∨
      ∃ (kind : String) (d : Cst.Tree α) (rest : List (String × Json)), d.Within u ∧
        fields = ("kind", .string kind) :: ("pos", .ofNat d.info.start) ::
          ("end", .ofNat d.info.stop) :: rest := by
  generalize hv : Json.object fields = v at h
  cases h with
  | token kind => exact .inl ⟨kind, Json.object.inj hv⟩
  | node within kind inside => exact .inr ⟨kind, _, _, within, Json.object.inj hv⟩
  | extended within apart inside beside => exact .inr ⟨_, _, _, within, Json.object.inj hv⟩
  | _ => cases hv

theorem Placed.named {v : Json} (h : Placed u v) : v.Named := by
  intro w hw n hn
  cases w with
  | object fields =>
    rcases (h.of_occurs hw).object_cases with ⟨kind, rfl⟩ | ⟨kind, d, rest, _, rfl⟩
    · cases hn
    · cases hn
  | _ => cases hn

/-- In a lowered program, at every depth, nothing is null and an object is a token or starts
with its kind and the range of a node of the concrete tree. So no kind table matters to it. -/
theorem lowered_shape (t : Cst) (language : Language) (fileName : Option String) :
    let ast := (program t language fileName).node
    (∀ v : Json, v.Occurs ast → v ≠ .null) ∧
    (∀ fields : List (String × Json), (Json.object fields).Occurs ast →
      (∃ kind, fields = [("kind", .string kind)]) ∨
        ∃ (kind : String) (d : Cst) (rest : List (String × Json)), d.Within t ∧
          fields = ("kind", .string kind) :: ("pos", .ofNat d.info.start) ::
            ("end", .ofNat d.info.stop) :: rest) ∧
    ∀ kinds other : KindTable, Normal.normalize other ast = Normal.normalize kinds ast ∧
      ∀ (print : Printer) (options : WalkOptions) (s : Walker.State),
        Walker.walk ⟨other, print, options⟩ ast s = Walker.walk ⟨kinds, print, options⟩ ast s := by
  intro ast
  have hplaced : Placed t ast := placed_program t language fileName
  refine ⟨fun v hv => (hplaced.of_occurs hv).ne_null,
    fun fields hv => (hplaced.of_occurs hv).object_cases, fun kinds other => ⟨?_, ?_⟩⟩
  · exact Normal.normalize_of_named hplaced.named kinds other
  · exact fun print options s => Walker.walk_of_named hplaced.named s

end DeclTree.Lower
