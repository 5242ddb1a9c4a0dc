import DeclTree.Proofs.Contribution

/-!
# Changes of nodes that go through their fields

From a node a walk gets to other nodes by a few fields only (`Json.followed`). A
change that goes through these, and keeps what a node is as a text, is `Fieldwise`:
it changes the units of a node one by one and keeps the name that a statement
carries itself, and it keeps a printed name when it keeps what is printed.
-/

namespace DeclTree

namespace Json

theorem field?_of_get? {f : Json → Json} (hnull : ∀ u, (f u).isNull = u.isNull) {v v' : Json}
    {key : String} (h : v'.get? key = (v.get? key).map f) :
    v'.field? key = (v.field? key).map f := by
  rw [field?, field?, h]
  cases v.get? key with
  | none => rfl
  | some u =>
    rw [Option.map_some, Option.filter_some, Option.filter_some, hnull]
    cases u.isNull <;> rfl

theorem text?_of_get? {f : Json → Json} (hstring : ∀ u, (f u).string? = u.string?)
    {v v' : Json} (htext : v'.get? "text" = (v.get? "text").map f)
    (hescaped : v'.get? "escapedText" = (v.get? "escapedText").map f) : v'.text? = v.text? := by
  have hbind : ∀ o : Option Json, (o.map f).bind string? = o.bind string? := by
    intro o
    cases o with
    | none => rfl
    | some u => exact hstring u
  rw [text?, text?, htext, hescaped, hbind, hbind]

theorem flags?_of_get? {f : Json → Json} (hsigned : ∀ u, (f u).signed? = u.signed?)
    {v v' : Json} (h : v'.get? "flags" = (v.get? "flags").map f) : v'.flags? = v.flags? := by
  rw [flags?, flags?, h]
  cases v.get? "flags" with
  | none => rfl
  | some u => exact hsigned u

/-- The fields that lead a walk from a node to other nodes. -/
def followed : List String :=
  ["name", "type", "typeName", "moduleSpecifier", "expression", "declarationList",
    "declarations", "body", "statements"]

/-- A change of nodes that goes through the fields that lead to other nodes. -/
structure Fieldwise (f : Json → Json) : Prop where
  text : ∀ v, (f v).text? = v.text?
  isNull : ∀ v, (f v).isNull = v.isNull
  array : ∀ v, (f v).array? = (v.array?).map (List.map f)
  get : ∀ v, ∀ key ∈ followed, (f v).get? key = (v.get? key).map f

namespace Fieldwise

variable {f : Json → Json}

theorem field (h : Fieldwise f) (v : Json) {key : String} (hk : key ∈ followed) :
    (f v).field? key = (v.field? key).map f :=
  field?_of_get? h.isNull (h.get v key hk)

theorem textOf (h : Fieldwise f) (v : Json) {key : String} (hk : key ∈ followed) :
    (f v).textOf? key = v.textOf? key := by
  rw [textOf?, textOf?, h.field v hk]
  cases v.field? key with
  | none => rfl
  | some u => exact h.text u

theorem sequence (h : Fieldwise f) (v : Json) {key : String} (hk : key ∈ followed) :
    (f v).sequence? key = (v.sequence? key).map (List.map f) := by
  rw [sequence?, sequence?, h.get v key hk]
  cases v.get? key with
  | none => rfl
  | some u => exact h.array u

theorem units (h : Fieldwise f) (v : Json) : (f v).units = v.units.map f := by
  rw [Json.units, Json.units, statements?, statements?, h.sequence v (by decide)]
  cases v.sequence? "statements" <;> rfl

theorem direct (h : Fieldwise f) (v : Json) : Name.direct? (f v) = Name.direct? v := by
  have htype : ((f v).field? "type").bind (·.textOf? "typeName") =
      (v.field? "type").bind (·.textOf? "typeName") := by
    rw [h.field v (by decide)]
    cases v.field? "type" with
    | none => rfl
    | some u => exact h.textOf u (by decide)
  rw [Name.direct?, Name.direct?, h.textOf v (by decide), h.textOf v (by decide), htype]

/-- Names are kept when what is printed for expressions and declarators is. -/
theorem resolve (h : Fieldwise f) {kinds kinds' : KindTable} {print print' : Printer}
    (hp : ∀ v, print' (.normalize kinds' (f v)) = print (.normalize kinds v)) (v : Json) :
    Name.resolve kinds' print' (f v) = Name.resolve kinds print v := by
  have hdeclarators : ∀ list, Name.declarators kinds' print' (f list) =
      Name.declarators kinds print list := by
    intro list
    rw [Name.declarators, Name.declarators, h.sequence list (by decide)]
    cases list.sequence? "declarations" with
    | none => rfl
    | some ds => simp [Function.comp_def, hp]
  rw [Name.resolve, Name.resolve, h.direct, h.field v (by decide), h.field v (by decide)]
  cases Name.direct? v with
  | some s => rfl
  | none =>
    cases v.field? "expression" with
    | some e => simp only [Option.map_some, hp]
    | none =>
      cases v.field? "declarationList" with
      | some list => simp only [Option.map_some, Option.map_none, hdeclarators]
      | none => rfl

end Fieldwise

end Json

end DeclTree
