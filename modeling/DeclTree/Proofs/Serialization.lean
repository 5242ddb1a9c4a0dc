import DeclTree.Proofs.Position
import DeclTree.Proofs.ReadBack
import DeclTree.Proofs.Unnoticed

/-!
# What is written of a declaration tree

A tree that is built by adding children (`Decl.Built`) has distinct keys in every context, so
its JSON value loses nothing when fields of one name are merged: a context is written with as
many children as it has, in the order in which their keys came first. A leaf and a context may
be of one kind, but a leaf always ends with its form and a context with its children, so the
JSON value tells them apart and determines the tree but for the nodes that the leaves came from
(`serialized_tree_is_faithful`).
-/

namespace DeclTree

/-- An empty context after a list of calls that add a child. -/
def Context.filled (kind : DeclKind) (name : String) (calls : List (String × Decl)) : Context :=
  calls.foldl (fun c call => c.add call.1 call.2) ⟨kind, name, []⟩

namespace Decl

/-- A leaf, or a module or namespace that is filled with what has been built. -/
inductive Built : Decl → Prop
  | leaf (l : Leaf) : Built (.leaf l)
  | context {kind : DeclKind} (name : String) {calls : List (String × Decl)}
    (holds : kind.isContext = true) (inside : ∀ call ∈ calls, Built call.2) :
    Built (Context.filled kind name calls).toDecl

mutual

/-- The same kinds, names and forms, and children alike under the same keys, in order. -/
def Alike : Decl → Decl → Prop
  | .leaf l, .leaf l' => l.kind = l'.kind ∧ l.name = l'.name ∧ l.form = l'.form
  | .context kind name children, .context kind' name' children' =>
    kind = kind' ∧ name = name' ∧ AlikeIn children children'
  | .leaf _, .context .. => False
  | .context .., .leaf _ => False

def AlikeIn : List (String × Decl) → List (String × Decl) → Prop
  | [], [] => True
  | (key, d) :: rest, (key', d') :: rest' => key = key' ∧ Alike d d' ∧ AlikeIn rest rest'
  | [], _ :: _ => False
  | _ :: _, [] => False

end

end Decl

/-- Adding one child after the other is adding them all. -/
theorem Context.filled_eq (kind : DeclKind) (name : String) (calls : List (String × Decl)) :
    Context.filled kind name calls = ⟨kind, name, Ordered.ofList calls⟩ := by
  have hadd : ∀ c : Context, calls.foldl (fun c call => c.add call.1 call.2) c = c.addAll calls := by
    induction calls with
    | nil => exact fun _ => rfl
    | cons call rest ih => exact fun c => ih (c.add call.1 call.2)
  exact hadd ⟨kind, name, []⟩

namespace Decl

theorem Built.calls {c : Context} (h : c.toDecl.Built) :
    ∃ calls, (∀ call ∈ calls, Built call.2) ∧ c = .filled c.kind c.name calls := by
  generalize hd : c.toDecl = d at h
  cases h with
  | leaf l => cases hd
  | context name _ inside =>
    obtain ⟨kind, own, children⟩ := c
    rw [Context.filled_eq] at hd
    cases hd
    exact ⟨_, inside, (Context.filled_eq _ _ _).symm⟩

/-- Every declaration in a built tree has been built. -/
theorem Built.below? {root d : Decl} (h : root.Built) {address : List Nat}
    (hd : root.below? address = some d) : d.Built := by
  induction address generalizing root with
  | nil =>
    cases hd
    exact h
  | cons i rest ih =>
    obtain ⟨e, hi, hrest⟩ := Option.bind_eq_some_iff.mp hd
    cases root with
    | leaf l => cases hi
    | context kind name children =>
      obtain ⟨calls, hcalls, hfilled⟩ := @Built.calls ⟨kind, name, children⟩ h
      rw [Context.filled_eq] at hfilled
      cases hfilled
      have he := Ordered.mem_of_mem_ofList (List.mem_of_getElem? hi)
      exact ih (hcalls e he) hrest

/-! ### The JSON value -/

theorem leafJson_cases (l : Leaf) :
    (l.name = none ∧ leafJson l =
      .object [("kind", .string l.kind.name), ("syntax", .string l.form)]) ∨
    ∃ name, l.name = some name ∧ leafJson l =
      .object [("kind", .string l.kind.name), ("name", .string name),
        ("syntax", .string l.form)] := by
  rw [leafJson]
  cases l.name with
  | none => exact .inl ⟨rfl, rfl⟩
  | some name => exact .inr ⟨name, rfl, rfl⟩

theorem Built.distinctKeys {d : Decl} (h : d.Built) : d.toJson.DistinctKeys := by
  induction h with
  | leaf l =>
    rcases leafJson_cases l with ⟨-, hl⟩ | ⟨name, -, hl⟩ <;> rw [toJson, hl]
    · exact ⟨(by decide : ["kind", "syntax"].Nodup), trivial, trivial, trivial⟩
    · exact ⟨(by decide : ["kind", "name", "syntax"].Nodup), trivial, trivial, trivial, trivial⟩
  | context name holds inside ih =>
    rw [Context.filled_eq]
    refine ⟨(by decide : ["kind", "name", "children"].Nodup), trivial, trivial, ⟨?_, ?_⟩, trivial⟩
    · rw [childrenJson_eq, Ordered.keys_mapValues]
      exact Ordered.nodup_keys_ofList _
    · rw [Json.distinctKeysIn_iff, childrenJson_eq]
      intro e he
      obtain ⟨call, hcall, rfl⟩ := List.mem_map.mp he
      exact ih call (Ordered.mem_of_mem_ofList hcall)

theorem hasWords_string (s : String) : (Json.string s).HasWords :=
  (Json.hasWords_scalar_iff rfl).mpr nofun

mutual

/-- There are no numbers in what is written of a declaration. -/
theorem hasWords_toJson : ∀ d : Decl, d.toJson.HasWords
  | .leaf l => by
    rcases leafJson_cases l with ⟨-, hl⟩ | ⟨name, -, hl⟩ <;>
      simp [toJson, hl, Json.hasWords_object_iff, hasWords_string]
  | .context kind name children => by
    have hchildren := hasWords_childrenJson children
    rw [toJson, Json.hasWords_object_iff]
    simp [hasWords_string, hchildren]

theorem hasWords_childrenJson :
    ∀ children : List (String × Decl), (Json.object (childrenJson children)).HasWords
  | [] => by simp [childrenJson, Json.hasWords_object_iff]
  | (key, d) :: rest => by
    rw [childrenJson, Json.hasWords_object_iff, List.forall_mem_cons]
    exact ⟨hasWords_toJson d, Json.hasWords_object_iff.mp (hasWords_childrenJson rest)⟩

end

theorem kindName_inj {kind kind' : DeclKind} : kind.name = kind'.name ↔ kind = kind' := by
  revert kind kind'
  intro kind kind'
  cases kind <;> cases kind' <;> decide

theorem leafJson_eq_iff (l l' : Leaf) :
    leafJson l = leafJson l' ↔ l.kind = l'.kind ∧ l.name = l'.name ∧ l.form = l'.form := by
  rcases leafJson_cases l with ⟨hname, hl⟩ | ⟨name, hname, hl⟩ <;>
    rcases leafJson_cases l' with ⟨hname', hl'⟩ | ⟨name', hname', hl'⟩ <;>
    simp [hname, hname', hl, hl', kindName_inj]

theorem leafJson_ne_context (l : Leaf) (kind : DeclKind) (name : String)
    (children : List (String × Decl)) : leafJson l ≠ (context kind name children).toJson := by
  rcases leafJson_cases l with ⟨-, hl⟩ | ⟨own, -, hl⟩ <;> simp [hl, toJson]

mutual

/-- What is written is the same exactly for trees that are alike. -/
theorem toJson_eq_iff : ∀ d d' : Decl, d.toJson = d'.toJson ↔ d.Alike d'
  | .leaf l, .leaf l' => by rw [toJson, toJson, leafJson_eq_iff, Alike]
  | .leaf l, .context kind name children => by
    rw [Alike, toJson, iff_false]
    exact leafJson_ne_context l kind name children
  | .context kind name children, .leaf l => by
    rw [Alike, iff_false, eq_comm, toJson]
    exact leafJson_ne_context l kind name children
  | .context kind name children, .context kind' name' children' => by
    simp [toJson, Alike, kindName_inj, childrenJson_eq_iff children children']

theorem childrenJson_eq_iff : ∀ children children' : List (String × Decl),
    childrenJson children = childrenJson children' ↔ AlikeIn children children'
  | [], [] => by simp [childrenJson, AlikeIn]
  | [], (_, _) :: _ => by simp [childrenJson, AlikeIn]
  | (_, _) :: _, [] => by simp [childrenJson, AlikeIn]
  | (key, d) :: rest, (key', d') :: rest' => by
    simp [childrenJson, AlikeIn, toJson_eq_iff d d', childrenJson_eq_iff rest rest', and_assoc]

end

end Decl

/-- The declaration at an address in what is written of a tree. -/
def Json.declaration? : Json → List Nat → Option Json
  | v, [] => some v
  | v, i :: rest =>
    ((v.get? "children").bind Json.object?).bind fun entries =>
      (entries[i]?).bind fun e => e.2.declaration? rest

namespace Decl

theorem declaration?_toJson (d : Decl) (address : List Nat) :
    d.toJson.declaration? address = (d.below? address).map toJson := by
  induction address generalizing d with
  | nil => rfl
  | cons i rest ih =>
    cases d with
    | leaf l =>
      rcases leafJson_cases l with ⟨-, hl⟩ | ⟨name, -, hl⟩ <;>
        simp [Json.declaration?, below?, children, toJson, hl, Json.get?, Ordered.get?]
    | context kind name entries =>
      simp only [Json.declaration?, below?, children, toJson, Json.get?, Json.object?,
        childrenJson_eq, Ordered.mapValues, Ordered.get?, String.reduceEq, if_true, if_false,
        List.getElem?_map, Option.bind_some, Option.bind_map, Option.map_bind,
        Function.comp_def, ih]

/-- Every context of a built tree is written with as many children as it has, under their keys in
the order in which these came first in whatever calls the context was filled by. Built trees that
have the same JSON value, or the same text, are alike. -/
theorem serialized_tree_is_faithful {root : Decl} (h : root.Built) :
    (∀ address (c : Context), root.below? address = some c.toDecl →
      (∃ calls, c = .filled c.kind c.name calls) ∧
      ∃ entries, (root.toJson.merged.declaration? address).bind (·.get? "children") =
          some (.object entries) ∧
        entries.length = c.size ∧ Ordered.keys entries = c.keys ∧
        ∀ calls, c = .filled c.kind c.name calls →
          Ordered.keys entries = (Ordered.keys calls).eraseDups) ∧
    ∀ other : Decl, other.Built →
      (root.toJson.merged = other.toJson.merged ↔ root.Alike other) ∧
        (root.toJson.compact = other.toJson.compact ↔ root.Alike other) := by
  have hmerged : ∀ d : Decl, d.Built → d.toJson.merged = d.toJson :=
    fun d hd => Json.merged_of_distinctKeys d.toJson hd.distinctKeys
  refine ⟨?_, ?_⟩
  · intro address c hc
    obtain ⟨calls, -, hfilled⟩ := (h.below? hc).calls
    refine ⟨⟨calls, hfilled⟩, childrenJson c.children, ?_, ?_, ?_, ?_⟩
    · rw [hmerged root h, declaration?_toJson, hc]
      rfl
    · rw [childrenJson_eq, Ordered.mapValues, List.length_map, Context.size]
    · rw [childrenJson_eq, Ordered.keys_mapValues, Context.keys]
    · intro calls hcalls
      rw [Context.filled_eq] at hcalls
      rw [hcalls, childrenJson_eq, Ordered.keys_mapValues]
      exact Ordered.keys_ofList calls
  · intro other hother
    refine ⟨?_, ?_⟩
    · rw [hmerged root h, hmerged other hother, toJson_eq_iff]
    · constructor
      · intro htext
        have hread := Json.read?_compact (hasWords_toJson root)
        rw [htext, Json.read?_compact (hasWords_toJson other), hmerged root h,
          hmerged other hother, Option.some.injEq] at hread
        exact (toJson_eq_iff root other).mp hread.symm
      · intro halike
        rw [(toJson_eq_iff root other).mpr halike]

/-- Keys that are fields of a context, a key that is used twice, and a leaf of the kind of a
context, from two different nodes. -/
theorem serialized_tree_is_faithful_nested :
    let leaf (source : Json) : Decl := .leaf ⟨.moduleDecl, some "kind", "ClassDeclaration", source⟩
    let calls (source : Json) : List (String × Decl) :=
      [("kind", leaf .null), ("children", .context .namespaceDecl "N" []), ("kind", leaf source)]
    let root (source : Json) : Context := .filled .moduleDecl "root" (calls source)
    (root .null).toDecl.Built ∧ (root (.object [])).toDecl.Built ∧
      (root .null).toJson.compact = (root (.object [])).toJson.compact ∧
      ∃ entries, (root .null).toJson.merged.get? "children" = some (.object entries) ∧
        Ordered.keys entries = ["kind", "children"] := by
  intro leaf calls root
  have hempty : (Decl.context .namespaceDecl "N" []).Built :=
    @Built.context .namespaceDecl "N" [] rfl nofun
  have hbuilt : ∀ source, (root source).toDecl.Built := by
    intro source
    refine .context "root" rfl ?_
    simp only [calls, List.forall_mem_cons]
    exact ⟨.leaf _, hempty, .leaf _, nofun⟩
  obtain ⟨hchildren, hfaithful⟩ := serialized_tree_is_faithful (hbuilt .null)
  obtain ⟨-, entries, hentries, -, -, horder⟩ := hchildren [] (root .null) rfl
  refine ⟨hbuilt .null, hbuilt _, ?_, entries, hentries, ?_⟩
  · refine (hfaithful _ (hbuilt (.object []))).2.mpr ?_
    simp [root, calls, leaf, Context.filled, Context.add, Ordered.put, Context.toDecl, Alike,
      AlikeIn]
  · exact (horder (calls .null) rfl).trans (by decide)

end Decl

end DeclTree
