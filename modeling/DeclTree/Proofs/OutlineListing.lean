import DeclTree.Outline
import DeclTree.Text.Blank
import DeclTree.Proofs.Entries
import DeclTree.Proofs.Serialization

/-!
# The outline of a declaration tree

An outline is made from a JSON value, by the fields that are found in it. For what is written of
a declaration tree it comes to the list of all declarations (`Decl.listing`), each with the
address at which it stands, in the order of the addresses: a declaration stands before those
below it, and these before the next child. Whatever the keys are, the fields of a declaration are
found where it was written and its children are among its entries only, so every declaration has
one line (`outline_lists_the_tree`).
-/

namespace DeclTree

/-- A declaration, where it stands in a tree, and the key under which it stands there. -/
structure Listed where
  address : List Nat
  key : String
  decl : Decl

/-- The same declaration in a tree that has its tree as a child at place `i`. -/
def Listed.under (i : Nat) (e : Listed) : Listed := { e with address := i :: e.address }

namespace Decl

/-- The key and the declaration at an address, in a tree that stands under a key. -/
def keyedBelow? (key : String) (d : Decl) : List Nat → Option (String × Decl)
  | [] => some (key, d)
  | i :: rest => (d.children[i]?).bind fun e => e.2.keyedBelow? e.1 rest

/-- The kind in brackets and, for a leaf, the form. -/
def caption : Decl → String
  | .leaf l => "[" ++ l.kind.name ++ "] " ++ l.form
  | .context kind _ _ => "[" ++ kind.name ++ "]"

/-- Two blanks for each level, the key and the caption. -/
def line (level : Nat) (key : String) (d : Decl) : String :=
  String.ofList (List.replicate (2 * level) ' ') ++ key ++ " " ++ d.caption

mutual

/-- A tree under a key and all that is below it, parents first. -/
def listing (key : String) : Decl → List Listed
  | .leaf l => [⟨[], key, .leaf l⟩]
  | .context kind name children => ⟨[], key, .context kind name children⟩ :: listingIn 0 children

/-- All declarations of children, of which the first stands at place `i`. -/
def listingIn (i : Nat) : List (String × Decl) → List Listed
  | [] => []
  | (key, d) :: rest => (listing key d).map (Listed.under i) ++ listingIn (i + 1) rest

end

end Decl

/-- The line of a declaration, at the level that its address gives. -/
def Listed.line (e : Listed) : String := e.decl.line e.address.length e.key

namespace Decl

/-! ### Every declaration, once, in order -/

theorem listing_eq (key : String) (d : Decl) :
    d.listing key = ⟨[], key, d⟩ :: listingIn 0 d.children := by
  cases d with
  | leaf l => rfl
  | context kind name children => rfl

theorem keyedBelow?_snoc (key : String) (d : Decl) (address : List Nat) (i : Nat) :
    d.keyedBelow? key (address ++ [i]) = (d.below? address).bind fun p => p.children[i]? := by
  induction address generalizing key d with
  | nil => exact Option.bind_fun_some _
  | cons j rest ih => simp [keyedBelow?, below?, ih, Option.bind_assoc]

mutual

theorem length_listing (key : String) : ∀ d : Decl, (d.listing key).length = 1 + d.descendants
  | .leaf l => rfl
  | .context kind name children => by
    rw [listing, List.length_cons, length_listingIn 0 children, descendants]
    omega

theorem length_listingIn (i : Nat) : ∀ children : List (String × Decl),
    (listingIn i children).length = descendantsIn children
  | [] => rfl
  | (key, d) :: rest => by
    rw [listingIn, List.length_append, List.length_map, length_listing key d,
      length_listingIn (i + 1) rest, descendantsIn]

end

mutual

/-- Exactly the declarations of the tree are listed. -/
theorem mem_listing_iff (key : String) (e : Listed) : ∀ d : Decl,
    e ∈ d.listing key ↔ d.keyedBelow? key e.address = some (e.key, e.decl)
  | .leaf l => by
    obtain ⟨address, key', d'⟩ := e
    cases address <;> simp [listing, keyedBelow?, children, eq_comm]
  | .context kind name entries => by
    obtain ⟨address, key', d'⟩ := e
    rw [listing, List.mem_cons, mem_listingIn_iff 0 _ entries]
    cases address with
    | nil => simp [keyedBelow?, eq_comm]
    | cons i rest => simp [keyedBelow?, children, Option.bind_eq_some_iff, and_assoc]

theorem mem_listingIn_iff (i : Nat) (e : Listed) : ∀ children : List (String × Decl),
    e ∈ listingIn i children ↔
      ∃ j rest entry, e.address = (i + j) :: rest ∧ children[j]? = some entry ∧
        entry.2.keyedBelow? entry.1 rest = some (e.key, e.decl)
  | [] => by simp [listingIn]
  | (key, d) :: rest => by
    rw [listingIn, List.mem_append, List.mem_map, mem_listingIn_iff (i + 1) e rest]
    constructor
    · rintro (⟨e', he', rfl⟩ | ⟨j, address, entry, haddress, hentry, hbelow⟩)
      · exact ⟨0, e'.address, (key, d), rfl, rfl, (mem_listing_iff key e' d).mp he'⟩
      · refine ⟨j + 1, address, entry, ?_, hentry, hbelow⟩
        rw [haddress, Nat.add_assoc, Nat.add_comm 1 j]
    · rintro ⟨j, address, entry, haddress, hentry, hbelow⟩
      cases j with
      | zero =>
        obtain rfl := Option.some.inj hentry
        refine .inl ⟨⟨address, e.key, e.decl⟩, (mem_listing_iff key _ d).mpr hbelow, ?_⟩
        rw [Listed.under, ← Nat.add_zero i, ← haddress]
      | succ j =>
        refine .inr ⟨j, address, entry, ?_, hentry, hbelow⟩
        rw [haddress, Nat.add_assoc, Nat.add_comm 1 j]

end

/-- Whatever is listed for the children stands at or after the place of the first. -/
theorem lt_of_mem_listingIn {i : Nat} {children : List (String × Decl)} {e : Listed}
    (h : e ∈ listingIn (i + 1) children) (address : List Nat) : i :: address < e.address := by
  obtain ⟨j, rest, -, haddress, -, -⟩ := (mem_listingIn_iff (i + 1) e children).mp h
  rw [haddress, List.cons_lt_cons_iff]
  exact .inl (by omega)

mutual

/-- Addresses are listed in their own order, which puts a parent before what is below it. -/
theorem pairwise_listing (key : String) : ∀ d : Decl,
    (d.listing key).Pairwise (·.address < ·.address)
  | .leaf l => List.pairwise_singleton _ _
  | .context kind name children => by
    rw [listing, List.pairwise_cons]
    refine ⟨?_, pairwise_listingIn 0 children⟩
    intro e he
    obtain ⟨j, rest, -, haddress, -, -⟩ := (mem_listingIn_iff 0 e children).mp he
    rw [haddress]
    exact List.nil_lt_cons _ _

theorem pairwise_listingIn (i : Nat) : ∀ children : List (String × Decl),
    (listingIn i children).Pairwise (·.address < ·.address)
  | [] => List.Pairwise.nil
  | (key, d) :: rest => by
    rw [listingIn, List.pairwise_append]
    refine ⟨?_, pairwise_listingIn (i + 1) rest, ?_⟩
    · refine List.pairwise_map.mpr ((pairwise_listing key d).imp ?_)
      intro e e' h
      exact List.cons_lt_cons_iff.mpr (.inr ⟨rfl, h⟩)
    · intro e he e' he'
      obtain ⟨e, -, rfl⟩ := List.mem_map.mp he
      exact lt_of_mem_listingIn he' e.address

end

end Decl

/-! ### The lines of what is written -/

namespace Outline

open Decl

theorem label_toJson {d : Decl} {fields : List (String × Json)} (h : d.toJson = .object fields) :
    label fields = d.caption := by
  cases d with
  | leaf l =>
    rcases leafJson_cases l with ⟨-, hl⟩ | ⟨name, -, hl⟩ <;>
    · rw [toJson, hl, Json.object.injEq] at h
      subst h
      simp [label, stringAt?, Ordered.get?, Json.string?, caption, String.append_assoc]
  | context kind name children =>
    rw [toJson, Json.object.injEq] at h
    subst h
    rfl

theorem indent_childHeading (level : Nat) (key : String) {d : Decl}
    {fields : List (String × Json)} (h : d.toJson = .object fields) :
    indent level ++ childHeading key fields = d.line level key := by
  simp only [childHeading, label_toJson h, Decl.line, indent, String.append_assoc]

mutual

theorem belowIn_toJson (level : Nat) : ∀ (d : Decl) (fields : List (String × Json)),
    d.toJson = .object fields →
      belowIn (level + 1) fields =
        (listingIn 0 d.children).map fun e => e.decl.line (level + e.address.length) e.key
  | .leaf l, fields, h => by
    rcases leafJson_cases l with ⟨-, hl⟩ | ⟨name, -, hl⟩ <;>
    · rw [toJson, hl, Json.object.injEq] at h
      subst h
      simp [belowIn, children, listingIn]
  | .context kind name entries, fields, h => by
    rw [toJson, Json.object.injEq] at h
    subst h
    simp [belowIn, childLines, children, childrenLines_childrenJson level 0 entries]

theorem childrenLines_childrenJson (level i : Nat) : ∀ children : List (String × Decl),
    childrenLines (level + 1) (childrenJson children) =
      (listingIn i children).map fun e => e.decl.line (level + e.address.length) e.key
  | [] => by simp [childrenJson, childrenLines, listingIn]
  | (key, d) :: rest => by
    obtain ⟨fields, hfields⟩ : ∃ fields, d.toJson = .object fields := by
      cases d <;> exact ⟨_, rfl⟩
    rw [childrenJson, hfields, childrenLines, indent_childHeading _ key hfields,
      belowIn_toJson (level + 1) d fields hfields, childrenLines_childrenJson level (i + 1) rest,
      listingIn, listing_eq]
    simp [Listed.under, Function.comp_def, Nat.add_assoc, Nat.add_comm 1]

end

/-- The lines of a context: its own, under its name, and those of all that is below it. -/
theorem lines_toJson (c : Context) :
    lines c.toJson = (c.toDecl.listing c.name).map Listed.line := by
  have hroot : lines c.toJson = rootHeading [("kind", .string c.kind.name),
      ("name", .string c.name), ("children", .object (childrenJson c.children))] ::
        belowIn 1 [("kind", .string c.kind.name), ("name", .string c.name),
          ("children", .object (childrenJson c.children))] := rfl
  rw [hroot, belowIn_toJson 0 c.toDecl _ rfl, listing_eq, List.map_cons]
  simp only [Nat.zero_add]
  congr 1

theorem text_toJson (c : Context) :
    text c.toJson = "\n".intercalate ((c.toDecl.listing c.name).map Listed.line) := by
  rw [text, lines_toJson, listing_eq, List.map_cons]

/-- A text of lines starts like the first of them. -/
theorem head?_intercalate {first : String} (h : first.toList ≠ []) (mark : String)
    (rest : List String) :
    (mark.intercalate (first :: rest)).toList.head? = first.toList.head? := by
  obtain ⟨c, cs, hc⟩ := List.exists_cons_of_ne_nil h
  cases rest <;> simp [hc]

end Outline

namespace Decl

theorem newline_not_mem_caption {d : Decl} (h : ∀ l, d = .leaf l → l.form ∈ l.kind.forms) :
    '\n' ∉ d.caption.toList := by
  have hname : ∀ kind : DeclKind, '\n' ∉ kind.name.toList := by
    intro kind
    cases kind <;> decide
  have hforms : ∀ kind : DeclKind, ∀ form ∈ kind.forms, '\n' ∉ form.toList := by
    intro kind
    cases kind <;> decide
  cases d with
  | leaf l => simp [caption, hname, hforms _ _ (h l rfl)]
  | context kind name children => simp [caption, hname]

theorem newline_not_mem_line {level : Nat} {key : String} {d : Decl}
    (hkey : '\n' ∉ key.toList) (hcaption : '\n' ∉ d.caption.toList) :
    '\n' ∉ (d.line level key).toList := by
  simp [line, hkey, hcaption]

end Decl

namespace Walker

variable {w : Walker}

/-- Whatever a walk writes has been built by adding children. -/
theorem writesWithin_built (room : Nat) (node : Json) :
    ∀ e ∈ w.writesWithin room node, e.2.Built := by
  induction room generalizing node with
  | zero =>
    intro e he
    cases he
  | succ room ih =>
    intro e he
    obtain ⟨u, -, hu⟩ := List.mem_filterMap.mp he
    obtain ⟨⟨key, bare⟩, hbare, rfl⟩ := Option.map_eq_some_iff.mp hu
    cases bare with
    | leaf l => exact .leaf l
    | context kind name children =>
      have hkind : kind.isContext = true := by
        obtain ⟨-, hfits⟩ := declares?_fits hbare
        rcases hfits with ⟨rfl, -⟩ | ⟨rfl, -⟩ <;> rfl
      have hbody : ∀ call ∈ bodyWrites (w.writesWithin room) u, call.2.Built := by
        rw [bodyWrites]
        cases u.field? "body" with
        | none =>
          intro call hcall
          cases hcall
        | some body => exact ih body
      have hbuilt := Decl.Built.context name hkind hbody
      rw [Context.filled_eq] at hbuilt
      exact hbuilt

theorem walk_built (w : Walker) (ast : Json) (s : State) :
    (w.walk ast s).context.toDecl.Built := by
  have hbuilt : (Context.filled .moduleDecl "root"
      (w.writesWithin (w.options.maxDepth + 1) ast)).toDecl.Built :=
    .context "root" rfl (writesWithin_built _ ast)
  rw [Context.filled_eq] at hbuilt
  rw [walk_context]
  exact hbuilt

theorem walk_root (w : Walker) (ast : Json) (s : State) :
    ∃ children, (w.walk ast s).context = ⟨.moduleDecl, "root", children⟩ :=
  ⟨_, walk_context w ast s⟩

/-- The leaves that are listed for a walked tree have the forms of their kinds: none of them is
the root, and below it every declaration fits its key. -/
theorem form_mem_of_mem_listing {ast : Json} {s : State} {e : Listed} {key : String}
    (he : e ∈ (w.walk ast s).context.toDecl.listing key) {l : Leaf} (hl : e.decl = .leaf l) :
    l.form ∈ l.kind.forms := by
  rw [Decl.mem_listing_iff, hl] at he
  rcases List.eq_nil_or_concat e.address with hroot | ⟨address, i, hsnoc⟩
  · rw [hroot] at he
    obtain ⟨-, hd⟩ := Prod.mk.inj (Option.some.inj he)
    cases hd
  · rw [hsnoc, List.concat_eq_append, Decl.keyedBelow?_snoc, Option.bind_eq_some_iff] at he
    obtain ⟨parent, hparent, hchild⟩ := he
    obtain ⟨-, hentries⟩ := walk_entries_fit w ast s address parent hparent
    obtain ⟨-, hfits, -⟩ := hentries _ _ (List.mem_of_getElem? hchild)
    exact hfits.form

/-- An outline of a walked tree starts with the name of the root, whatever is below. -/
theorem head?_outline (w : Walker) (ast : Json) (s : State) :
    ((w.walk ast s).context.toJson.render .tree).toList.head? = some 'r' := by
  obtain ⟨children, hroot⟩ := walk_root w ast s
  have hfirst : Listed.line ⟨[], "root", .context .moduleDecl "root" children⟩ =
      "root [module]" := rfl
  rw [Json.render, Outline.text_toJson, hroot, Context.toDecl, Decl.listing_eq, List.map_cons,
    hfirst, Outline.head?_intercalate (by decide)]
  rfl

/-- The lines of its fields would start with the first field. -/
theorem head?_fields (w : Walker) (ast : Json) (s : State) :
    ("\n".intercalate (Outline.valueLines 0 (w.walk ast s).context.toJson)).toList.head? =
      some 'k' := by
  obtain ⟨children, hroot⟩ := walk_root w ast s
  obtain ⟨rest, hrest⟩ : ∃ rest, Outline.valueLines 0 (w.walk ast s).context.toJson =
      "kind: module" :: rest := by
    rw [hroot]
    exact ⟨_, rfl⟩
  rw [hrest, Outline.head?_intercalate (by decide)]
  rfl

/-- The outline of a walked tree has a line for each declaration, in the order of their addresses:
two blanks for each level, the key and the kind of the declaration and, for a leaf, its form. Since
no kind or form has a line break, the outline is split into just these lines unless a key has
one. What is written of the tree has no repeated fields. -/
theorem outline_lists_the_tree (w : Walker) (ast : Json) (s : State) :
    let root := (w.walk ast s).context
    let listing := root.toDecl.listing root.name
    let text := root.toJson.render .tree
    root.toJson.merged = root.toJson ∧
    listing.head? = some ⟨[], root.name, root.toDecl⟩ ∧
    (∀ e, e ∈ listing ↔ root.toDecl.keyedBelow? root.name e.address = some (e.key, e.decl)) ∧
    listing.Pairwise (·.address < ·.address) ∧
    listing.length = 1 + root.descendants ∧
    text = "\n".intercalate (listing.map Listed.line) ∧
    ((∀ e ∈ listing, '\n' ∉ e.key.toList) → Text.split '\n' text = listing.map Listed.line) ∧
    text ≠ "(empty)" ∧ text ≠ "\n".intercalate (Outline.valueLines 0 root.toJson) := by
  intro root listing text
  have hlisting : listing = ⟨[], root.name, root.toDecl⟩ :: Decl.listingIn 0 root.children :=
    Decl.listing_eq root.name root.toDecl
  have htext : text = "\n".intercalate (listing.map Listed.line) := Outline.text_toJson root
  have hhead : text.toList.head? = some 'r' := head?_outline w ast s
  refine ⟨Json.merged_of_distinctKeys _ (walk_built w ast s).distinctKeys, ?_,
    fun e => Decl.mem_listing_iff root.name e root.toDecl,
    Decl.pairwise_listing root.name root.toDecl, Decl.length_listing root.name root.toDecl, htext,
    ?_, ?_, ?_⟩
  · rw [hlisting, List.head?_cons]
  · intro hkeys
    have hlines : ∀ line ∈ listing.map Listed.line, '\n' ∉ line.toList := by
      intro line hline
      obtain ⟨e, he, rfl⟩ := List.mem_map.mp hline
      exact Decl.newline_not_mem_line (hkeys e he)
        (Decl.newline_not_mem_caption fun l hl => form_mem_of_mem_listing he hl)
    rw [htext]
    exact Text.split_intercalate rfl (by simp [hlisting]) hlines
  · intro hempty
    rw [hempty] at hhead
    exact absurd hhead (by decide)
  · intro hfields
    rw [hfields, head?_fields] at hhead
    exact absurd hhead (by decide)

/-- Keys that are fields of what is written, at two levels. -/
theorem outline_lists_the_tree_nested :
    let w : Walker := ⟨⟨[]⟩, fun _ => "", .default⟩
    let named (kind name : String) (rest : List (String × Json)) : Json :=
      .object (("kind", .string kind) :: ("name", .object [("text", .string name)]) :: rest)
    let body : Json := .object [("statements", .array [named "ClassDeclaration" "kind" []])]
    let ast : Json := .object [("statements", .array
      [named "ModuleDeclaration" "children" [("body", body)],
        named "VariableStatement" "syntax" []])]
    let root := (w.walk ast w.start).context
    (∀ e ∈ root.toDecl.listing root.name, '\n' ∉ e.key.toList) ∧
      Text.split '\n' (root.toJson.render .tree) =
        ["root [module]", "  children [module]", "    kind [property] ClassDeclaration",
          "  syntax [variable] VariableStatement"] ∧
      root.descendants = 3 := by
  intro w named body ast root
  have hkeys : ∀ e ∈ root.toDecl.listing root.name, '\n' ∉ e.key.toList := by
    have hlist : (root.toDecl.listing root.name).map Listed.key =
        ["root", "children", "kind", "syntax"] := by decide
    have hclear : ∀ key ∈ ["root", "children", "kind", "syntax"], '\n' ∉ key.toList := by decide
    intro e he
    refine hclear e.key ?_
    rw [← hlist]
    exact List.mem_map_of_mem he
  obtain ⟨-, -, -, -, -, -, hsplit, -, -⟩ := outline_lists_the_tree w ast w.start
  refine ⟨hkeys, (hsplit hkeys).trans ?_, by decide⟩
  decide

end Walker

end DeclTree
