import DeclTree.Proofs.NormalFields
import DeclTree.SourceText

/-!
# What the text of a node depends on

The text of a mapping is made from the name of its kind, its own text and what a few of
its parts show (`mappingText_congr`). The parts are those that some form of `compound`
reads; kinds, texts and omitted fields are not among them (`readKeys_carried`).

After normalizing, each of these comes from the field of the same name before it: the
parts from `Json.field?` (`get?_normalize`), the kind from the kind table
(`kindName?_normalize`), the text from `text` or `escapedText` (`text?_normalize`).
-/

namespace DeclTree

namespace SourceText

/-- What the text of a node may show of one of its parts. -/
structure Shown where
  text : String
  items : List String
  /-- the string that the part is, if it is one -/
  word : Option String
  /-- whether it stands in parentheses before `[]` -/
  loose : Bool
  deriving DecidableEq

def shown (p : Printed) : Shown := ⟨p.text, p.items, p.node.string?, needsParens p.node⟩

namespace Parts

def shown? (parts : Parts) (key : String) : Option Shown := (get? parts key).map shown

theorem isSome_get? (parts : Parts) (key : String) :
    (get? parts key).isSome = (shown? parts key).isSome := by
  rw [shown?, Option.isSome_map]

theorem text_eq (parts : Parts) (key : String) :
    text parts key = ((shown? parts key).map Shown.text).getD "" := by
  rw [text, shown?]
  cases get? parts key <;> rfl

theorem items_eq (parts : Parts) (key : String) :
    items parts key = ((shown? parts key).map Shown.items).getD [] := by
  rw [items, shown?]
  cases get? parts key <;> rfl

theorem word_eq (parts : Parts) (key : String) :
    (get? parts key).bind (·.node.string?) = (shown? parts key).bind Shown.word := by
  rw [shown?]
  cases get? parts key <;> rfl

end Parts

/-- The parts that a piece reads. -/
def Piece.reads : Piece → List String
  | .word _ => []
  | .part key | .led _ key | .mark key _ | .list key _ | .angled key | .braced key
  | .operator key => [key]

/-- The parts that a form reads. -/
def Form.reads : Form → List String
  | .keyword _ | .own | .quoted => []
  | .reference => ["typeName", "expression", "typeArguments"]
  | .array => ["elementType"]
  | .pieces ps => ps.flatMap Piece.reads

/-- All parts that some form reads. -/
def readKeys : List String := compound.flatMap (·.2.reads)

theorem reads_subset_readKeys {kind : String} {form : Form} (h : form? kind = some form) :
    ∀ key ∈ form.reads, key ∈ readKeys := by
  intro key hkey
  rw [form?] at h
  cases hk : keyword? kind with
  | some s =>
    rw [hk] at h
    cases h
    cases hkey
  | none =>
    rw [hk] at h
    exact List.mem_flatMap.mpr ⟨_, Ordered.mem_of_get? h, hkey⟩

theorem pieceText_congr {parts parts' : Parts} (piece : Piece)
    (h : ∀ key ∈ piece.reads, Parts.shown? parts' key = Parts.shown? parts key) :
    pieceText parts' piece = pieceText parts piece := by
  cases piece with
  | word s => rfl
  | part key => simp only [pieceText, Parts.text_eq, h key (List.mem_singleton.mpr rfl)]
  | led lead key =>
    simp only [pieceText, Parts.isSome_get?, Parts.text_eq, h key (List.mem_singleton.mpr rfl)]
  | mark key s => simp only [pieceText, Parts.isSome_get?, h key (List.mem_singleton.mpr rfl)]
  | list key sep => simp only [pieceText, Parts.items_eq, h key (List.mem_singleton.mpr rfl)]
  | angled key => simp only [pieceText, Parts.items_eq, h key (List.mem_singleton.mpr rfl)]
  | braced key => simp only [pieceText, Parts.items_eq, h key (List.mem_singleton.mpr rfl)]
  | operator key => simp only [pieceText, Parts.word_eq, h key (List.mem_singleton.mpr rfl)]

theorem eq_of_shown {o o' : Option Printed} (h : o'.map shown = o.map shown) :
    (o' = none ∧ o = none) ∨ ∃ p p', o' = some p' ∧ o = some p ∧ shown p' = shown p := by
  cases o' with
  | none =>
    cases o with
    | none => exact Or.inl ⟨rfl, rfl⟩
    | some p => cases h
  | some p' =>
    cases o with
    | none => cases h
    | some p => exact Or.inr ⟨p, p', rfl, rfl, Option.some.inj h⟩

/-- Nodes with one kind, one text and parts that show the same have the same text. -/
theorem mappingText_congr {node node' : Normal} {parts parts' : Parts}
    (hkind : node'.kindName? = node.kindName?) (htext : node'.text? = node.text?)
    (hparts : ∀ key ∈ readKeys, Parts.shown? parts' key = Parts.shown? parts key) :
    mappingText node' parts' = mappingText node parts := by
  have hplain : ∀ kind, plainText node' kind = plainText node kind := by
    intro kind
    rw [plainText, plainText, htext]
  simp only [mappingText, hkind, htext, hplain]
  cases hform : form? ((node.kindName?).getD "") with
  | none => rfl
  | some form =>
    have hreads : ∀ key ∈ form.reads, Parts.shown? parts' key = Parts.shown? parts key :=
      fun key hkey => hparts key (reads_subset_readKeys hform key hkey)
    cases form with
    | keyword s => rfl
    | own => rfl
    | quoted => rfl
    | reference =>
      have htarget : ((Parts.get? parts' "typeName").or (Parts.get? parts' "expression")).map shown =
          ((Parts.get? parts "typeName").or (Parts.get? parts "expression")).map shown := by
        rw [Option.map_or, Option.map_or]
        have hname := hreads "typeName" (by decide)
        have hexpression := hreads "expression" (by decide)
        simp only [Parts.shown?] at hname hexpression
        rw [hname, hexpression]
      have harguments : pieceText parts' (.angled "typeArguments") =
          pieceText parts (.angled "typeArguments") := by
        refine pieceText_congr _ ?_
        intro key hkey
        rw [List.mem_singleton.mp hkey]
        exact hreads "typeArguments" (by decide)
      rcases eq_of_shown htarget with ⟨hnone', hnone⟩ | ⟨p, p', hsome', hsome, hshown⟩
      · simp only [hnone', hnone]
      · have hp : p'.text = p.text := congrArg Shown.text hshown
        simp only [hsome', hsome, harguments, hp]
    | array =>
      rcases eq_of_shown (hreads "elementType" (by decide)) with
        ⟨hnone', hnone⟩ | ⟨p, p', hsome', hsome, hshown⟩
      · simp only [hnone', hnone]
      · have hp : p'.text = p.text := congrArg Shown.text hshown
        have hloose : needsParens p'.node = needsParens p.node := congrArg Shown.loose hshown
        simp only [hsome', hsome, hp, hloose]
    | pieces ps =>
      have hpieces : ∀ piece ∈ ps, pieceText parts' piece = pieceText parts piece := by
        intro piece hpiece
        refine pieceText_congr piece ?_
        intro key hkey
        exact hreads key (List.mem_flatMap.mpr ⟨piece, hpiece, hkey⟩)
      exact congrArg String.join (List.map_congr_left hpieces)

@[simp] theorem node_print (n : Normal) : (print n).node = n := by
  cases n <;> rfl

theorem printAll_eq (items : List Normal) : printAll items = items.map Normal.sourceText := by
  induction items with
  | nil => rfl
  | cons n rest ih =>
    rw [printAll, ih]
    rfl

theorem printFields_eq (fields : List (String × Normal)) :
    printFields fields = Ordered.mapValues print fields := by
  induction fields with
  | nil => rfl
  | cons e rest ih =>
    obtain ⟨key, n⟩ := e
    rw [printFields, ih]
    rfl

/-- The printed parts of a node; only a mapping has parts. -/
def partsOf : Normal → Parts
  | .mapping fields => printFields fields
  | _ => []

theorem get?_partsOf (n : Normal) (key : String) :
    Parts.get? (partsOf n) key = (n.get? key).map print := by
  cases n with
  | mapping fields =>
    rw [partsOf, Parts.get?, printFields_eq, Ordered.get?_mapValues, Normal.get?]
    cases Ordered.get? fields key with
    | none => rfl
    | some part =>
      simp only [Option.map_some, Option.filter_some, node_print]
      cases part.isNull <;> rfl
  | _ => rfl

end SourceText

namespace Normal

variable {kinds : KindTable}

theorem normalizeAll_eq (items : List Json) :
    normalizeAll kinds items = items.map (normalize kinds) := by
  induction items with
  | nil => rfl
  | cons v rest ih => rw [normalizeAll, ih, List.map_cons]

theorem isNull_normalize (v : Json) : (normalize kinds v).isNull = v.isNull := by
  cases v with
  | object fields =>
    obtain ⟨fields', h⟩ := @nameKind_mapping kinds (normalizeFields kinds fields)
    rw [normalize, h]
    rfl
  | _ => rfl

theorem string?_normalize (v : Json) : (normalize kinds v).string? = v.string? := by
  cases v with
  | object fields =>
    obtain ⟨fields', h⟩ := @nameKind_mapping kinds (normalizeFields kinds fields)
    rw [normalize, h]
    rfl
  | _ => rfl

theorem get?_nameKind (n : Normal) {key : String} (hkey : key ≠ "kind") :
    (nameKind kinds n).get? key = n.get? key := by
  have hset : ∀ value, (n.set "kind" value).get? key = n.get? key := by
    intro value
    cases n with
    | mapping fields =>
      rw [set, get?, get?, Ordered.get?_put, if_neg (Ne.symm hkey)]
    | _ => rfl
  rw [nameKind]
  split
  · exact hset _
  · exact hset _
  · rfl

theorem get?_mapping_normalizeFields (fields : List (String × Json)) {key : String}
    (hkept : isKept key = true) :
    (mapping (normalizeFields kinds fields)).get? key =
      ((Json.object fields).field? key).map (normalize kinds) := by
  rw [get?, get?_normalizeFields fields hkept, Json.field?, Json.get?]
  cases Ordered.get? fields key with
  | none => rfl
  | some u =>
    rw [Option.map_some, Option.filter_some, Option.filter_some, isNull_normalize]
    cases u.isNull <;> rfl

/-- A look-up in a normalized node sees the field of the node, normalized. -/
theorem get?_normalize (v : Json) {key : String} (hkept : isKept key = true)
    (hkey : key ≠ "kind") :
    (normalize kinds v).get? key = (v.field? key).map (normalize kinds) := by
  cases v with
  | object fields =>
    rw [normalize, get?_nameKind _ hkey]
    exact get?_mapping_normalizeFields fields hkept
  | _ => rfl

theorem kindName?_set (fields : List (String × Normal)) (s : String) :
    ((mapping fields).set "kind" (.string s)).kindName? = some s := by
  rw [set, kindName?, get?, Ordered.get?_put, if_pos rfl]
  rfl

/-- The kind of a normalized node is the name that the table has for its kind. -/
theorem kindName?_normalize (v : Json) :
    (normalize kinds v).kindName? = (v.kind?).bind kinds.kindName? := by
  cases v with
  | object fields =>
    have hget : (mapping (normalizeFields kinds fields)).get? "kind" =
        ((Json.object fields).kind?).map (normalize kinds) :=
      get?_mapping_normalizeFields fields (by decide)
    rw [normalize]
    cases hk : (Json.object fields).kind? with
    | none =>
      rw [hk] at hget
      simp only [nameKind, hget, Option.map_none, kindName?, Option.bind_none]
    | some k =>
      rw [hk] at hget
      cases k with
      | string s => simp only [nameKind, hget, Option.map_some, normalize, kindName?_set]; rfl
      | number n => simp only [nameKind, hget, Option.map_some, normalize, kindName?_set]; rfl
      | object inner =>
        obtain ⟨inner', hinner⟩ := @nameKind_mapping kinds (normalizeFields kinds inner)
        rw [Option.map_some, normalize, hinner] at hget
        simp only [nameKind, hget, kindName?]
        rfl
      | _ =>
        simp only [nameKind, hget, Option.map_some, normalize, kindName?]
        rfl
  | _ => rfl

end Normal

/-- The text of a node once it is normalized. Unlike `Json.text?` it may be empty, and a `text`
of any other shape hides `escapedText`. -/
def Json.writtenText? (v : Json) : Option String :=
  match v.field? "text" with
  | some t => t.string?
  | none => ((v.field? "escapedText").bind string?).map unescapeUnderscores

theorem Normal.text?_normalize (kinds : KindTable) (v : Json) :
    (normalize kinds v).text? = v.writtenText? := by
  have hstring : ∀ o : Option Json, (o.map (normalize kinds)).bind string? = o.bind Json.string? := by
    intro o
    cases o with
    | none => rfl
    | some u => exact string?_normalize u
  rw [text?, Json.writtenText?, get?_normalize v (by decide) (by decide),
    get?_normalize v (by decide) (by decide), hstring]
  cases v.field? "text" with
  | none => rfl
  | some t => exact string?_normalize t

namespace SourceText

/-- A field that normalizing neither leaves out nor renames. -/
def isCarried (key : String) : Bool := Normal.isKept key && key != "kind"

theorem readKeys_carried : ∀ key ∈ readKeys, isCarried key = true := by decide

variable {kinds : KindTable}

/-- The parts of a normalized node are its fields, normalized and printed. -/
theorem get?_partsOf_normalize (v : Json) {key : String} (hkey : isCarried key = true) :
    Parts.get? (partsOf (.normalize kinds v)) key =
      (v.field? key).map fun u => print (.normalize kinds u) := by
  simp only [isCarried, Bool.and_eq_true, bne_iff_ne, ne_eq] at hkey
  obtain ⟨hkept, hne⟩ := hkey
  rw [get?_partsOf, Normal.get?_normalize v hkept hne, Option.map_map]
  rfl

theorem print_normalize_object (fields : List (String × Json)) :
    print (.normalize kinds (.object fields)) =
      ⟨.normalize kinds (.object fields),
        mappingText (.normalize kinds (.object fields)) (partsOf (.normalize kinds (.object fields))),
        []⟩ := by
  obtain ⟨fields', h⟩ :=
    @Normal.nameKind_mapping kinds (Normal.normalizeFields kinds fields)
  rw [Normal.normalize, h]
  rfl

end SourceText

end DeclTree
