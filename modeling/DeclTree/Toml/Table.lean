import DeclTree.Settings.Value

/-!
# Tables of a TOML document under construction

A table is implicit when only a longer header or a dotted key mentions it, and
dotted when a dotted key made it. A header may complete an implicit table that is
not dotted; a dotted key may only extend tables that dotted keys made. Every other
second definition is refused.
-/

namespace DeclTree.Toml

open Settings (Value)

structure Origin where
  implicit : Bool
  dotted : Bool
  deriving DecidableEq, Repr

/-- Made by a header of its own. -/
def Origin.header : Origin := ⟨false, false⟩

inductive Item where
  | value (v : Value)
  | table (origin : Origin) (entries : List (String × Item))
  /-- an array of tables, last first -/
  | tables (elements : List (List (String × Item)))

abbrev Entries := List (String × Item)

/-- Change the table at a path, making missing tables on the way, and return a result. -/
def modifyAt {α : Type} (dotted : Bool) (f : Origin → Entries → Option (Entries × α)) :
    List String → Origin → Entries → Option (Entries × α)
  | [], origin, entries => f origin entries
  | key :: rest, _, entries =>
    match Ordered.get? entries key with
    | none =>
      let origin : Origin := ⟨true, dotted⟩
      (modifyAt dotted f rest origin []).map fun (inner, a) =>
        (entries ++ [(key, .table origin inner)], a)
    | some (.table origin inner) =>
      if dotted && !origin.implicit then none
      else
        (modifyAt dotted f rest origin inner).map fun (inner, a) =>
          (Ordered.put entries key (.table origin inner), a)
    | some (.tables (last :: before)) =>
      (modifyAt dotted f rest .header last).map fun (inner, a) =>
        (Ordered.put entries key (.tables (inner :: before)), a)
    | some _ => none

/-- Assign a value to a dotted key whose last part is `key`. -/
def assign (entries : Entries) (path : List String) (key : String) (v : Value) : Option Entries :=
  let insert (origin : Origin) (inner : Entries) : Option (Entries × Unit) :=
    if origin.dotted == path.isEmpty || (Ordered.get? inner key).isSome then none
    else some (inner ++ [(key, .value v)], ())
  (modifyAt true insert path .header entries).map (·.1)

/-- Take out an implicit table so that a header can complete it; an absent one is empty. -/
def takeTable (root : Entries) (path : List String) (key : String) : Option (Entries × Entries) :=
  modifyAt false
    (fun _ inner =>
      match Ordered.get? inner key with
      | none => some (inner, [])
      | some (.table origin entries) =>
        if origin.implicit && !origin.dotted then
          some (inner.filter (·.1 != key), entries)
        else none
      | some _ => none)
    path .header root

/-- Put a completed table under its header. -/
def putTable (root : Entries) (path : List String) (key : String) (entries : Entries) :
    Option Entries :=
  (modifyAt false
    (fun _ inner => some (Ordered.put inner key (.table .header entries), ()))
    path .header root).map (·.1)

/-- Whether a header of an array of tables may stand here. -/
def mayAppend (root : Entries) (path : List String) (key : String) : Option Entries :=
  (modifyAt false
    (fun _ inner =>
      match Ordered.get? inner key with
      | none => some (inner ++ [(key, .tables [])], ())
      | some (.tables _) => some (inner, ())
      | some _ => none)
    path .header root).map (·.1)

/-- Append a completed table to an array of tables. -/
def appendTable (root : Entries) (path : List String) (key : String) (entries : Entries) :
    Option Entries :=
  (modifyAt false
    (fun _ inner =>
      match Ordered.get? inner key with
      | some (.tables elements) =>
        some (Ordered.put inner key (.tables (entries :: elements)), ())
      | _ => none)
    path .header root).map (·.1)

mutual

def Item.toValue : Item → Value
  | .value v => v
  | .table _ entries => .table (entriesValue entries)
  | .tables elements => .list (elementValues elements).reverse

def entriesValue : List (String × Item) → List (String × Value)
  | [] => []
  | (key, item) :: rest => (key, item.toValue) :: entriesValue rest

def elementValues : List (List (String × Item)) → List Value
  | [] => []
  | entries :: rest => .table (entriesValue entries) :: elementValues rest

end

end DeclTree.Toml
