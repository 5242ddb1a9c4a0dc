import DeclTree.Cst
import DeclTree.Json.Basic
import DeclTree.Text.Slice

/-!
# Concrete trees from JSON

A node is an array of its kind, 1 when it is named, the byte offsets where it
starts and stops and, when it has children, its fields and its children. A field
is an index or a path of indices.
-/

namespace DeclTree.Cst

def nat? : Json → Option Nat
  | .number (.int n) => if n < 0 then none else some n.toNat
  | _ => none

def path? : Json → Option Path
  | .array steps => steps.mapM nat?
  | v => (nat? v).map ([·])

def fields? : List (String × Json) → Option (List (String × Path))
  | [] => some []
  | (name, v) :: rest =>
    match path? v, fields? rest with
    | some p, some more => some ((name, p) :: more)
    | _, _ => none

def info? (source : ByteArray) (kind named start stop : Json) : Option Info := do
  let kind ← kind.string?
  let named ← nat? named
  let start ← nat? start
  let stop ← nat? stop
  some ⟨kind, named == 1, start, stop, Text.slice source start stop⟩

mutual

def ofJson? (source : ByteArray) : Json → Option Cst
  | .array [kind, named, start, stop] =>
    (info? source kind named start stop).map (.node () · [] [])
  | .array [kind, named, start, stop, .object fields, .array children] =>
    match info? source kind named start stop, fields? fields, ofJsonAll? source children with
    | some info, some fields, some children => some (.node () info fields children)
    | _, _, _ => none
  | _ => none

def ofJsonAll? (source : ByteArray) : List Json → Option (List Cst)
  | [] => some []
  | v :: rest =>
    match ofJson? source v, ofJsonAll? source rest with
    | some t, some ts => some (t :: ts)
    | _, _ => none

end

end DeclTree.Cst
