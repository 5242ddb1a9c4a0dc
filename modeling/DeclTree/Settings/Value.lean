import DeclTree.Number.Word
import DeclTree.Ordered

/-!
# Values of settings

What a settings layer assigns. `merge` lays one value over another: tables key by
key, at every depth; of any other two values the upper one is taken whole.
-/

namespace DeclTree.Settings

inductive Value where
  | text (s : String)
  | flag (b : Bool)
  | integer (n : Int)
  /-- A number that is not an integer. No setting takes one, so its value is not kept. -/
  | fraction
  | list (items : List Value)
  | table (entries : List (String × Value))
  deriving Repr, Inhabited

namespace Value

mutual

/-- Lay `upper` over `lower`. -/
def merge (lower : Value) : Value → Value
  | .table upper =>
    match lower with
    | .table entries => .table (mergeEntries entries upper)
    | _ => .table upper
  | upper => upper

/-- Lay the entries of a table over those of another. -/
def mergeEntries (lower : List (String × Value)) : List (String × Value) → List (String × Value)
  | [] => lower
  | (key, v) :: rest =>
    let v' := match Ordered.get? lower key with
      | some old => merge old v
      | none => v
    mergeEntries (Ordered.put lower key v') rest

end

/-- The value at the end of a path of keys, as a table. -/
def nest : List String → Value → Value
  | [], v => v
  | key :: rest, v => .table [(key, nest rest v)]

/-- An integer of 64 signed bits. -/
def signed? : Value → Option Int
  | .integer n => Word.signed? n
  | _ => none

/-- A natural number of 64 bits. -/
def unsigned? : Value → Option Nat
  | .integer n => Word.unsigned? n
  | _ => none

def text? : Value → Option String
  | .text s => some s
  | _ => none

end Value

end DeclTree.Settings
