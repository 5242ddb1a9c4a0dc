import DeclTree.Number.Binary64
import DeclTree.Number.Word
import DeclTree.Ordered

/-!
# JSON values

An object is its fields in document order. Nothing in the type forbids a
repeated key; `Json.DistinctKeys` says that there is none, and reading a text
never produces one. Look-ups take the first field of a name.
-/

namespace DeclTree

/-- A number is an integer of 64 bits, signed or not, or a finite double. -/
inductive Number where
  | int (n : Int)
  | float (x : Binary64)
  deriving DecidableEq, Repr

/-- The integer, when it is one of 64 signed bits. -/
def Number.signed? : Number → Option Int
  | .int n => Word.signed? n
  | .float _ => none

inductive Json where
  | null
  | bool (b : Bool)
  | number (n : Number)
  | string (s : String)
  | array (items : List Json)
  | object (fields : List (String × Json))
  deriving Repr, Inhabited

namespace Json

def ofNat (n : Nat) : Json := .number (.int n)

def ofInt (n : Int) : Json := .number (.int n)

def isNull : Json → Bool
  | .null => true
  | _ => false

def isObject : Json → Bool
  | .object _ => true
  | _ => false

/-- Neither an array nor an object. -/
def isScalar : Json → Bool
  | .array _ => false
  | .object _ => false
  | _ => true

def string? : Json → Option String
  | .string s => some s
  | _ => none

def array? : Json → Option (List Json)
  | .array items => some items
  | _ => none

def object? : Json → Option (List (String × Json))
  | .object fields => some fields
  | _ => none

def signed? : Json → Option Int
  | .number n => n.signed?
  | _ => none

/-- The value of a field, null or not; nothing for a value that is no object. -/
def get? (v : Json) (key : String) : Option Json :=
  match v with
  | .object fields => Ordered.get? fields key
  | _ => none

mutual

/-- No object, at any depth, has two fields of one name. -/
def DistinctKeys : Json → Prop
  | .array items => DistinctKeysAll items
  | .object fields => (Ordered.keys fields).Nodup ∧ DistinctKeysIn fields
  | _ => True

def DistinctKeysAll : List Json → Prop
  | [] => True
  | v :: rest => DistinctKeys v ∧ DistinctKeysAll rest

def DistinctKeysIn : List (String × Json) → Prop
  | [] => True
  | (_, v) :: rest => DistinctKeys v ∧ DistinctKeysIn rest

end

end Json

end DeclTree
