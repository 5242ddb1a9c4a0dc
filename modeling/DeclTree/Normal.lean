import DeclTree.Node

/-!
# Normal nodes

A normal node is a scalar, a sequence or a mapping whose fields keep their
order. It is what is left of a node once positions and back references are
dropped and kinds are named (`DeclTree.Normalize`); any JSON value can also be
taken as a normal node as it stands.

A field that is null is in the mapping, but a look-up does not see it.
-/

namespace DeclTree

inductive Scalar where
  | null
  | bool (b : Bool)
  | number (n : Number)
  | string (s : String)
  deriving DecidableEq, Repr

def Scalar.toJson : Scalar → Json
  | .null => .null
  | .bool b => .bool b
  | .number n => .number n
  | .string s => .string s

inductive Normal where
  | scalar (s : Scalar)
  | sequence (items : List Normal)
  | mapping (fields : List (String × Normal))
  deriving Repr, Inhabited

namespace Normal

def string (s : String) : Normal := .scalar (.string s)

mutual

/-- A JSON value as it stands. -/
def ofJson : Json → Normal
  | .null => .scalar .null
  | .bool b => .scalar (.bool b)
  | .number n => .scalar (.number n)
  | .string s => .scalar (.string s)
  | .array items => .sequence (ofJsonAll items)
  | .object fields => .mapping (ofJsonFields fields)

def ofJsonAll : List Json → List Normal
  | [] => []
  | v :: rest => ofJson v :: ofJsonAll rest

def ofJsonFields : List (String × Json) → List (String × Normal)
  | [] => []
  | (key, v) :: rest => (key, ofJson v) :: ofJsonFields rest

end

mutual

/-- The JSON value; of fields with one name it has the first position and the last value. -/
def toJson : Normal → Json
  | .scalar s => s.toJson
  | .sequence items => .array (toJsonAll items)
  | .mapping fields => .object (Ordered.ofList (toJsonFields fields))

def toJsonAll : List Normal → List Json
  | [] => []
  | n :: rest => toJson n :: toJsonAll rest

def toJsonFields : List (String × Normal) → List (String × Json)
  | [] => []
  | (key, n) :: rest => (key, toJson n) :: toJsonFields rest

end

mutual

/-- The fields written one by one, repeated names and all. -/
def verbatim : Normal → Json
  | .scalar s => s.toJson
  | .sequence items => .array (verbatimAll items)
  | .mapping fields => .object (verbatimFields fields)

def verbatimAll : List Normal → List Json
  | [] => []
  | n :: rest => verbatim n :: verbatimAll rest

def verbatimFields : List (String × Normal) → List (String × Json)
  | [] => []
  | (key, n) :: rest => (key, verbatim n) :: verbatimFields rest

end

def isNull : Normal → Bool
  | .scalar .null => true
  | _ => false

def string? : Normal → Option String
  | .scalar (.string s) => some s
  | _ => none

def sequence? : Normal → Option (List Normal)
  | .sequence items => some items
  | _ => none

def keys : Normal → List String
  | .mapping fields => Ordered.keys fields
  | _ => []

/-- A field that is present and not null. -/
def get? (n : Normal) (key : String) : Option Normal :=
  match n with
  | .mapping fields => (Ordered.get? fields key).filter (!·.isNull)
  | _ => none

/-- Replace a field where it stands, or append it. Nothing but a mapping has fields. -/
def set (n : Normal) (key : String) (value : Normal) : Normal :=
  match n with
  | .mapping fields => .mapping (Ordered.put fields key value)
  | n => n

def kindName? (n : Normal) : Option String := (n.get? "kind").bind string?

/-- Identifier text. A `text` of any shape hides `escapedText`. -/
def text? (n : Normal) : Option String :=
  match n.get? "text" with
  | some t => t.string?
  | none => ((n.get? "escapedText").bind string?).map unescapeUnderscores

mutual

/-- Whether a field of this name occurs at any depth. -/
def mentions (key : String) : Normal → Bool
  | .scalar _ => false
  | .sequence items => mentionsAll key items
  | .mapping fields => mentionsIn key fields

def mentionsAll (key : String) : List Normal → Bool
  | [] => false
  | n :: rest => mentions key n || mentionsAll key rest

def mentionsIn (key : String) : List (String × Normal) → Bool
  | [] => false
  | (k, n) :: rest => k == key || mentions key n || mentionsIn key rest

end

mutual

def decEq : (a b : Normal) → Decidable (a = b)
  | .scalar s, .scalar t =>
    if h : s = t then isTrue (by rw [h]) else isFalse (fun e => h (Normal.scalar.inj e))
  | .sequence xs, .sequence ys =>
    match decEqAll xs ys with
    | isTrue h => isTrue (by rw [h])
    | isFalse h => isFalse (fun e => h (Normal.sequence.inj e))
  | .mapping xs, .mapping ys =>
    match decEqFields xs ys with
    | isTrue h => isTrue (by rw [h])
    | isFalse h => isFalse (fun e => h (Normal.mapping.inj e))
  | .scalar _, .sequence _ => isFalse nofun
  | .scalar _, .mapping _ => isFalse nofun
  | .sequence _, .scalar _ => isFalse nofun
  | .sequence _, .mapping _ => isFalse nofun
  | .mapping _, .scalar _ => isFalse nofun
  | .mapping _, .sequence _ => isFalse nofun

def decEqAll : (xs ys : List Normal) → Decidable (xs = ys)
  | [], [] => isTrue rfl
  | [], _ :: _ => isFalse nofun
  | _ :: _, [] => isFalse nofun
  | x :: xs, y :: ys =>
    match decEq x y, decEqAll xs ys with
    | isTrue h, isTrue hs => isTrue (by rw [h, hs])
    | isFalse h, _ => isFalse (fun e => h (List.cons.inj e).1)
    | _, isFalse hs => isFalse (fun e => hs (List.cons.inj e).2)

def decEqFields : (xs ys : List (String × Normal)) → Decidable (xs = ys)
  | [], [] => isTrue rfl
  | [], _ :: _ => isFalse nofun
  | _ :: _, [] => isFalse nofun
  | (k, x) :: xs, (l, y) :: ys =>
    if hk : k = l then
      match decEq x y, decEqFields xs ys with
      | isTrue h, isTrue hs => isTrue (by rw [hk, h, hs])
      | isFalse h, _ => isFalse (fun e => h (Prod.mk.inj (List.cons.inj e).1).2)
      | _, isFalse hs => isFalse (fun e => hs (List.cons.inj e).2)
    else isFalse (fun e => hk (Prod.mk.inj (List.cons.inj e).1).1)

end

instance : DecidableEq Normal := decEq

end Normal

end DeclTree
