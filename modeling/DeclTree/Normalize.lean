import DeclTree.KindTable
import DeclTree.Normal

/-!
# Normalizing a node

Positions, back references and flags are dropped from every object before its
fields are visited, and a kind that is a number gets its name. Everything else
stays as it is, in its order.
-/

namespace DeclTree

/-- Fields without meaning for the declared names. -/
def omittedFields : List String := ["pos", "end", "parent", "flags"]

namespace Normal

/-- Name the kind of a mapping, when it is a string or a number. -/
def nameKind (kinds : KindTable) (n : Normal) : Normal :=
  match n.get? "kind" with
  | some (.scalar (.string s)) => n.set "kind" (.string s)
  | some (.scalar (.number k)) => n.set "kind" (.string (kinds.numberName k))
  | _ => n

mutual

def normalize (kinds : KindTable) : Json → Normal
  | .null => .scalar .null
  | .bool b => .scalar (.bool b)
  | .number n => .scalar (.number n)
  | .string s => .scalar (.string s)
  | .array items => .sequence (normalizeAll kinds items)
  | .object fields => nameKind kinds (.mapping (normalizeFields kinds fields))

def normalizeAll (kinds : KindTable) : List Json → List Normal
  | [] => []
  | v :: rest => normalize kinds v :: normalizeAll kinds rest

def normalizeFields (kinds : KindTable) : List (String × Json) → List (String × Normal)
  | [] => []
  | (key, v) :: rest =>
    if omittedFields.contains key then normalizeFields kinds rest
    else (key, normalize kinds v) :: normalizeFields kinds rest

end

/-- The omitted fields that a node still mentions. No walk reads them: they are for a report on a
node, and of a normalized one there are none. -/
def omittedLeft (n : Normal) : List String := omittedFields.filter (n.mentions ·)

end Normal

end DeclTree
