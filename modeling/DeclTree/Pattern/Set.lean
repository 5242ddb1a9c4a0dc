import DeclTree.Pattern.Escape

/-!
# Sets of characters in a pattern

A set stands in brackets. Its members are characters, ascending ranges, classes and
other sets; `&&`, `--` and `~~` combine what stands before and after them, from the
left. Reading a set gives its height: a set, several members together and an operator
are one level each above what they hold.
-/

namespace DeclTree.Pattern

/-! ## Members -/

/-- One member of a set, and the character that it is, if it is a single one. A byte set holds no
code point beyond ASCII. -/
def member? (m : Mode) : List Char → Option (Option Char × List Char)
  | [] => none
  | '\\' :: rest =>
    match escape? m rest with
    | some (.literal c, r) => if m.unicode || c.toNat < 0x80 then some (some c, r) else none
    | some (.several, r) => some (none, r)
    | _ => none
  | c :: rest => if m.unicode || c.toNat < 0x80 then some (some c, rest) else none

/-- A member or an ascending range of two. A hyphen before another one or before the end of the set
makes no range. -/
def range? (m : Mode) (cs : List Char) : Option (List Char) :=
  match member? m cs with
  | none => none
  | some (first, rest) =>
    match m.skip rest with
    | '-' :: more =>
      if m.peek? more == some ']' || m.peek? more == some '-' then some ('-' :: more)
      else
        match first, member? m (m.skip more) with
        | some a, some (some b, rest') => if a ≤ b then some rest' else none
        | _, _ => none
    | rest' => some rest'

def asciiClasses : List String := [
  "alnum", "alpha", "ascii", "blank", "cntrl", "digit", "graph", "lower", "print", "punct", "space",
  "upper", "word", "xdigit"]

/-- A named class such as `[:alpha:]` after its bracket, and whether it is negated. -/
def asciiClass? : List Char → Option (Bool × List Char)
  | ':' :: cs =>
    let negated := cs.head? == some '^'
    let cs := if negated then cs.drop 1 else cs
    let name := cs.takeWhile (· != ':')
    match cs.dropWhile (· != ':') with
    | ':' :: ']' :: rest =>
      if asciiClasses.contains (String.ofList name) then some (negated, rest) else none
    | _ => none
  | _ => none

/-! ## Brackets -/

/-- Members between two operators: how many there are, and the height of the highest. -/
structure Members where
  count : Nat
  height : Nat

def Members.none : Members := ⟨0, 0⟩

def Members.add (ms : Members) (height : Nat) : Members := ⟨ms.count + 1, max ms.height height⟩

def Members.total (ms : Members) : Nat := if ms.count ≤ 1 then ms.height else ms.height + 1

/-- An open bracket: the height of what stands before the last operator, and the members since. -/
structure Bracket where
  left : Option Nat
  members : Members

def Bracket.new : Bracket := ⟨.none, .none⟩

def Bracket.add (b : Bracket) (height : Nat) : Bracket := { b with members := b.members.add height }

/-- The height of what the bracket holds. -/
def Bracket.total (b : Bracket) : Nat :=
  match b.left with
  | some left => max left b.members.total + 1
  | .none => b.members.total

def Bracket.operator (b : Bracket) : Bracket := ⟨some b.total, .none⟩

/-- Hyphens that open a set are members. -/
def hyphens (m : Mode) : Nat → Bracket → List Char → Bracket × List Char
  | 0, b, cs => (b, cs)
  | steps + 1, b, cs =>
    match m.skip cs with
    | '-' :: rest => hyphens m steps (b.add 0) rest
    | rest => (b, rest)

/-- The start of a set after its bracket: a caret, then hyphens or a closing bracket as members. The
complement of a byte set is refused. -/
def opening? (m : Mode) (cs : List Char) : Option (Bracket × List Char) :=
  let (negated, cs) := match m.skip cs with
    | '^' :: rest => (true, rest)
    | rest => (false, rest)
  if negated && !m.unicode then none
  else
    match hyphens m (cs.length + 1) .new cs with
    | (b, ']' :: rest) => if b.members.count == 0 then some (b.add 0, rest) else some (b, ']' :: rest)
    | started => some started

/-- The rest of a set inside its open brackets, with the height of the whole. -/
def set? (m : Mode) : Nat → Bracket → List Bracket → List Char → Option (Nat × List Char)
  | 0, _, _, _ => none
  | steps + 1, b, outer, cs =>
    match m.skip cs with
    | [] => none
    | '[' :: rest =>
      match asciiClass? rest with
      | some (negated, rest') =>
        if negated && !m.unicode then none else set? m steps (b.add 0) outer rest'
      | none =>
        match opening? m rest with
        | some (inner, rest') => set? m steps inner (b :: outer) rest'
        | none => none
    | ']' :: rest =>
      match outer with
      | [] => some (b.total + 1, rest)
      | parent :: outer' => set? m steps (parent.add (b.total + 1)) outer' rest
    | '&' :: '&' :: rest => set? m steps b.operator outer rest
    | '-' :: '-' :: rest => set? m steps b.operator outer rest
    | '~' :: '~' :: rest => set? m steps b.operator outer rest
    | rest =>
      match range? m rest with
      | some rest' => set? m steps (b.add 0) outer rest'
      | none => none

/-- A set after its bracket. -/
def bracketed? (m : Mode) (cs : List Char) : Option (Nat × List Char) :=
  match opening? m cs with
  | some (b, rest) => set? m (rest.length + 1) b [] rest
  | none => none

example : ((bracketed? .start "a[bc]]d".toList).map fun (h, rest) => (h, String.ofList rest)) =
    some (4, "d") := by decide

example : (bracketed? .start "]".toList).isNone && (bracketed? .start "z-a]".toList).isNone := by
  decide

end DeclTree.Pattern
