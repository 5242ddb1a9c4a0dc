import DeclTree.Pattern.Group
import DeclTree.Pattern.Set

/-!
# Patterns

Whether a text is a regular expression that can be turned into an automaton. Only its
form matters: groups and sets are closed, an operator has an operand, every escape is
known, no name stands twice, and nothing is nested too deep. The texts read here hold no
closing brace, so an opening one is never part of a pattern.

The height of a pattern counts its groups, sets, repetitions, sequences and
alternatives on the way to its deepest part.
-/

namespace DeclTree.Pattern

/-- One part of a sequence. Flags take no operator. -/
structure Part where
  height : Nat
  repeatable : Bool

/-- An open group: its mode, the heights of its finished alternatives, and the parts of the last one,
latest first. -/
structure Level where
  mode : Mode
  alternatives : List Nat
  parts : List Part

def Level.new (m : Mode) : Level := ⟨m, [], []⟩

def Level.push (l : Level) (height : Nat) : Level := { l with parts := ⟨height, true⟩ :: l.parts }

/-- A sequence of several parts is one level above them. -/
def sequenceHeight : List Part → Nat
  | [] => 0
  | [p] => p.height
  | ps => ps.foldl (fun h p => max h p.height) 0 + 1

def Level.alternative (l : Level) : Level :=
  { l with alternatives := sequenceHeight l.parts :: l.alternatives, parts := [] }

def Level.height (l : Level) : Nat :=
  match l.alternatives with
  | [] => sequenceHeight l.parts
  | hs => hs.foldl max (sequenceHeight l.parts) + 1

/-- Where the reader of a pattern stands. -/
structure State where
  level : Level
  outer : List Level
  /-- names of groups so far -/
  names : List (List Char)

def State.start : State := ⟨.new .start, [], []⟩

def State.push (s : State) (height : Nat) : State := { s with level := s.level.push height }

def State.enter (s : State) (m : Mode) : State := ⟨.new m, s.level :: s.outer, s.names⟩

def State.opened (s : State) : Group → Option State
  | .flags flags =>
    let l := s.level
    some { s with level :=
      { l with mode := l.mode.withFlags flags, parts := ⟨0, false⟩ :: l.parts } }
  | .plain flags => some (s.enter (s.level.mode.withFlags flags))
  | .named name =>
    if s.names.contains name then none
    else some { s.enter s.level.mode with names := name :: s.names }

def State.closed (s : State) : Option State :=
  match s.outer with
  | [] => none
  | l :: outer => some ⟨l.push (s.level.height + 1), outer, s.names⟩

/-- An operator after its operand. -/
def State.repeated (s : State) : Option State :=
  match s.level.parts with
  | ⟨h, true⟩ :: ps => some { s with level := { s.level with parts := ⟨h + 1, true⟩ :: ps } }
  | _ => none

/-- One part of a pattern. -/
def step? (s : State) (c : Char) (rest : List Char) : Option (State × List Char) :=
  let m := s.level.mode
  match c with
  | '(' => (group? m rest).bind fun (g, r) => (s.opened g).map (·, r)
  | ')' => s.closed.map (·, rest)
  | '|' => some ({ s with level := s.level.alternative }, rest)
  | '[' => (bracketed? m rest).map fun (h, r) => (s.push h, r)
  | '\x7b' => none
  | '\\' => (escape? m rest).map fun (_, r) => (s.push 0, r)
  | '.' => if m.unicode then some (s.push 0, rest) else none
  | c =>
    if c == '*' || c == '+' || c == '?' then
      s.repeated.map (·, if rest.head? == some '?' then rest.drop 1 else rest)
    else some (s.push 0, rest)

def run : Nat → State → List Char → Option State
  | 0, _, _ => none
  | steps + 1, s, cs =>
    match s.level.mode.skip cs with
    | [] => some s
    | c :: rest => (step? s c rest).bind fun (s', rest') => run steps s' rest'

/-- The height of the highest patterns. -/
def maxHeight : Nat := 250

/-- Whether a text without closing braces is a pattern. -/
def isPattern (cs : List Char) : Bool :=
  match run (cs.length + 1) .start cs with
  | some s => s.outer.isEmpty && s.level.height ≤ maxHeight
  | none => false

example : isPattern "a(b|[^x-z])*?".toList && isPattern "[[:alpha:]-]".toList := by decide +kernel

example : !isPattern "*".toList && !isPattern "(a".toList && !isPattern "[z-a]".toList := by
  decide +kernel

example : isPattern "(?-u)\\bK".toList && !isPattern "\\bK".toList && !isPattern "(?-u).".toList := by
  decide +kernel

end DeclTree.Pattern
