import DeclTree.Pattern.Mode
import DeclTree.Text.Numeral

/-!
# Groups in a pattern

A group may have a name, or flags for itself; flags alone hold for what follows them.
Looking ahead or behind is refused.
-/

namespace DeclTree.Pattern

inductive Group where
  /-- flags for what follows -/
  | flags (flags : List Char)
  /-- an opened group with flags of its own -/
  | plain (flags : List Char)
  | named (name : List Char)

/-- Flags, each at most once, and a hyphen at most once and not last. -/
def areFlags (cs : List Char) : Bool :=
  cs.all ("imsUuRx-".toList.contains ·) && cs.eraseDups.length == cs.length &&
    cs.getLast? != some '-'

def isGroupName (cs : List Char) : Bool :=
  match cs with
  | [] => false
  | c :: rest =>
    (c == '_' || Text.isAlphabetic c) &&
      rest.all fun c => c == '_' || c == '.' || c == '[' || c == ']' || Text.isAlphanumeric c

def groupName? (cs : List Char) : Option (Group × List Char) :=
  let name := cs.takeWhile (· != '>')
  match cs.dropWhile (· != '>') with
  | '>' :: rest => if isGroupName name then some (.named name, rest) else none
  | _ => none

/-- A group after its parenthesis. -/
def group? (m : Mode) (cs : List Char) : Option (Group × List Char) :=
  match m.skip cs with
  | '?' :: '<' :: '=' :: _ => none
  | '?' :: '<' :: '!' :: _ => none
  | '?' :: '<' :: rest => groupName? rest
  | '?' :: 'P' :: '<' :: rest => groupName? rest
  | '?' :: rest =>
    let flags := rest.takeWhile fun c => c != ':' && c != ')'
    match rest.dropWhile fun c => c != ':' && c != ')' with
    | ':' :: rest' => if areFlags flags then some (.plain flags, rest') else none
    | ')' :: rest' => if areFlags flags && !flags.isEmpty then some (.flags flags, rest') else none
    | _ => none
  | rest => some (.plain [], rest)

end DeclTree.Pattern
