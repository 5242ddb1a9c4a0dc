import DeclTree.Text.Blank

/-!
# Modes of a pattern

Two flags decide how a pattern is read. With `x` it is verbose: blanks and comments
between its parts count for nothing. With `u` a character is a code point; without it
a byte, and nothing is allowed that could match half a code point.
-/

namespace DeclTree.Pattern

structure Mode where
  verbose : Bool
  unicode : Bool
  deriving DecidableEq, Repr

def Mode.start : Mode := ⟨false, true⟩

/-- What follows blanks and comments; a comment runs to the end of its line. -/
def afterFiller (inComment : Bool) : List Char → List Char
  | [] => []
  | c :: rest =>
    if inComment then afterFiller (c != '\n') rest
    else if c == '#' then afterFiller true rest
    else if Text.isBlank c then afterFiller false rest
    else c :: rest

/-- What is to be read next. -/
def Mode.skip (m : Mode) (cs : List Char) : List Char :=
  if m.verbose then afterFiller false cs else cs

/-- The character that a hyphen in a set is judged by. Blanks and one comment sign are passed over,
unless nothing follows them. -/
def Mode.peek? (m : Mode) (cs : List Char) : Option Char :=
  if m.verbose then
    let ahead := match cs.dropWhile Text.isBlank with
      | '#' :: rest => rest.dropWhile Text.isBlank
      | rest => rest
    ahead.head?.or cs.head?
  else cs.head?

/-- What a list of flags says about one of them; after a hyphen they are taken back. -/
def flagState? (flags : List Char) (flag : Char) : Option Bool :=
  if (flags.takeWhile (· != '-')).contains flag then some true
  else if flags.contains flag then some false
  else none

def Mode.withFlags (m : Mode) (flags : List Char) : Mode :=
  ⟨(flagState? flags 'x').getD m.verbose, (flagState? flags 'u').getD m.unicode⟩

example : (Mode.withFlags .start "ix-u".toList) = ⟨true, false⟩ := by decide

example : String.ofList (afterFiller false " # note\n b".toList) = "b" := by decide

end DeclTree.Pattern
