import Orchestrator.Text.Blank
import Orchestrator.Text.Case
import Orchestrator.Text.Category
import Orchestrator.Text.WordClass

/-!
Search patterns: regular expressions over characters, without backward references and without
look-around other than anchors.
-/

namespace Orchestrator

namespace Pattern

/-- A set of characters. -/
inductive CharClass where
  | range (first last : Nat)
  | digit
  | blank
  | word
  /-- The characters of the categories with these short names. -/
  | category (names : List String)
  | complement (inner : CharClass)
  | union (parts : List CharClass)
  | both (left right : CharClass)
  | without (left right : CharClass)
  | either (left right : CharClass)
  /-- The characters with a case variant in the set. -/
  | anyCase (inner : CharClass)
  deriving Repr, Inhabited

/-- The code points that a run of the case map sends to `n`. -/
def foldSource? (n : Nat) (run : Text.CaseRun) : Option Nat :=
  let (first, last, stride, offset) := run
  let source := ((n : Int) - offset).toNat
  if first ≤ source ∧ source ≤ last ∧ (source - first) % stride = 0 then some source else none

/-- The characters that differ from a character at most in case. -/
def caseVariants (c : Char) : List Char :=
  let folded := Text.foldChar c
  folded :: (Text.foldRuns.toList.filterMap (foldSource? folded.toNat)).map Char.ofNat

namespace CharClass

mutual

/-- Whether a character is in the set. -/
def contains : CharClass → Char → Bool
  | range first last, c => first ≤ c.toNat && c.toNat ≤ last
  | digit, c => Text.isDigit c
  | blank, c => Text.isBlank c
  | word, c => Text.isWord c
  | category names, c => names.contains (Text.category c)
  | complement inner, c => !contains inner c
  | union parts, c => anyContains parts c
  | both left right, c => contains left c && contains right c
  | without left right, c => contains left c && !contains right c
  | either left right, c => contains left c != contains right c
  | anyCase inner, c => (caseVariants c).any fun d => contains inner d

/-- Whether a character is in one of the sets. -/
def anyContains : List CharClass → Char → Bool
  | [], _ => false
  | part :: rest, c => contains part c || anyContains rest c

end

def single (c : Char) : CharClass := range c.toNat c.toNat

/-- All characters but the line feed. -/
def notNewline : CharClass := complement (single '\n')

def all : CharClass := range 0 0x10FFFF

end CharClass

/-- A condition on a place between characters. -/
inductive Anchor where
  | textStart
  | textEnd
  | lineStart
  | lineEnd
  /-- Line ends are also carriage returns, alone or before a line feed. -/
  | lineStartCrlf
  | lineEndCrlf
  | wordBoundary
  | notWordBoundary
  | wordStart
  | wordEnd
  | wordStartHalf
  | wordEndHalf
  deriving DecidableEq, Repr, Inhabited

namespace Anchor

/-- Whether the condition holds between two characters, either of which may be missing. -/
def holds (a : Anchor) (before after : Option Char) : Bool :=
  let left := before.any Text.isWord
  let right := after.any Text.isWord
  match a with
  | textStart => before.isNone
  | textEnd => after.isNone
  | lineStart => before.isNone || before == some '\n'
  | lineEnd => after.isNone || after == some '\n'
  | lineStartCrlf =>
    before.isNone || before == some '\n' || (before == some '\r' && after != some '\n')
  | lineEndCrlf =>
    after.isNone || after == some '\r' || (after == some '\n' && before != some '\r')
  | wordBoundary => left != right
  | notWordBoundary => left == right
  | wordStart => !left && right
  | wordEnd => left && !right
  | wordStartHalf => !left
  | wordEndHalf => !right

end Anchor

end Pattern

/-- A search pattern. Of two ways to match, an alternative prefers its left side, and a repetition
prefers more rounds where it is greedy and fewer where it is not. -/
inductive Pattern where
  | empty
  | char (c : Pattern.CharClass)
  | anchor (a : Pattern.Anchor)
  | seq (first second : Pattern)
  | alt (left right : Pattern)
  | rep (inner : Pattern) (least : Nat) (most : Option Nat) (greedy : Bool)
  | group (index : Nat) (inner : Pattern)
  deriving Repr, Inhabited

namespace Pattern

/-- Whether the pattern can match without taking a character. -/
def matchesEmpty : Pattern → Bool
  | empty => true
  | char _ => false
  | anchor _ => true
  | seq first second => first.matchesEmpty && second.matchesEmpty
  | alt left right => left.matchesEmpty || right.matchesEmpty
  | rep inner least _ _ => least == 0 || inner.matchesEmpty
  | group _ inner => inner.matchesEmpty

end Pattern

end Orchestrator
