/-!
A YAML text as it is read, with the line and the column that the reading has reached.
-/

namespace Orchestrator.Yaml

/-- Whether a character ends a line. -/
def isBreak (c : Char) : Bool :=
  c = '\n' || c = '\r' || c.toNat == 0x85 || c.toNat == 0x2028 || c.toNat == 0x2029

/-- Whether a character is a space or a tab. -/
def isBlank (c : Char) : Bool := c = ' ' || c = '\t'

/-- Whether a character parts words. -/
def isGap (c : Char) : Bool := isBlank c || isBreak c

/-- Whether a character may stand in a text at all. -/
def isAllowed (c : Char) : Bool :=
  let n := c.toNat
  n == 0x09 || n == 0x0A || n == 0x0D || (0x20 ≤ n && n ≤ 0x7E) || n == 0x85 ||
    (0xA0 ≤ n && n ≤ 0xD7FF) || (0xE000 ≤ n && n ≤ 0xFFFD) || 0x10000 ≤ n

/-- Whether a character may stand in a name of an anchor, a handle or a directive. -/
def isNameChar (c : Char) : Bool := c.isAlphanum || c = '_' || c = '-'

/-- Whether a gap or the end comes next. -/
def endsWord : List Char → Bool
  | [] => true
  | c :: _ => isGap c

/-- Whether a line break or the end comes next. -/
def endsLine : List Char → Bool
  | [] => true
  | c :: _ => isBreak c

/-- What is left of a text, and where that begins. -/
structure Cursor where
  rest : List Char
  index : Nat
  line : Nat
  column : Nat
  deriving Repr, Inhabited

namespace Cursor

def start (cs : List Char) : Cursor := ⟨cs, 0, 0, 0⟩

/-- Goes on by a number of characters of the same line. -/
def advance (c : Cursor) (n : Nat) : Cursor :=
  { c with rest := c.rest.drop n, index := c.index + n, column := c.column + n }

/-- Takes the characters of the line as long as they satisfy `p`. -/
def takeWhile (p : Char → Bool) (c : Cursor) : List Char × Cursor :=
  let taken := c.rest.takeWhile p
  (taken, c.advance taken.length)

def dropWhile (p : Char → Bool) (c : Cursor) : Cursor := (c.takeWhile p).2

/-- The beginning of the next line. -/
def newLine (c : Cursor) (n : Nat) : Cursor :=
  { rest := c.rest.drop n, index := c.index + n, line := c.line + 1, column := 0 }

/-- Takes a line break, and gives the character that it counts as. -/
def lineBreak? (c : Cursor) : Option (Char × Cursor) :=
  match c.rest with
  | '\r' :: '\n' :: _ => some ('\n', c.newLine 2)
  | b :: _ =>
    if !isBreak b then none
    else some (if b.toNat == 0x2028 || b.toNat == 0x2029 then b else '\n', c.newLine 1)
  | [] => none

/-- Takes one given character. -/
def expect? (wanted : Char) (c : Cursor) : Option Cursor :=
  match c.rest with
  | d :: _ => if d = wanted then some (c.advance 1) else none
  | [] => none

/-- Whether three given characters and a gap stand at the beginning of a line here. -/
def isMarked (mark : Char) (c : Cursor) : Bool :=
  c.column == 0 && [mark, mark, mark].isPrefixOf c.rest && endsWord (c.rest.drop 3)

/-- Whether a document begins or ends here by a mark of its own. -/
def atDocumentMark (c : Cursor) : Bool := c.isMarked '-' || c.isMarked '.'

/-- Drops a comment, if one begins here. -/
def dropComment (c : Cursor) : Cursor :=
  if c.rest.head? = some '#' then c.dropWhile (!isBreak ·) else c

/-- Goes to the next line, over blanks and a comment alone. -/
def finishLine? (c : Cursor) : Option Cursor :=
  let c := (c.dropWhile isBlank).dropComment
  if endsLine c.rest then some ((c.lineBreak?.map Prod.snd).getD c) else none

end Cursor

end Orchestrator.Yaml
