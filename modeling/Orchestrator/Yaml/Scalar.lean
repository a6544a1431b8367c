import Orchestrator.Text.Digits
import Orchestrator.Yaml.Cursor

/-!
The texts of scalars: plain, between quotes, or in a block of lines.

Line breaks inside plain and quoted scalars are folded: one stands for a space, and of several all
but the first are kept. A backslash before a line break, between double quotes, takes the break away.

The readers end because each of their steps takes at least one character; `fuel` is to be larger than
the number of characters that are left.
-/

namespace Orchestrator.Yaml

/-- What a run of line breaks inside a scalar stands for. -/
def folded : List Char → List Char
  | ['\n'] => [' ']
  | '\n' :: more => more
  | breaks => breaks

/-- What stands between two words of a scalar. -/
structure Gap where
  /-- The blanks before the first line break. -/
  blanks : List Char
  breaks : List Char
  deriving Repr, Inhabited

namespace Gap

def none : Gap := ⟨[], []⟩

/-- Whether the gap reaches into another line. -/
def isBroken (g : Gap) : Bool := !g.breaks.isEmpty

/-- What the gap stands for. -/
def text (g : Gap) : List Char := if g.isBroken then folded g.breaks else g.blanks

end Gap

namespace Cursor

/-- Takes line breaks with the blanks around them, from the beginning of a line on. Among the first
`indent` characters of a line there may be no tab. -/
def breaks? (indent : Nat) : Nat → List Char → Cursor → Option (List Char × Cursor)
  | 0, _, _ => none
  | fuel + 1, found, c =>
    let (blanks, c) := c.takeWhile isBlank
    if (blanks.take indent).contains '\t' then none
    else match c.lineBreak? with
      | some (b, c) => breaks? indent fuel (b :: found) c
      | none => some (found.reverse, c)

/-- Takes what stands between two words. -/
def gap? (indent fuel : Nat) (c : Cursor) : Option (Gap × Cursor) :=
  let (blanks, c) := c.takeWhile isBlank
  match c.lineBreak? with
  | some (b, c) => (breaks? indent fuel [b] c).map fun (breaks, c) => (⟨blanks, breaks⟩, c)
  | none => some (⟨blanks, []⟩, c)

end Cursor

/-! ## Plain scalars -/

/-- The characters of a plain scalar up to the next gap. In a flow collection, a colon may not be
followed by an indicator of the collection. -/
def plainWord? (inFlow : Bool) : List Char → Option (List Char)
  | [] => some []
  | c :: rest =>
    if isGap c then some []
    else if c = ':' && inFlow && rest.head?.any ",?[]\x7b\x7d".toList.contains then none
    else if c = ':' && endsWord rest then some []
    else if inFlow && ",[]\x7b\x7d".toList.contains c then some []
    else (plainWord? inFlow rest).map (c :: ·)

/-- A plain scalar, and whether the reading has gone on to another line behind it. The text is kept in
reverse while it is read. -/
def plainFrom? (inFlow : Bool) (indent : Nat) :
    Nat → List Char → Gap → Cursor → Option (List Char × Bool × Cursor)
  | 0, _, _, _ => none
  | fuel + 1, text, gap, c =>
    if c.atDocumentMark || c.rest.head? = some '#' then some (text.reverse, gap.isBroken, c)
    else do
      let word ← plainWord? inFlow c.rest
      if word.isEmpty then return (text.reverse, gap.isBroken, c)
      let text := word.reverse ++ (gap.text.reverse ++ text)
      let c := c.advance word.length
      if !c.rest.head?.any isGap then return (text.reverse, false, c)
      let (gap, c) ← c.gap? indent (fuel + 1)
      if !inFlow && c.column < indent then return (text.reverse, gap.isBroken, c)
      plainFrom? inFlow indent fuel text gap c

/-- Reads a plain scalar. Its further lines, outside of flow collections, have to be indented by at
least `indent`. -/
def plain? (inFlow : Bool) (indent fuel : Nat) (c : Cursor) :
    Option (List Char × Bool × Cursor) :=
  plainFrom? inFlow indent fuel [] .none c

/-! ## Quoted scalars -/

/-- The character with a number written in some hexadecimal digits. -/
def escapedCode? (count : Nat) (cs : List Char) : Option Char :=
  let digits := cs.take count
  if digits.length < count then none
  else (Text.digitsIn? 16 digits).bind fun n =>
    if n < 0xD800 ∨ (0xDFFF < n ∧ n ≤ 0x10FFFF) then some (Char.ofNat n) else none

/-- The characters that stand for others behind a backslash. -/
def escapeTable : List (Char × Nat) := [
  ('0', 0x00), ('a', 0x07), ('b', 0x08), ('t', 0x09), ('\t', 0x09), ('n', 0x0A), ('v', 0x0B),
  ('f', 0x0C), ('r', 0x0D), ('e', 0x1B), (' ', 0x20), ('"', 0x22), ('/', 0x2F), ('\\', 0x5C),
  ('N', 0x85), ('_', 0xA0), ('L', 0x2028), ('P', 0x2029)]

/-- What the characters behind a backslash stand for, and how many they are. -/
def escape? : List Char → Option (Char × Nat)
  | 'x' :: rest => (escapedCode? 2 rest).map (·, 3)
  | 'u' :: rest => (escapedCode? 4 rest).map (·, 5)
  | 'U' :: rest => (escapedCode? 8 rest).map (·, 9)
  | c :: _ => (escapeTable.lookup c).map fun n => (Char.ofNat n, 1)
  | [] => none

/-- What ends a word between quotes. -/
inductive WordEnd where
  | quote
  | gap
  /-- A backslash before a line break. -/
  | joint

/-- The characters between single quotes up to the next gap or the end, in reverse; a quote is written
twice. Gives how many characters were read. -/
def singleWord : List Char → List Char → Nat → List Char × Nat × WordEnd
  | '\'' :: '\'' :: rest, word, n => singleWord rest ('\'' :: word) (n + 2)
  | '\'' :: _, word, n => (word, n, .quote)
  | c :: rest, word, n =>
    if isGap c then (word, n, .gap) else singleWord rest (c :: word) (n + 1)
  | [], word, n => (word, n, .gap)

/-- The characters between double quotes up to the next gap or the end, in reverse. `skip` counts
characters that belong to an escape read before. -/
def doubleWord? : Nat → List Char → List Char → Nat → Option (List Char × Nat × WordEnd)
  | skip + 1, _ :: rest, word, n => doubleWord? skip rest word (n + 1)
  | _, [], word, n => some (word, n, .gap)
  | 0, '"' :: _, word, n => some (word, n, .quote)
  | 0, '\\' :: rest, word, n =>
    if rest.head?.any isBreak then some (word, n + 1, .joint)
    else do
      let (c, taken) ← escape? rest
      doubleWord? taken rest (c :: word) (n + 1)
  | 0, c :: rest, word, n =>
    if isGap c then some (word, n, .gap) else doubleWord? 0 rest (c :: word) (n + 1)

/-- The words and gaps between quotes. The text is kept in reverse while it is read. -/
def quotedFrom? (isSingle : Bool) : Nat → List Char → Cursor → Option (List Char × Cursor)
  | 0, _, _ => none
  | fuel + 1, text, c =>
    if c.atDocumentMark || c.rest.isEmpty then none
    else do
      let (word, n, stop) ←
        if isSingle then some (singleWord c.rest [] 0) else doubleWord? 0 c.rest [] 0
      let text := word ++ text
      let c := c.advance n
      match stop with
      | .quote => return (text.reverse, c.advance 1)
      | .gap => do
        let (gap, c) ← c.gap? 0 (fuel + 1)
        quotedFrom? isSingle fuel (gap.text.reverse ++ text) c
      | .joint => do
        let (_, c) ← c.lineBreak?
        let (breaks, c) ← c.breaks? 0 (fuel + 1) []
        quotedFrom? isSingle fuel (breaks.reverse ++ text) c

/-- Reads a quoted scalar, its first quote included. -/
def quoted? (isSingle : Bool) (fuel : Nat) (c : Cursor) : Option (List Char × Cursor) :=
  quotedFrom? isSingle fuel [] (c.advance 1)

/-! ## Block scalars -/

/-- What becomes of the line breaks at the end of a block. -/
inductive Chomping where
  | strip
  | clip
  | keep
  deriving DecidableEq, Repr, Inhabited

/-- How a block is to be read. -/
structure BlockHeader where
  chomping : Chomping
  /-- The indentation relative to what surrounds the block; 0 if it is not given. -/
  increment : Nat
  deriving DecidableEq, Repr, Inhabited

namespace BlockHeader

/-- Reads one indicator of a header. -/
def indicator? (h : BlockHeader) (c : Char) : Option BlockHeader :=
  if c = '+' ∧ h.chomping = .clip then some { h with chomping := .keep }
  else if c = '-' ∧ h.chomping = .clip then some { h with chomping := .strip }
  else if '1' ≤ c ∧ c ≤ '9' ∧ h.increment = 0 then
    some { h with increment := Text.digitValue c }
  else none

/-- Reads a header: a chomping indicator and an indentation, each at most once in any order. -/
def read (c : Cursor) : BlockHeader × Cursor :=
  let h : BlockHeader := ⟨.clip, 0⟩
  match c.rest with
  | a :: rest =>
    match h.indicator? a with
    | none => (h, c)
    | some h =>
      match rest.head?.bind h.indicator? with
      | none => (h, c.advance 1)
      | some h => (h, c.advance 2)
  | [] => (h, c)

end BlockHeader

/-- Takes empty lines and the indentation of the next line. An `indent` of 0 is not known yet, and is
then found as the deepest of these lines, but at least `least`. Gives the line breaks in reverse. -/
def blockBreaks? (least indent : Nat) :
    Nat → (deepest : Nat) → List Char → Cursor → Option (Nat × List Char × Cursor)
  | 0, _, _, _ => none
  | fuel + 1, deepest, breaks, c =>
    let spaces := (c.rest.takeWhile (· = ' ')).length
    let c := c.advance (if indent = 0 then spaces else min spaces (indent - c.column))
    let deepest := max deepest c.column
    if (indent = 0 ∨ c.column < indent) ∧ c.rest.head? = some '\t' then none
    else match c.lineBreak? with
      | some (b, c) => blockBreaks? least indent fuel deepest (b :: breaks) c
      | none => some (if indent = 0 then max deepest least else indent, breaks, c)

/-- A block in the course of reading, its text and breaks in reverse. -/
structure Block where
  text : List Char
  /-- The break that ends the last line. -/
  leading : Option Char
  /-- The breaks of the empty lines after it. -/
  trailing : List Char
  /-- Whether the last line begins with a blank. -/
  isIndented : Bool

namespace Block

/-- The breaks after the last line as they stand in the text, when a further line comes. -/
def joined (b : Block) (isLiteral : Bool) (line : List Char) : List Char :=
  let isFolded := !isLiteral && b.leading == some '\n' && !b.isIndented && !line.head?.any isBlank
  let text :=
    if !isFolded then b.leading.toList ++ b.text
    else if b.trailing.isEmpty then ' ' :: b.text
    else b.text
  b.trailing ++ text

/-- The text of the whole block. -/
def chomped (b : Block) : Chomping → List Char
  | .strip => b.text.reverse
  | .clip => (b.leading.toList ++ b.text).reverse
  | .keep => (b.trailing ++ (b.leading.toList ++ b.text)).reverse

/-- The lines of a block. -/
def lines? (isLiteral : Bool) (indent : Nat) : Nat → Block → Cursor → Option (Block × Cursor)
  | 0, _, _ => none
  | fuel + 1, b, c =>
    if c.column ≠ indent ∨ c.rest.isEmpty then some (b, c)
    else do
      let (line, c) := c.takeWhile (!isBreak ·)
      let text := line.reverse ++ b.joined isLiteral line
      let (leading, c) := match c.lineBreak? with
        | some (b, c) => (some b, c)
        | none => (none, c)
      let (_, trailing, c) ← blockBreaks? 0 indent (fuel + 1) 0 [] c
      lines? isLiteral indent fuel ⟨text, leading, trailing, line.head?.any isBlank⟩ c

end Block

/-- Reads a block scalar, its indicator included, inside of what is indented by `outer`; at the
outermost level that is -1. -/
def block? (isLiteral : Bool) (outer : Int) (fuel : Nat) (c : Cursor) :
    Option (List Char × Cursor) := do
  let (header, c) := BlockHeader.read (c.advance 1)
  let c ← c.finishLine?
  let indent := if header.increment = 0 then 0 else outer.toNat + header.increment
  let least := max 1 (outer + 1).toNat
  let (indent, trailing, c) ← blockBreaks? least indent fuel 0 [] c
  let (b, c) ← Block.lines? isLiteral indent fuel ⟨[], none, trailing, false⟩ c
  return (b.chomped header.chomping, c)

end Orchestrator.Yaml
