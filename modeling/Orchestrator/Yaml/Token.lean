import Orchestrator.Text.Percent
import Orchestrator.Yaml.Scalar

/-!
The tokens of a YAML text.

Collections in blocks have no signs of their own: their tokens come from the indentation. A key of a
mapping is found to be one only by the colon behind it, so every place where a key may begin is
remembered, and its token is put in there when the colon comes.
-/

namespace Orchestrator.Yaml

/-- A token. -/
inductive Token where
  | versionDirective (major minor : Nat)
  | tagDirective (handle target : String)
  | documentStart
  | documentEnd
  | blockSequenceStart
  | blockMappingStart
  | blockEnd
  | flowSequenceStart
  | flowSequenceEnd
  | flowMappingStart
  | flowMappingEnd
  | blockEntry
  | flowEntry
  | key
  | value
  | alias (name : String)
  | anchor (name : String)
  | tag (handle suffix : String)
  | scalar (isPlain : Bool) (text : String)
  deriving DecidableEq, Repr, Inhabited

/-- A place where a key may have begun. -/
structure KeyPlace where
  /-- How many tokens there were. -/
  token : Nat
  /-- Whether nothing but a key can begin there. -/
  isRequired : Bool
  index : Nat
  line : Nat
  column : Nat
  deriving Repr, Inhabited

/-- A text in the course of being parted into tokens. -/
structure Scan where
  cursor : Cursor
  tokens : Array Token
  /-- The indentation of the innermost block, -1 outside of all blocks. -/
  indent : Int
  /-- The indentations of the blocks around it. -/
  outer : List Int
  /-- The open flow collections and the block around them, each with the place where a key may have
  begun in it, the innermost first. -/
  keys : List (Option KeyPlace)
  /-- Whether a key may begin here. -/
  allowsKey : Bool

namespace Scan

def start (cs : List Char) : Scan := ⟨.start cs, #[], -1, [], [none], true⟩

/-- Whether the reading is inside a flow collection. -/
def inFlow (s : Scan) : Bool := 1 < s.keys.length

def push (s : Scan) (t : Token) : Scan := { s with tokens := s.tokens.push t }

/-- Adds a token of some characters. -/
def pushOver (s : Scan) (n : Nat) (t : Token) : Scan :=
  { s with cursor := s.cursor.advance n, tokens := s.tokens.push t }

/-- Puts a token in before others. -/
def pushAt (s : Scan) (place : Nat) (t : Token) : Scan :=
  { s with tokens := s.tokens.insertIdxIfInBounds place t }

/-! ## Indentation -/

/-- Opens a block at a column to the right of the innermost one. -/
def openBlock (s : Scan) (column place : Nat) (t : Token) : Scan :=
  if !s.inFlow && s.indent < column then
    let outer := s.indent :: s.outer
    { s.pushAt place t with indent := column, outer }
  else s

/-- Closes the blocks that are indented by more than a column. -/
def closeBlocks (s : Scan) (column : Int) : Scan :=
  if s.inFlow then s
  else
    let closed := (s.indent :: s.outer).takeWhile (column < ·)
    let left := (s.indent :: s.outer).dropWhile (column < ·)
    { s with
      tokens := s.tokens ++ closed.map fun _ => Token.blockEnd
      indent := left.head?.getD (-1)
      outer := left.tail }

/-! ## Places of keys -/

/-- The longest key, in characters. -/
def longestKey : Nat := 1024

/-- Forgets the places whose key would not end on its line, or would be too long. A key that is
required there is missed. -/
def forgetStale? (s : Scan) : Option Scan :=
  let isStale (k : KeyPlace) : Bool :=
    k.line < s.cursor.line || k.index + longestKey < s.cursor.index
  if s.keys.any fun k => k.any fun k => isStale k && k.isRequired then none
  else some { s with keys := s.keys.map fun k => k.filter fun k => !isStale k }

/-- Forgets the place of the innermost collection. -/
def forgetKey? (s : Scan) : Option Scan :=
  match s.keys with
  | some k :: rest => if k.isRequired then none else some { s with keys := none :: rest }
  | _ => some s

/-- Remembers that a key may begin here. -/
def markKey? (s : Scan) : Option Scan :=
  if !s.allowsKey then some s
  else do
    let c := s.cursor
    let s ← s.forgetKey?
    let isRequired := !s.inFlow && s.indent == c.column
    let place : KeyPlace := ⟨s.tokens.size, isRequired, c.index, c.line, c.column⟩
    return { s with keys := some place :: s.keys.tail }

/-! ## Blanks and comments -/

/-- Goes to the next token. Tabs are blanks only where no key may begin. -/
def skipBlanks : Nat → Scan → Scan
  | 0, s => s
  | fuel + 1, s =>
    let c := if s.cursor.column = 0 ∧ s.cursor.rest.head? = some '\ufeff' then s.cursor.advance 1
      else s.cursor
    let isSkipped (c : Char) : Bool := c = ' ' || (c = '\t' && (s.inFlow || !s.allowsKey))
    let c := (c.dropWhile isSkipped).dropComment
    match c.lineBreak? with
    | some (_, c) => skipBlanks fuel { s with cursor := c, allowsKey := s.allowsKey || !s.inFlow }
    | none => { s with cursor := c }

/-! ## Directives, anchors and tags -/

/-- Whether a character may stand in a tag. -/
def isTagChar (isVerbatim : Bool) (c : Char) : Bool :=
  isNameChar c || ";/?:@&=+$.%!~*'()".toList.contains c || (isVerbatim && ",[]".toList.contains c)

/-- Whether every percent sign begins an escape. -/
def areEscapes : List Char → Bool
  | '%' :: a :: b :: rest => (Text.digitsIn? 16 [a, b]).isSome && areEscapes rest
  | '%' :: _ => false
  | _ :: rest => areEscapes rest
  | [] => true

/-- The text of a tag without its escapes. -/
def tagText? (cs : List Char) : Option String :=
  if areEscapes cs then Percent.decodeText? (String.ofList cs) else none

/-- Reads the handle of a tag: an exclamation mark, or a name between two. Without its second mark it
is no handle, but the beginning of the tag. -/
def handle? (c : Cursor) : Option (List Char × Cursor) := do
  let c ← c.expect? '!'
  let (name, c) := c.takeWhile isNameChar
  match c.expect? '!' with
  | some c => return ('!' :: name ++ ['!'], c)
  | none => return ('!' :: name, c)

/-- Reads a tag: verbatim between angle brackets, behind a handle, or behind an exclamation mark. A
mark alone is a tag of its own, without a handle. -/
def tag? (c : Cursor) : Option (Token × Cursor) := do
  if ['!', '<'].isPrefixOf c.rest then
    let (suffix, c) := (c.advance 2).takeWhile (isTagChar true)
    let c ← c.expect? '>'
    if suffix.isEmpty then none
    return (.tag "" (← tagText? suffix), c)
  let (handle, c) ← handle? c
  let (suffix, c) := c.takeWhile (isTagChar false)
  if 1 < handle.length ∧ handle.getLast? = some '!' then
    if suffix.isEmpty then none
    return (.tag (String.ofList handle) (← tagText? suffix), c)
  match handle.drop 1 ++ suffix with
  | [] => return (.tag "" "!", c)
  | suffix => return (.tag "!" (← tagText? suffix), c)

/-- Reads a number of a version. -/
def versionNumber? (c : Cursor) : Option (Nat × Cursor) :=
  let (digits, c) := c.takeWhile Char.isDigit
  if digits.isEmpty ∨ 9 < digits.length then none
  else some (Text.digitsValue digits, c)

/-- Reads a directive, its percent sign included, up to the end of its line. -/
def directive? (c : Cursor) : Option (Token × Cursor) := do
  let (name, c) := (c.advance 1).takeWhile isNameChar
  if !endsWord c.rest then none
  let c := c.dropWhile isBlank
  let (token, c) ←
    if name = "YAML".toList then do
      let (major, c) ← versionNumber? c
      let c ← c.expect? '.'
      let (minor, c) ← versionNumber? c
      pure (Token.versionDirective major minor, c)
    else if name = "TAG".toList then do
      let (handle, c) ← handle? c
      if handle.getLast? ≠ some '!' ∨ !c.rest.head?.any isBlank then none
      let (target, c) := (c.dropWhile isBlank).takeWhile (isTagChar true)
      if target.isEmpty ∨ !endsWord c.rest then none
      let target ← tagText? target
      pure (Token.tagDirective (String.ofList handle) target, c)
    else none
  return (token, ← c.finishLine?)

/-- Reads the name of an anchor or an alias. -/
def anchorName? (c : Cursor) : Option (String × Cursor) :=
  let (name, c) := c.takeWhile isNameChar
  let isEnd := endsWord c.rest || c.rest.head?.any "?:,]\x7d%@\x60".toList.contains
  if name.isEmpty || !isEnd then none else some (String.ofList name, c)

/-! ## The tokens -/

/-- Whether a plain scalar begins here. -/
def beginsPlain (inFlow : Bool) : List Char → Bool
  | [] => false
  | c :: rest =>
    if c = '-' then !rest.head?.any isBlank
    else if c = '?' || c = ':' then !inFlow && !endsWord rest
    else !isGap c && !",[]\x7b\x7d#&*!|>'\"%@\x60".toList.contains c

/-- Begins something that leaves all blocks. -/
def leaveBlocks? (s : Scan) : Option Scan :=
  (s.closeBlocks (-1)).forgetKey?.map fun s => { s with allowsKey := false }

def flowStart? (s : Scan) (t : Token) : Option Scan :=
  s.markKey?.map fun s =>
    let keys := none :: s.keys
    { s.pushOver 1 t with keys, allowsKey := true }

def flowEnd? (s : Scan) (t : Token) : Option Scan :=
  s.forgetKey?.map fun s =>
    let keys := if s.inFlow then s.keys.tail else s.keys
    { s.pushOver 1 t with keys, allowsKey := false }

def flowEntry? (s : Scan) : Option Scan :=
  s.forgetKey?.map fun s => { s.pushOver 1 .flowEntry with allowsKey := true }

/-- Opens a block here, which is possible only where a key may begin. -/
def openHere? (s : Scan) (t : Token) : Option Scan :=
  if s.inFlow then some s
  else if s.allowsKey then some (s.openBlock s.cursor.column s.tokens.size t)
  else none

def blockEntry? (s : Scan) : Option Scan := do
  let s ← s.openHere? .blockSequenceStart
  let s ← s.forgetKey?
  return { s.pushOver 1 .blockEntry with allowsKey := true }

def keyMark? (s : Scan) : Option Scan := do
  let s ← s.openHere? .blockMappingStart
  let s ← s.forgetKey?
  let allowsKey := !s.inFlow
  return { s.pushOver 1 .key with allowsKey }

/-- A colon, behind a key that has begun at a remembered place, or without such a key. -/
def valueMark? (s : Scan) : Option Scan :=
  match s.keys with
  | some k :: rest =>
    let s := (s.pushAt k.token .key).openBlock k.column k.token .blockMappingStart
    some { s.pushOver 1 .value with keys := none :: rest, allowsKey := false }
  | _ => (s.openHere? .blockMappingStart).map fun s =>
    let allowsKey := !s.inFlow
    { s.pushOver 1 .value with allowsKey }

/-- Something that a key may begin with. -/
def keyBeginner? (s : Scan) (read : Cursor → Option (Token × Cursor)) : Option Scan := do
  let s ← s.markKey?
  let (t, c) ← read s.cursor
  return { s.push t with cursor := c, allowsKey := false }

def blockScalar? (s : Scan) (isLiteral : Bool) (fuel : Nat) : Option Scan := do
  let s ← s.forgetKey?
  let (text, c) ← block? isLiteral s.indent fuel s.cursor
  return { s.push (.scalar false (String.ofList text)) with cursor := c, allowsKey := true }

def plainScalar? (s : Scan) (fuel : Nat) : Option Scan := do
  let s ← s.markKey?
  let (text, isBroken, c) ← plain? s.inFlow (s.indent + 1).toNat fuel s.cursor
  return { s.push (.scalar true (String.ofList text)) with cursor := c, allowsKey := isBroken }

def anchorToken? (toToken : String → Token) (c : Cursor) : Option (Token × Cursor) :=
  (anchorName? (c.advance 1)).map fun (name, c) => (toToken name, c)

def quotedToken? (isSingle : Bool) (fuel : Nat) (c : Cursor) : Option (Token × Cursor) :=
  (quoted? isSingle fuel c).map fun (text, c) => (.scalar false (String.ofList text), c)

/-- A tag with what has to follow it. -/
def tagToken? (inFlow : Bool) (c : Cursor) : Option (Token × Cursor) := do
  let (t, c) ← tag? c
  if endsWord c.rest || (inFlow && c.rest.head? == some ',') then return (t, c) else none

/-- Reads the next token, which begins here. -/
def next? (s : Scan) (fuel : Nat) : Option Scan :=
  let c := s.cursor
  let isIndicator := endsWord (c.rest.drop 1)
  if c.column = 0 ∧ c.rest.head? = some '%' then do
    let s ← s.leaveBlocks?
    let (t, c) ← directive? s.cursor
    return { s.push t with cursor := c }
  else if c.isMarked '-' then s.leaveBlocks?.map fun s => s.pushOver 3 .documentStart
  else if c.isMarked '.' then s.leaveBlocks?.map fun s => s.pushOver 3 .documentEnd
  else match c.rest with
    | [] => none
    | '[' :: _ => s.flowStart? .flowSequenceStart
    | '\x7b' :: _ => s.flowStart? .flowMappingStart
    | ']' :: _ => s.flowEnd? .flowSequenceEnd
    | '\x7d' :: _ => s.flowEnd? .flowMappingEnd
    | ',' :: _ => s.flowEntry?
    | '*' :: _ => s.keyBeginner? (anchorToken? .alias)
    | '&' :: _ => s.keyBeginner? (anchorToken? .anchor)
    | '!' :: _ => s.keyBeginner? (tagToken? s.inFlow)
    | '\'' :: _ => s.keyBeginner? (quotedToken? true fuel)
    | '"' :: _ => s.keyBeginner? (quotedToken? false fuel)
    | d :: _ =>
      if d = '-' ∧ isIndicator then s.blockEntry?
      else if d = '?' ∧ (s.inFlow ∨ isIndicator) then s.keyMark?
      else if d = ':' ∧ (s.inFlow ∨ isIndicator) then s.valueMark?
      else if (d = '|' ∨ d = '>') ∧ !s.inFlow then s.blockScalar? (d = '|') fuel
      else if beginsPlain s.inFlow c.rest then s.plainScalar? fuel
      else none

/-- Reads all tokens. -/
def run : Nat → Scan → Option (Array Token)
  | 0, _ => none
  | fuel + 1, s => do
    let s ← (s.skipBlanks (fuel + 1)).forgetStale?
    if s.cursor.rest.isEmpty then
      let s ← (s.closeBlocks (-1)).forgetKey?
      return s.tokens
    let s ← (s.closeBlocks s.cursor.column).next? (fuel + 1)
    run fuel s

end Scan

/-- The tokens of a text; `none` if it is not parted into tokens by the rules, or holds characters
that no text may hold. -/
def tokens? (cs : List Char) : Option (List Token) :=
  if cs.all isAllowed then (Scan.run (cs.length + 1) (.start cs)).map Array.toList else none

end Orchestrator.Yaml
