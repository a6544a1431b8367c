import Orchestrator.Number.Binary64
import Orchestrator.Template.Fault
import Orchestrator.Text.Blank
import Orchestrator.Text.Digits

/-!
The tokens of template text.

Outside of tags there is only text. A hyphen at the border of a tag removes the blanks beside it. A
tag ends at the first mark for its end that stands outside of quoted texts and of brackets, so that
`}}` may close two nested maps. Names are made of ASCII characters.

A text that cannot be cut to its end gives tokens up to that place and then the fault, so that a
reader which stops earlier for a reason of its own reports that one.
-/

namespace Orchestrator

namespace Template

/-- A token. -/
inductive Token where
  | text (s : String)
  | outputStart
  | outputEnd
  | blockStart
  | blockEnd
  | ident (name : String)
  | str (s : String)
  | int (n : Int)
  | float (x : Binary64)
  /-- An operator or a bracket. -/
  | sym (s : String)
  | fault (f : Fault)
  deriving DecidableEq, Repr, Inhabited

namespace Token

/-- Whether the text begins a tag. -/
def isMarker : List Char → Bool
  | '\x7b' :: c :: _ => c = '\x7b' || c = '%' || c = '#'
  | _ => false

/-- Splits text at the first tag. The part in front is gathered in reverse. -/
def untilMarker : List Char → List Char → List Char × List Char
  | acc, [] => (acc.reverse, [])
  | acc, c :: rest =>
    if isMarker (c :: rest) then (acc.reverse, c :: rest) else untilMarker (c :: acc) rest

/-- Splits text at the first place where two given characters follow each other. -/
def untilPair (a b : Char) : List Char → List Char → Option (List Char × List Char)
  | acc, c :: d :: rest =>
    if c = a ∧ d = b then some (acc.reverse, rest) else untilPair a b (c :: acc) (d :: rest)
  | _, _ => none

def isAsciiBlank (c : Char) : Bool :=
  c = ' ' || c = '\t' || c = '\n' || c = '\r' || c = '\x0c'

def skipAsciiBlank (cs : List Char) : List Char := cs.dropWhile isAsciiBlank

/-- Drops the sign for blanks at the start of a tag. -/
def dropSign : List Char → List Char
  | c :: rest => if c = '-' ∨ c = '+' then rest else c :: rest
  | [] => []

def startsHyphen (cs : List Char) : Bool := cs.head? = some '-'

/-- Reads the rest of a tag that holds one word. Gives whether blanks after it are removed, and
what follows. -/
def wordTag (word : String) (cs : List Char) : Option (Bool × List Char) :=
  let cs := skipAsciiBlank cs
  let n := word.length
  if cs.take n = word.toList then
    let cs := skipAsciiBlank (cs.drop n)
    match dropSign cs with
    | '%' :: '\x7d' :: rest => some (startsHyphen cs, rest)
    | _ => none
  else none

/-- Reads a verbatim part up to the tag that ends it. Gives its text, whether blanks after it are
removed, and what follows. -/
def verbatim (trimStart : Bool) : List Char → List Char → Option (String × Bool × List Char)
  | acc, '\x7b' :: '%' :: rest =>
    match wordTag "endraw" (dropSign rest) with
    | some (trimNext, after) =>
      let body := acc.reverse
      let body := if trimStart then Text.skipBlank body else body
      let body := if startsHyphen rest then Text.dropEndWhile Text.isBlank body else body
      some (String.ofList body, trimNext, after)
    | none => verbatim trimStart ('\x7b' :: acc) ('%' :: rest)
  | acc, c :: rest => verbatim trimStart (c :: acc) rest
  | _, [] => none

/-- Where the reading of a number is: in its whole part, behind its point, behind its exponent mark,
or in its exponent. -/
inductive NumberPart where
  | whole
  | fraction
  | mark
  | exponent
  deriving DecidableEq

/-- The part that one more character leads to, if it belongs to the number. -/
def NumberPart.next? : NumberPart → Char → Option NumberPart
  | whole, '.' => some fraction
  | whole, 'e' | whole, 'E' | fraction, 'e' | fraction, 'E' => some mark
  | mark, '+' | mark, '-' => some exponent
  | part, c =>
    if c.isDigit then some (if part = mark then exponent else part)
    else if c = '_' then some part else none

/-- Reads the characters of a decimal number, in reverse. -/
def decimalChars : NumberPart → List Char → List Char → NumberPart × List Char × List Char
  | part, acc, [] => (part, acc, [])
  | part, acc, c :: rest =>
    match part.next? c with
    | some part => decimalChars part (c :: acc) rest
    | none => (part, acc, c :: rest)

/-- The floating point number that a text stands for: digits with a point, and an exponent. -/
def floatOf? (cs : List Char) : Option Binary64 :=
  let (mantissa, rest) := cs.span fun c => c.isDigit || c = '.'
  let whole := mantissa.takeWhile Char.isDigit
  let fraction := (mantissa.drop (whole.length + 1))
  let digits := whole ++ fraction
  let exponent : Option Int :=
    match rest with
    | [] => some 0
    | _ :: '-' :: ds => if ds.isEmpty then none else (Text.digitsIn? 10 ds).map fun n => -n
    | _ :: '+' :: ds => if ds.isEmpty then none else (Text.digitsIn? 10 ds).map Int.ofNat
    | _ :: ds => if ds.isEmpty then none else (Text.digitsIn? 10 ds).map Int.ofNat
  match Text.digitsIn? 10 digits, exponent with
  | some n, some e =>
    if digits.isEmpty then none else some (Binary64.ofDecimal false n (e - fraction.length))
  | _, _ => none

/-- The largest integer that can be written out. -/
def maxLiteral : Nat := Nat.pow 2 128 - 1

/-- The integer that digits in a base stand for. -/
def intToken (base : Nat) (digits : List Char) : Token :=
  match Text.digitsIn? base digits with
  | some n => if digits.isEmpty ∨ maxLiteral < n then .fault .syntaxError else .int n
  | none => .fault .syntaxError

/-- Reads a number that begins at the first character. Underscores may stand between digits. -/
def number (cs : List Char) : Token × List Char :=
  let based : Option (Nat × List Char) :=
    match cs with
    | '0' :: c :: rest =>
      match c.toLower with
      | 'b' => some (2, rest)
      | 'o' => some (8, rest)
      | 'x' => some (16, rest)
      | _ => none
    | _ => none
  match based with
  | some (base, rest) =>
    let (raw, rest) := rest.span fun c =>
      c.isDigit || c = '_' || (base = 16 && (Text.digitsIn? 16 [c]).isSome)
    if raw.getLast? = some '_' then (.fault .syntaxError, rest)
    else (intToken base (raw.filter (· != '_')), rest)
  | none =>
    let (part, raw, rest) := decimalChars .whole [] cs
    if raw.head? = some '_' then (.fault .syntaxError, rest)
    else
      let digits := (raw.filter (· != '_')).reverse
      if part = .whole then (intToken 10 digits, rest)
      else
        match floatOf? digits with
        | some x => (.float x, rest)
        | none => (.fault .syntaxError, rest)

/-- Reads the raw characters of a quoted text from after its opening quote, in reverse. -/
def rawQuoted (quote : Char) : List Char → List Char → Option (List Char × List Char)
  | _, [] => none
  | acc, '\\' :: c :: rest => rawQuoted quote (c :: '\\' :: acc) rest
  | acc, c :: rest => if c = quote then some (acc.reverse, rest) else rawQuoted quote (c :: acc) rest

/-- Reads `count` hexadecimal digits; the first may be a plus sign. -/
def hexNumber? (count : Nat) (cs : List Char) : Option (Nat × List Char) :=
  let digits := cs.take count
  let signless := match digits with
    | '+' :: rest => rest
    | _ => digits
  if digits.length < count then none else (Text.digitsIn? 16 signless).map (·, cs.drop count)

/-- The character that a pair of surrogates stands for. -/
def surrogatePair (high low : Nat) : Char :=
  Char.ofNat (0x10000 + (high - 0xD800) * 0x400 + (low - 0xDC00))

/-- Resolves the escapes of a quoted text, given the surrogate that waits for its second half. The
fuel bounds the characters read. -/
def unescape : Nat → Option Nat → String → List Char → Option String
  | 0, _, _, _ => none
  | _ + 1, pending, acc, [] => if pending.isNone then some acc else none
  | fuel + 1, pending, acc, '\\' :: 'u' :: rest =>
    match hexNumber? 4 rest with
    | none => none
    | some (n, rest) =>
      let surrogate : Bool := 0xD800 ≤ n && n ≤ 0xDFFF
      match pending, surrogate with
      | none, false => unescape fuel none (acc.push (Char.ofNat n)) rest
      | none, true => unescape fuel (some n) acc rest
      | some high, true =>
        if high < 0xDC00 ∧ 0xDC00 ≤ n then unescape fuel none (acc.push (surrogatePair high n)) rest
        else none
      | some _, false => none
  | fuel + 1, pending, acc, '\\' :: e :: rest =>
    if pending.isSome then none
    else if e = '"' ∨ e = '\\' ∨ e = '/' ∨ e = '\'' then unescape fuel none (acc.push e) rest
    else
      match e with
      | 'b' => unescape fuel none (acc.push '\x08') rest
      | 'f' => unescape fuel none (acc.push '\x0c') rest
      | 'n' => unescape fuel none (acc.push '\n') rest
      | 'r' => unescape fuel none (acc.push '\r') rest
      | 't' => unescape fuel none (acc.push '\t') rest
      | 'x' =>
        match hexNumber? 2 rest with
        | some (n, rest) => unescape fuel none (acc.push (Char.ofNat n)) rest
        | none => none
      | _ =>
        if '0' ≤ e ∧ e ≤ '7' then
          let more := (rest.take 2).takeWhile fun c => '0' ≤ c && c ≤ '7'
          match Text.digitsIn? 8 (e :: more) with
          | some n =>
            if n < 256 then unescape fuel none (acc.push (Char.ofNat n)) (rest.drop more.length)
            else none
          | none => none
        else none
  | fuel + 1, pending, acc, c :: rest =>
    if pending.isSome ∨ c = '\\' then none else unescape fuel none (acc.push c) rest

/-- Reads a quoted text from after its opening quote. -/
def quoted (quote : Char) (cs : List Char) : Token × List Char :=
  match rawQuoted quote [] cs with
  | none => (.fault .syntaxError, [])
  | some (raw, rest) =>
    match unescape (raw.length + 1) none "" raw with
    | some s => (.str s, rest)
    | none => (.fault .badEscape, rest)

def isIdentStart (c : Char) : Bool := c.isAlpha || c = '_'

def isIdentRest (c : Char) : Bool := c.isAlphanum || c = '_'

/-- The operators of two characters. -/
def pairs : List String := ["//", "**", "==", "!=", ">=", "<="]

/-- The operators and brackets of one character. -/
def singles : List Char :=
  ['+', '-', '*', '/', '%', '.', ',', ':', '~', '|', '=', '>', '<', '(', ')', '[', ']', '\x7b',
    '\x7d']

/-- Reads one token inside of a tag. -/
def inside (cs : List Char) : Token × List Char :=
  let two := String.ofList (cs.take 2)
  if pairs.contains two then (.sym two, cs.drop 2)
  else
    match cs with
    | [] => (.fault .syntaxError, [])
    | c :: rest =>
      if singles.contains c then (.sym (String.singleton c), rest)
      else if c = '\'' ∨ c = '"' then quoted c rest
      else if c.isDigit then number cs
      else if isIdentStart c then
        let (name, rest) := cs.span isIdentRest
        (.ident (String.ofList name), rest)
      else (.fault .syntaxError, rest)

/-- Whether a tag ends here. Gives whether blanks after it are removed, and what follows. -/
def tagEnd? (mark : Char) (cs : List Char) : Option (Bool × List Char) :=
  match cs with
  | '-' :: a :: '\x7d' :: rest => if a = mark then some (true, rest) else none
  | '+' :: a :: '\x7d' :: rest => if a = mark then some (false, rest) else none
  | a :: '\x7d' :: rest => if a = mark then some (false, rest) else none
  | _ => none

/-- Where the cutting is: in text, or in a tag for printing or for a statement with a number of open
brackets. -/
inductive Mode where
  | text (trimNext : Bool)
  | output (depth : Nat)
  | block (depth : Nat)

/-- The number of open brackets after a token. -/
def depthAfter (depth : Nat) : Token → Nat
  | sym s =>
    if s = "(" ∨ s = "[" ∨ s = "\x7b" then depth + 1
    else if s = ")" ∨ s = "]" ∨ s = "\x7d" then depth - 1
    else depth
  | _ => depth

/-- The number of open brackets. -/
def Mode.depth : Mode → Nat
  | text _ => 0
  | output depth | block depth => depth

/-- Where the cutting is after a token inside of a tag. -/
def Mode.after (token : Token) : Mode → Mode
  | text trimNext => text trimNext
  | output depth => output (depthAfter depth token)
  | block depth => block (depthAfter depth token)

/-- Cuts text into tokens, which are gathered in reverse. The fuel bounds the steps. -/
def cut : Nat → Mode → List Token → List Char → List Token
  | 0, _, acc, _ => acc.reverse
  | fuel + 1, .text trimNext, acc, cs =>
    match if trimNext then Text.skipBlank cs else cs with
    | [] => acc.reverse
    | '\x7b' :: '\x7b' :: rest => cut fuel (.output 0) (.outputStart :: acc) (dropSign rest)
    | '\x7b' :: '#' :: rest =>
      let body := dropSign rest
      match untilPair '#' '\x7d' [] body with
      | some (comment, rest) => cut fuel (.text (comment.getLast? = some '-')) acc rest
      | none => (.fault .syntaxError :: acc).reverse
    | '\x7b' :: '%' :: rest =>
      let body := dropSign rest
      match wordTag "raw" body with
      | some (trimStart, rest) =>
        match verbatim trimStart [] rest with
        | some (s, trimNext, rest) => cut fuel (.text trimNext) (.text s :: acc) rest
        | none => (.fault .syntaxError :: acc).reverse
      | none => cut fuel (.block 0) (.blockStart :: acc) body
    | cs =>
      let (lead, rest) := untilMarker [] cs
      let lead := if startsHyphen (rest.drop 2) then Text.dropEndWhile Text.isBlank lead else lead
      let acc := if lead.isEmpty then acc else .text (String.ofList lead) :: acc
      cut fuel (.text false) acc rest
  | fuel + 1, mode, acc, cs =>
    let (mark, close) : Char × Token := match mode with
      | .output _ => ('\x7d', .outputEnd)
      | _ => ('%', .blockEnd)
    match skipAsciiBlank cs with
    | [] => acc.reverse
    | cs =>
      match if mode.depth = 0 then tagEnd? mark cs else none with
      | some (trimNext, rest) => cut fuel (.text trimNext) (close :: acc) rest
      | none =>
        match inside cs with
        | (.fault f, _) => (.fault f :: acc).reverse
        | (token, rest) => cut fuel (mode.after token) (token :: acc) rest

/-- The tokens of a template. -/
def scan (source : String) : List Token :=
  let cs := source.toList
  cut (2 * cs.length + 2) (.text false) [] cs

end Token

end Template

end Orchestrator
