import Orchestrator.Pattern.Basic
import Orchestrator.Text.Digits

/-!
Reading patterns.

The notation has literals, classes with set operations, anchors, groups with names, repetitions and
flags that can be switched for the rest of a group. Backward references, look-around and
unterminated or empty constructs are refused.
-/

namespace Orchestrator

namespace Pattern

/-- The switches of the notation. -/
structure Flags where
  anyCase : Bool
  multiLine : Bool
  dotAll : Bool
  swapGreed : Bool
  unicode : Bool
  verbose : Bool
  crlf : Bool
  deriving Inhabited

def Flags.initial : Flags := ⟨false, false, false, false, true, false, false⟩

/-- What reading has seen so far: the switches, the number of groups, and their names. -/
structure Reading where
  flags : Flags
  groups : Nat
  names : List String

/-- Reads some of a pattern. -/
abbrev Reader (α : Type) := List Char → Option (α × List Char)

/-- Drops blanks and comments, where the verbose notation has them. -/
def skipIgnored (flags : Flags) : Nat → List Char → List Char
  | 0, cs => cs
  | fuel + 1, cs =>
    if flags.verbose then
      match cs with
      | '#' :: rest => skipIgnored flags fuel (rest.dropWhile (· != '\n'))
      | c :: rest => if Text.isBlank c then skipIgnored flags fuel rest else cs
      | [] => []
    else cs

def skipped (flags : Flags) (cs : List Char) : List Char := skipIgnored flags cs.length cs

/-- The class that a flagged literal stands for. -/
def literal (flags : Flags) (c : Char) : CharClass :=
  if flags.anyCase then .anyCase (.single c) else .single c

/-- The character with a number written in hexadecimal digits. -/
def hexChar? (digits : List Char) : Option Char := do
  let ds ← digits.mapM Text.hexValue?
  if ds.isEmpty then none
  else
    let n := ds.foldl (fun acc d => min (acc * 16 + d) 0x110000) 0
    if n < 0x110000 ∧ ¬(0xD800 ≤ n ∧ n ≤ 0xDFFF) then some (Char.ofNat n) else none

/-- Reads a character by its number: `width` digits, or digits in braces. -/
def hexEscape (width : Nat) : Reader Char
  | '\x7b' :: rest =>
    match rest.span (· != '\x7d') with
    | (digits, _ :: rest) => (hexChar? digits).map (·, rest)
    | (_, []) => none
  | cs =>
    if (cs.take width).length = width then (hexChar? (cs.take width)).map (·, cs.drop width)
    else none

/-- The set with an ASCII class name. -/
def asciiClass? (name : String) : Option CharClass :=
  let range (a b : Char) := CharClass.range a.toNat b.toNat
  let upper := range 'A' 'Z'
  let lower := range 'a' 'z'
  let digits := range '0' '9'
  match name with
  | "alnum" => some (.union [digits, upper, lower])
  | "alpha" => some (.union [upper, lower])
  | "ascii" => some (.range 0 127)
  | "blank" => some (.union [.single ' ', .single '\t'])
  | "cntrl" => some (.union [.range 0 31, .range 127 127])
  | "digit" => some digits
  | "graph" => some (range '!' '~')
  | "lower" => some lower
  | "print" => some (range ' ' '~')
  | "punct" => some (.union [range '!' '/', range ':' '@', range '[' '\x60', range '\x7b' '~'])
  | "space" => some (.union [.range 9 13, .single ' '])
  | "upper" => some upper
  | "word" => some (.union [digits, upper, lower, .single '_'])
  | "xdigit" => some (.union [digits, range 'A' 'F', range 'a' 'f'])
  | _ => none

/-- A property name without the differences that do not count. -/
def looseName (s : String) : String :=
  String.ofList ((s.toList.filter fun c => c != ' ' && c != '_' && c != '-').map Char.toLower)

/-- The set with a Unicode property. -/
def property? (name : String) : Option CharClass :=
  let wanted := looseName name
  let hit (entry : String × String) : Bool :=
    looseName entry.1 == wanted || looseName entry.2 == wanted
  match Text.categoryNames.find? hit, Text.categoryGroups.find? hit with
  | some (short, _), _ => some (.category [short])
  | none, some (letter, _) =>
    some (.category ((Text.categoryNames.map Prod.fst).filter fun short =>
      short.toList.head? == letter.toList.head?))
  | none, none =>
    match wanted with
    | "any" => some .all
    | "ascii" => some (.range 0 127)
    | "assigned" => some (.complement (.category ["Cn"]))
    | "lc" | "casedletter" => some (.category ["Lu", "Ll", "Lt"])
    | "whitespace" | "wspace" | "space" => some .blank
    | "uppercase" | "upper" => some (.category ["Lu"])
    | "lowercase" | "lower" => some (.category ["Ll"])
    | "alphabetic" | "alpha" => some (.category ["Lu", "Ll", "Lt", "Lm", "Lo", "Nl"])
    | _ => none

/-- Complements a set, where that is asked for. -/
def negatedIf (negated : Bool) (c : CharClass) : CharClass := if negated then .complement c else c

/-- Reads the name of a Unicode property. -/
def propertyEscape (negated : Bool) : Reader CharClass
  | '\x7b' :: rest =>
    match rest.span (· != '\x7d') with
    | (name, _ :: rest) =>
      let (inverted, name) := match name with
        | '^' :: name => (true, name)
        | _ => (false, name)
      let value := match Text.cutAt? '=' name with
        | some (_, value) => value
        | none => name
      (property? (String.ofList value)).map fun c => (negatedIf (negated != inverted) c, rest)
    | (_, []) => none
  | c :: rest => (property? (String.singleton c)).map fun c => (negatedIf negated c, rest)
  | [] => none

/-- The set of a one-letter class. -/
def letterClass? (flags : Flags) (c : Char) : Option CharClass :=
  let set (full : CharClass) (ascii : String) : Option CharClass :=
    if flags.unicode then some full else asciiClass? ascii
  match c with
  | 'd' => set .digit "digit"
  | 's' => set .blank "space"
  | 'w' => set .word "word"
  | 'D' => if flags.unicode then some (.complement .digit) else none
  | 'S' => if flags.unicode then some (.complement .blank) else none
  | 'W' => if flags.unicode then some (.complement .word) else none
  | _ => none

/-- What an escape stands for. -/
inductive Escape where
  | char (c : Char)
  | set (c : CharClass)
  | anchor (a : Anchor)

/-- Whether a character may be escaped to stand for itself. -/
def isEscapable (c : Char) : Bool := c.toNat < 128 && !c.isAlphanum && c != '<' && c != '>'

/-- Reads the kind of a word boundary in braces; other text in braces is left in place. -/
def boundaryKind (cs : List Char) : Option (Anchor × List Char) :=
  match cs with
  | '\x7b' :: c :: rest =>
    if c.isAlpha ∨ c = '-' then
      match (c :: rest).span (· != '\x7d') with
      | (name, _ :: rest) =>
        match String.ofList name with
        | "start" => some (.wordStart, rest)
        | "end" => some (.wordEnd, rest)
        | "start-half" => some (.wordStartHalf, rest)
        | "end-half" => some (.wordEndHalf, rest)
        | _ => none
      | (_, []) => none
    else some (.wordBoundary, cs)
  | _ => some (.wordBoundary, cs)

/-- Reads an escape from after its backslash. -/
def escape (flags : Flags) : Reader Escape
  | [] => none
  | c :: rest =>
    match letterClass? flags c with
    | some set => some (.set set, rest)
    | none =>
      match c with
      | 'x' => (hexEscape 2 rest).map fun (c, rest) => (.char c, rest)
      | 'u' => (hexEscape 4 rest).map fun (c, rest) => (.char c, rest)
      | 'U' => (hexEscape 8 rest).map fun (c, rest) => (.char c, rest)
      | 'p' => (propertyEscape false rest).map fun (c, rest) => (.set c, rest)
      | 'P' => (propertyEscape true rest).map fun (c, rest) => (.set c, rest)
      | 'a' => some (.char '\x07', rest)
      | 'f' => some (.char '\x0c', rest)
      | 't' => some (.char '\t', rest)
      | 'n' => some (.char '\n', rest)
      | 'r' => some (.char '\r', rest)
      | 'v' => some (.char '\x0b', rest)
      | 'A' => some (.anchor .textStart, rest)
      | 'z' => some (.anchor .textEnd, rest)
      | 'b' => (boundaryKind rest).map fun (a, rest) => (.anchor a, rest)
      | 'B' => some (.anchor .notWordBoundary, rest)
      | '<' => some (.anchor .wordStart, rest)
      | '>' => some (.anchor .wordEnd, rest)
      | _ => if isEscapable c then some (.char c, rest) else none

/-- One member of a bracketed class: a character, or a set. -/
inductive Member where
  | char (c : Char)
  | set (c : CharClass)

/-- Reads one member of a bracketed class. -/
def member (flags : Flags) : Reader Member
  | [] => none
  | '\\' :: rest =>
    match escape flags rest with
    | some (.char c, rest) => some (.char c, rest)
    | some (.set c, rest) => some (.set c, rest)
    | _ => none
  | c :: rest => some (.char c, rest)

/-- Reads an ASCII class name such as `[:alpha:]` from after its opening bracket. -/
def asciiName : Reader CharClass
  | ':' :: rest =>
    let (negated, rest) := match rest with
      | '^' :: rest => (true, rest)
      | _ => (false, rest)
    let (name, rest) := rest.span Char.isAlpha
    match rest with
    | ':' :: ']' :: rest =>
      (asciiClass? (String.ofList name)).map fun c => (negatedIf negated c, rest)
    | _ => none
  | _ => none

/-- Reads one member, or a range from one to another. -/
def memberOrRange (flags : Flags) (cs : List Char) : Option (CharClass × List Char) := do
  let (first, rest) ← member flags cs
  let alone : CharClass := match first with
    | .char c => .single c
    | .set c => c
  match skipped flags rest with
  | '-' :: after =>
    match skipped flags after with
    | ']' :: _ | '-' :: _ => some (alone, rest)
    | [] => none
    | after =>
      let (last, rest) ← member flags after
      match first, last with
      | .char a, .char b => if a ≤ b then some (.range a.toNat b.toNat, rest) else none
      | _, _ => none
  | _ => some (alone, rest)

/-- The set operations between the parts of a bracketed class. -/
inductive SetOperation where
  | both
  | without
  | either

def SetOperation.apply : SetOperation → CharClass → CharClass → CharClass
  | both, a, b => .both a b
  | without, a, b => .without a b
  | either, a, b => .either a b

/-- Joins what stands before the last set operation with the members after it. -/
def joined (before : Option (CharClass × SetOperation)) (members : List CharClass) : CharClass :=
  let last := CharClass.union members.reverse
  match before with
  | none => last
  | some (set, operation) => operation.apply set last

/-- Reads a bracketed class from after its opening bracket and its leading members. -/
def classItems (flags : Flags) :
    Nat → Option (CharClass × SetOperation) → List CharClass → Reader CharClass
  | 0, _, _, _ => none
  | fuel + 1, before, members, cs =>
    match skipped flags cs with
    | [] => none
    | ']' :: rest => some (joined before members, rest)
    | '&' :: '&' :: rest => classItems flags fuel (some (joined before members, .both)) [] rest
    | '-' :: '-' :: rest => classItems flags fuel (some (joined before members, .without)) [] rest
    | '~' :: '~' :: rest => classItems flags fuel (some (joined before members, .either)) [] rest
    | '[' :: rest =>
      match asciiName rest with
      | some (c, rest) => classItems flags fuel before (c :: members) rest
      | none =>
        let (negated, leading, rest) := opened flags rest
        match classItems flags fuel none leading rest with
        | some (c, rest) => classItems flags fuel before (negatedIf negated c :: members) rest
        | none => none
    | cs =>
      match memberOrRange flags cs with
      | some (c, rest) => classItems flags fuel before (c :: members) rest
      | none => none
where
  /-- Reads what may stand at the beginning of a bracketed class: the mark of a complement, hyphens
  and a bracket that stand for themselves. -/
  opened (flags : Flags) (cs : List Char) : Bool × List CharClass × List Char :=
    let (negated, cs) := match skipped flags cs with
      | '^' :: rest => (true, skipped flags rest)
      | cs => (false, cs)
    let hyphens := cs.takeWhile (· == '-')
    let members := hyphens.map CharClass.single
    match members, cs.drop hyphens.length with
    | [], ']' :: rest => (negated, [.single ']'], rest)
    | _, cs => (negated, members, cs)

/-- Reads a bracketed class from after its opening bracket. -/
def bracketed (flags : Flags) (cs : List Char) : Option (CharClass × List Char) :=
  let (negated, leading, rest) := classItems.opened flags cs
  (classItems flags (rest.length + 1) none leading rest).map fun (c, rest) =>
    let folded := if flags.anyCase then CharClass.anyCase c else c
    (negatedIf negated folded, rest)

/-- Reads a decimal number among blanks. -/
def decimal (cs : List Char) : Option (Nat × List Char) :=
  let (digits, rest) := (Text.skipBlank cs).span Char.isDigit
  let n := Text.digitsValue digits
  if digits.isEmpty ∨ Nat.pow 2 32 ≤ n then none else some (n, Text.skipBlank rest)

/-- Reads the counts of a repetition from after its opening brace. -/
def counts (flags : Flags) (cs : List Char) : Option ((Nat × Option Nat) × List Char) := do
  let (least, rest) ← decimal (skipped flags cs)
  match rest with
  | '\x7d' :: rest => some ((least, some least), rest)
  | ',' :: rest =>
    match skipped flags rest with
    | '\x7d' :: rest => some ((least, none), rest)
    | rest =>
      let (most, rest) ← decimal rest
      match rest with
      | '\x7d' :: rest => if least ≤ most then some ((least, some most), rest) else none
      | _ => none
  | _ => none

/-- Switches one flag. -/
def Flags.switch? (flags : Flags) (c : Char) (on : Bool) : Option Flags :=
  match c with
  | 'i' => some { flags with anyCase := on }
  | 'm' => some { flags with multiLine := on }
  | 's' => some { flags with dotAll := on }
  | 'U' => some { flags with swapGreed := on }
  | 'u' => some { flags with unicode := on }
  | 'x' => some { flags with verbose := on }
  | 'R' => some { flags with crlf := on }
  | _ => none

/-- Reads flags up to a colon or a closing parenthesis, which is left in place. No flag may be
given twice, and a minus sign has to be followed by a flag. -/
def flagLetters : List Char → Bool → Bool → Flags → List Char → Option (Flags × List Char)
  | seen, negative, dangling, flags, c :: rest =>
    if c = ':' ∨ c = ')' then if dangling then none else some (flags, c :: rest)
    else if seen.contains c then none
    else if c = '-' then flagLetters (c :: seen) true true flags rest
    else
      match flags.switch? c (!negative) with
      | some flags => flagLetters (c :: seen) negative false flags rest
      | none => none
  | _, _, _, _, [] => none

/-- Whether a text may name a group. -/
def isGroupName (name : List Char) : Bool :=
  match name with
  | [] => false
  | c :: rest =>
    (c == '_' || isLetter c) && rest.all fun c =>
      c == '_' || c == '.' || c == '[' || c == ']' || isLetter c || isNumber c
where
  isLetter (c : Char) : Bool :=
    ["Lu", "Ll", "Lt", "Lm", "Lo", "Nl"].contains (Text.category c)
  isNumber (c : Char) : Bool := ["Nd", "Nl", "No"].contains (Text.category c)

/-- What a parenthesis opens. -/
inductive Opening where
  | capture
  | named (name : String)
  | scoped (flags : Flags)
  | switch (flags : Flags)

/-- Reads what stands behind an opening parenthesis. -/
def opening (flags : Flags) (cs : List Char) : Option (Opening × List Char) :=
  match skipped flags cs with
  | '?' :: 'P' :: '<' :: rest => named rest
  | '?' :: '<' :: rest => if rest.head? = some '=' ∨ rest.head? = some '!' then none else named rest
  | '?' :: rest =>
    match flagLetters [] false false flags rest with
    | some (flags, ':' :: rest) => some (.scoped flags, rest)
    | some (flags, ')' :: after) => if rest.head? = some ')' then none else some (.switch flags, after)
    | _ => none
  | cs => some (.capture, cs)
where
  /-- Reads the name of a group. -/
  named (cs : List Char) : Option (Opening × List Char) :=
    match cs.span (· != '>') with
    | (name, _ :: rest) => if isGroupName name then some (.named (String.ofList name), rest) else none
    | (_, []) => none

/-- Joins the items of a sequence, which are held in reverse. -/
def sequence (items : List Pattern) : Pattern :=
  match items with
  | [] => .empty
  | last :: earlier => earlier.foldl (fun acc item => .seq item acc) last

/-- The anchor of a caret or a dollar sign. -/
def lineAnchor (flags : Flags) (start : Bool) : Anchor :=
  match flags.multiLine, flags.crlf, start with
  | false, _, true => .textStart
  | false, _, false => .textEnd
  | true, false, true => .lineStart
  | true, false, false => .lineEnd
  | true, true, true => .lineStartCrlf
  | true, true, false => .lineEndCrlf

/-- The set of a dot. -/
def dot (flags : Flags) : CharClass :=
  if flags.dotAll then .all
  else if flags.crlf then .complement (.union [.single '\n', .single '\r'])
  else .notNewline

/-- Reads a repetition mark where there is one. -/
def repetition (flags : Flags) (cs : List Char) : Option ((Nat × Option Nat) × List Char) :=
  match cs with
  | '*' :: rest => some ((0, none), rest)
  | '+' :: rest => some ((1, none), rest)
  | '?' :: rest => some ((0, some 1), rest)
  | '\x7b' :: rest => counts flags rest
  | _ => none

/-- The pattern of a single character, escape or anchor. -/
def atom (flags : Flags) (cs : List Char) : Option (Pattern × List Char) :=
  match cs with
  | [] => none
  | '.' :: rest => if flags.unicode then some (.char (dot flags), rest) else none
  | '^' :: rest => some (.anchor (lineAnchor flags true), rest)
  | '$' :: rest => some (.anchor (lineAnchor flags false), rest)
  | '[' :: rest => (bracketed flags rest).map fun (c, rest) => (.char c, rest)
  | '\\' :: rest =>
    (escape flags rest).map fun (e, rest) =>
      match e with
      | .char c => (.char (literal flags c), rest)
      | .set c => (.char (if flags.anyCase then .anyCase c else c), rest)
      | .anchor a => (.anchor a, rest)
  | c :: rest => some (.char (literal flags c), rest)

/-- Reads alternatives up to the end of the text or to a closing parenthesis, which is left in
place. `items` holds the current alternative in reverse, and `before` the ones in front of it. The
switch of a flag is an item that cannot be repeated, so that it stands as `none`. -/
def alternatives : Nat → Reading → Option Pattern → List (Option Pattern) → List Char →
    Option (Pattern × Reading × List Char)
  | 0, _, _, _, _ => none
  | fuel + 1, r, before, items, cs =>
    let finish : Pattern :=
      let last := sequence (items.filterMap id)
      match before with
      | none => last
      | some p => .alt p last
    match skipped r.flags cs with
    | [] => some (finish, r, [])
    | ')' :: rest => some (finish, r, ')' :: rest)
    | '|' :: rest => alternatives fuel r (some finish) [] rest
    | '(' :: rest =>
      match opening r.flags rest with
      | none => none
      | some (.switch flags, rest) =>
        alternatives fuel { r with flags } before (none :: items) rest
      | some (opened, rest) =>
        let entered : Option (Option Nat × Reading) :=
          match opened with
          | .capture => some (some (r.groups + 1), { r with groups := r.groups + 1 })
          | .named name =>
            if r.names.contains name then none
            else some (some (r.groups + 1),
              { r with groups := r.groups + 1, names := name :: r.names })
          | .scoped flags | .switch flags => some (none, { r with flags })
        match entered with
        | none => none
        | some (index, inside) =>
          match alternatives fuel inside none [] rest with
          | some (p, after, ')' :: rest) =>
            let item := match index with
              | some n => Pattern.group n p
              | none => p
            alternatives fuel { after with flags := r.flags } before (some item :: items) rest
          | _ => none
    | c :: rest =>
      if c = '*' ∨ c = '+' ∨ c = '?' ∨ c = '\x7b' then
        match items, repetition r.flags (c :: rest) with
        | some item :: items, some ((least, most), rest) =>
          let (lazy, rest) := match skipped r.flags rest with
            | '?' :: rest => (true, rest)
            | _ => (false, rest)
          let greedy := lazy == r.flags.swapGreed
          alternatives fuel r before (some (.rep item least most greedy) :: items) rest
        | _, _ => none
      else
        match atom r.flags (c :: rest) with
        | some (p, rest) => alternatives fuel r before (some p :: items) rest
        | none => none

/-- Reads a pattern, together with the number of its groups. -/
def parse? (s : String) : Option (Pattern × Nat) :=
  let cs := s.toList
  match alternatives (2 * cs.length + 2) ⟨Flags.initial, 0, []⟩ none [] cs with
  | some (p, r, []) => some (p, r.groups)
  | _ => none

end Pattern

end Orchestrator
