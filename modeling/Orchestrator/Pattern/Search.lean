import Orchestrator.Pattern.Parser

/-!
Searching a text for a pattern.

A pattern is laid out as a program of small instructions. All ways through the program advance
together over the text, ordered by preference, and a way that reaches an instruction after a
preferred one has been there at the same place is dropped. So a search takes time in proportion to
the product of both lengths.
-/

namespace Orchestrator

namespace Pattern

/-- One instruction; targets are places in the program. -/
inductive Instruction where
  | char (c : CharClass)
  | anchor (a : Anchor)
  | save (slot : Nat)
  | jump (target : Nat)
  /-- Goes on at either place, preferring the first. -/
  | split (first second : Nat)
  | accept
  deriving Inhabited

/-- How many instructions a program may have. -/
def maxProgram : Nat := 200000

/-- A choice between going on at `here` and at `there`, preferring `here` if `greedy`. -/
def choice (greedy : Bool) (here there : Nat) : Instruction :=
  if greedy then .split here there else .split there here

/-- How many instructions a pattern takes. -/
def codeSize : Pattern → Nat
  | empty => 0
  | char _ => 1
  | anchor _ => 1
  | seq first second => first.codeSize + second.codeSize
  | alt left right => left.codeSize + right.codeSize + 2
  | group _ inner => inner.codeSize + 2
  | rep inner least most _ =>
    match most with
    | some m => least * inner.codeSize + (m - least) * (inner.codeSize + 1)
    | none => if least = 0 then inner.codeSize + 2 else least * inner.codeSize + 1

/-- Lays a piece of code out a number of times in a row. -/
def repeated (code : Nat → List Instruction) (size : Nat) : Nat → Nat → List Instruction
  | 0, _ => []
  | n + 1, start => code start ++ repeated code size n (start + size)

/-- Lays a piece of code out up to a number of times; each round may be the end. -/
def optionally (greedy : Bool) (code : Nat → List Instruction) (size finish : Nat) :
    Nat → Nat → List Instruction
  | 0, _ => []
  | n + 1, start =>
    choice greedy (start + 1) finish :: code (start + 1) ++
      optionally greedy code size finish n (start + 1 + size)

/-- The code of a pattern that is laid out from `start` on. -/
def code : Pattern → Nat → List Instruction
  | empty, _ => []
  | char c, _ => [.char c]
  | anchor a, _ => [.anchor a]
  | seq first second, start => first.code start ++ second.code (start + first.codeSize)
  | alt left right, start =>
    let middle := start + 1 + left.codeSize + 1
    .split (start + 1) middle :: left.code (start + 1) ++
      .jump (middle + right.codeSize) :: right.code middle
  | group n inner, start =>
    .save (2 * n) :: inner.code (start + 1) ++ [.save (2 * n + 1)]
  | rep inner least most greedy, start =>
    let size := inner.codeSize
    match most with
    | some m =>
      let first := repeated inner.code size least start
      let there := start + least * size
      let finish := there + (m - least) * (size + 1)
      first ++ optionally greedy inner.code size finish (m - least) there
    | none =>
      match least with
      | 0 =>
        let finish := start + size + 2
        if inner.matchesEmpty then
          choice greedy (start + 1) finish :: inner.code (start + 1) ++
            [choice greedy (start + 1) finish]
        else
          choice greedy (start + 1) finish :: inner.code (start + 1) ++ [.jump start]
      | n + 1 =>
        let last := start + n * size
        repeated inner.code size (n + 1) start ++ [choice greedy last (last + size + 1)]

/-- A pattern that is ready for searching. -/
structure Program where
  code : Array Instruction
  groups : Nat

/-- Makes a pattern ready for searching; a text that is no pattern, or one whose program would be
too large, is refused. -/
def compile? (s : String) : Option Program := do
  let (p, groups) ← parse? s
  let whole := group 0 p
  if whole.codeSize ≤ maxProgram then some ⟨(whole.code 0 ++ [Instruction.accept]).toArray, groups⟩
  else none

/-- Where the groups of a match begin and end. -/
abbrev Slots := Array (Option Nat)

/-- The ways that are still open at one place, by preference, and the instructions seen. -/
structure Ways where
  seen : Array Bool
  /-- The ways in reverse order of preference. -/
  ways : List (Nat × Slots)

/-- A place in a text: how many characters are in front, and the characters beside it. -/
structure Place where
  index : Nat
  before : Option Char
  after : Option Char

namespace Program

/-- Follows the instructions that take no character, from the places on a stack. -/
def follow (p : Program) (here : Place) : Nat → List (Nat × Slots) → Ways → Ways
  | 0, _, w => w
  | _, [], w => w
  | fuel + 1, (pc, slots) :: stack, w =>
    if w.seen.getD pc true then follow p here fuel stack w
    else
      let seen := w.seen.setIfInBounds pc true
      match p.code.getD pc .accept with
      | .jump target => follow p here fuel ((target, slots) :: stack) ⟨seen, w.ways⟩
      | .split first second =>
        follow p here fuel ((first, slots) :: (second, slots) :: stack) ⟨seen, w.ways⟩
      | .save slot =>
        follow p here fuel ((pc + 1, slots.setIfInBounds slot (some here.index)) :: stack)
          ⟨seen, w.ways⟩
      | .anchor a =>
        if a.holds here.before here.after then
          follow p here fuel ((pc + 1, slots) :: stack) ⟨seen, w.ways⟩
        else follow p here fuel stack ⟨seen, w.ways⟩
      | .char _ | .accept => follow p here fuel stack ⟨seen, (pc, slots) :: w.ways⟩

/-- Adds the ways that begin at an instruction, behind those that are there. -/
def enter (p : Program) (here : Place) (start : Nat × Slots) (w : Ways) : Ways :=
  follow p here (3 * p.code.size + 3) [start] w

def noWays (p : Program) : Ways := ⟨Array.replicate p.code.size false, []⟩

/-- Advances the ways, given by preference, over one character. A way that accepts ends the list,
as the ones behind it are worth less. -/
def advance (p : Program) (c : Char) (next : Place) : List (Nat × Slots) → Ways → Option Slots →
    Ways × Option Slots
  | [], w, found => (w, found)
  | (pc, slots) :: rest, w, found =>
    match p.code.getD pc .accept with
    | .accept => (w, some slots)
    | .char set =>
      if set.contains c then advance p c next rest (enter p next (pc + 1, slots) w) found
      else advance p c next rest w found
    | _ => advance p c next rest w found

/-- The slots of the first way that accepts. -/
def accepted (p : Program) (ways : List (Nat × Slots)) : Option Slots :=
  (ways.find? fun (pc, _) => match p.code.getD pc .accept with
    | .accept => true
    | _ => false).map Prod.snd

/-- Searches on, with the ways that are open at a place. A search begins anew at each place as
long as nothing has been found. -/
def search (p : Program) (fresh : Slots) : Nat → Option Char → List Char → Ways → Option Slots →
    Option Slots
  | index, before, cs, w, found =>
    let here : Place := ⟨index, before, cs.head?⟩
    let w := if found.isNone then enter p here (0, fresh) w else w
    let ways := w.ways.reverse
    match cs with
    | [] => (p.accepted ways).or found
    | c :: rest =>
      if ways.isEmpty ∧ found.isSome then found
      else
        let next : Place := ⟨index + 1, some c, rest.head?⟩
        let (w, found) := advance p c next ways p.noWays found
        search p fresh (index + 1) (some c) rest w found
termination_by structural _ _ cs => cs

/-- The first match of a pattern in a text, as the slots of its groups. -/
def find? (p : Program) (text : List Char) : Option Slots :=
  p.search (Array.replicate (2 * p.groups + 2) none) 0 none text p.noWays none

/-- Whether a pattern matches somewhere in a text. -/
def isMatch (p : Program) (s : String) : Bool := (p.find? s.toList).isSome

/-- What a group of the first match has taken, where there is a match and the group is part of
it. -/
def group? (p : Program) (s : String) (n : Nat) : Option String := do
  let text := s.toList
  let slots ← p.find? text
  let first ← slots.getD (2 * n) none
  let last ← slots.getD (2 * n + 1) none
  pure (String.ofList ((text.drop first).take (last - first)))

end Program

end Pattern

end Orchestrator
