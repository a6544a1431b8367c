import Orchestrator.Template.Syntax
import Orchestrator.Template.Token

/-!
Reading a list of tokens.

A reader that does not find what it needs fails with a syntax error, unless what it finds is the
place where the text could not be cut; then the fault of the text is reported.
-/

namespace Orchestrator

namespace Template

/-- Where the reading of a template is. -/
structure Cursor where
  tokens : List Token
  /-- How many expressions and statements are open. -/
  depth : Nat
  inMacro : Bool
  /-- The blocks that were met, by name. -/
  blocks : List (String × List Stmt)

/-- How deeply expressions and statements may be nested. -/
def maxDepth : Nat := 150

/-- A reader of tokens. -/
abbrev Reader := StateT Cursor (Except Fault)

namespace Reader

/-- Fails at the current token. -/
def fail {α : Type} : Reader α := do
  match (← get).tokens with
  | .fault f :: _ => throw f
  | _ => throw .syntaxError

/-- The current token, if there is one. -/
def peek : Reader (Option Token) := do
  match (← get).tokens with
  | .fault f :: _ => throw f
  | t :: _ => pure (some t)
  | [] => pure none

/-- Takes the current token. -/
def next : Reader Token := do
  let cursor ← get
  match cursor.tokens with
  | .fault f :: _ => throw f
  | t :: rest =>
    set { cursor with tokens := rest }
    pure t
  | [] => throw .syntaxError

/-- Whether the current token is a given one. -/
def sees (t : Token) : Reader Bool := do
  pure ((← peek) == some t)

/-- Takes the current token if it is a given one. -/
def skip (t : Token) : Reader Bool := do
  if ← sees t then
    let _ ← next
    pure true
  else pure false

/-- Takes a given token. -/
def expect (t : Token) : Reader Unit := do
  unless ← skip t do fail

def symbol (s : String) : Reader Unit := expect (.sym s)

def skipSymbol (s : String) : Reader Bool := skip (.sym s)

def seesSymbol (s : String) : Reader Bool := sees (.sym s)

def skipWord (word : String) : Reader Bool := skip (.ident word)

/-- Takes a name. -/
def ident : Reader String := do
  match ← next with
  | .ident name => pure name
  | _ => throw .syntaxError

/-- Reads something that opens one more level of nesting. -/
def nested {α : Type} (inner : Reader α) : Reader α := do
  let cursor ← get
  if maxDepth ≤ cursor.depth then throw .syntaxError
  else
    set { cursor with depth := cursor.depth + 1 }
    let x ← inner
    modify fun cursor => { cursor with depth := cursor.depth - 1 }
    pure x

end Reader

end Template

end Orchestrator
