import Orchestrator.Json.Basic
import Orchestrator.Number.Layout
import Orchestrator.Text.Digits

/-!
The compact text of a JSON document: no blanks, keys in order, and of the characters only the
quote, the backslash and the control characters escaped.
-/

namespace Orchestrator

/-- The text of a number; a floating point number always shows a point or an exponent, and one
that is not finite reads `null`. -/
def Number.text : Number → String
  | .int n => decimalText n
  | .float x => if x.isFinite then x.compact else "null"

namespace Json

/-- How a character stands inside a JSON string. -/
def escaped (c : Char) : List Char :=
  if c = '"' then ['\\', '"']
  else if c = '\\' then ['\\', '\\']
  else if c = '\n' then ['\\', 'n']
  else if c = '\r' then ['\\', 'r']
  else if c = '\t' then ['\\', 't']
  else if c = '\x08' then ['\\', 'b']
  else if c = '\x0c' then ['\\', 'f']
  else if c.toNat < 32 then '\\' :: 'u' :: '0' :: '0' :: Text.hexPair c.toNat
  else [c]

/-- The text of a JSON string. -/
def stringText (s : String) : String :=
  s.foldl (fun acc c => (escaped c).foldl String.push acc) "\"" ++ "\""

mutual

/-- The text of a document. -/
def text : Json → String
  | .null => "null"
  | .bool b => if b then "true" else "false"
  | .num n => n.text
  | .str s => stringText s
  | .arr items => "[" ++ ",".intercalate (itemTexts items) ++ "]"
  | .obj entries => "\x7b" ++ ",".intercalate (entryTexts entries) ++ "\x7d"

/-- The texts of an array's elements. -/
def itemTexts : List Json → List String
  | [] => []
  | j :: rest => text j :: itemTexts rest

/-- The texts of an object's entries. -/
def entryTexts : List (String × Json) → List String
  | [] => []
  | (k, j) :: rest => (stringText k ++ ":" ++ text j) :: entryTexts rest

end

end Json

end Orchestrator
