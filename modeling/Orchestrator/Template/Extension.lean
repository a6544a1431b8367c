import Orchestrator.Cron.Parser
import Orchestrator.Json.Parser
import Orchestrator.Pattern.Search
import Orchestrator.Template.Argument
import Orchestrator.Text.Base64
import Orchestrator.Text.KeyValue
import Orchestrator.Text.Spacing
import Orchestrator.Time.Rfc3339

/-!
The filters that workflows add to the template language.

They read a value as text in their own way: a truth value is written in lower case, and nothing and
none are empty.
-/

namespace Orchestrator

namespace Template

/-- The text of a value as these filters read it. -/
def Value.plainText : Value → String
  | .undefined | .none => ""
  | .bool b => if b then "true" else "false"
  | v => v.text

namespace Extension

open Value (ofText)

/-- The entry of a map under a key; anything else has no entries. -/
def key (v : Value) (name : String) : Value :=
  match v with
  | .map entries => (Value.lookup (ofText name) entries).getD .undefined
  | _ => .undefined

/-- The element of a list at a position that it has, and else an empty text. -/
def index (v : Value) (position : Int) : Value :=
  match v with
  | .list items => if 0 ≤ position then items[position.toNat]?.getD (ofText "") else ofText ""
  | _ => ofText ""

/-- The compiled form of a pattern. -/
def pattern (source : String) : Except Fault Pattern.Program :=
  match Pattern.compile? source with
  | some program => .ok program
  | none => .error (.refused (.invalidPattern source))

/-- Whether a pattern occurs in a text. -/
def isMatch (s source : String) : Except Fault Bool :=
  (pattern source).map fun program => program.isMatch s

/-- What the first group of a pattern catches in a text, and the text itself if there is nothing. -/
def extractMatch (s source : String) : Except Fault String :=
  (pattern source).map fun program => (program.group? s 1).getD s

/-- The map of the keys and values that are listed in a text. -/
def keyValues (s : String) : Value :=
  .map ((Text.keyValues s).toList.map fun (k, v) => (ofText k, ofText v))

/-- Whether a schedule contains the minute of a time. -/
def matchesSchedule (raw expression : String) : Except Fault Bool := do
  match Rfc3339.parse? (Text.trim raw) with
  | none => throw (.refused (.invalidTimestamp raw))
  | some time =>
    match Cron.parse expression with
    | .error e => throw (.refused (.invalidSchedule expression e))
    | .ok schedule => pure (schedule.fires time)

/-- The text that a Base64 text stands for. -/
def decodeBase64 (s : String) : Except Fault String :=
  match Base64.decode? s.toList with
  | none => .error (.refused .invalidBase64)
  | some octets =>
    match Utf8.text? ⟨octets.toArray⟩ with
    | some s => .ok s
    | none => .error (.refused .decodedNotText)

/-- The map that a JSON text stands for. -/
def readObject (s : String) : Except Fault Value :=
  match Json.parse? s with
  | none => .error (.refused .invalidJson)
  | some (.obj entries) => .ok (.ofJson (.obj entries))
  | some _ => .error (.refused .notAnObject)

/-- A filter that reads its value as text. -/
def onText (f : String → Except Fault Value) : Tool := .of do
  let v ← Take.value
  pure (f v.plainText)

/-- A filter that reads its value as text and has a text for its argument. -/
def onTexts (f : String → String → Except Fault Value) : Tool := .of do
  let v ← Take.value
  let other ← Take.text
  pure (f v.plainText other)

/-- The filters of workflows. -/
def filters : List (String × Tool) := [
  ("key", .of do
    let v ← Take.value
    let name ← Take.text
    pure (.ok (key v name))),
  ("match", onTexts fun s source => (isMatch s source).map .bool),
  ("extractMatch", onTexts fun s source => (extractMatch s source).map ofText),
  ("kvp", onText fun s => .ok (keyValues s)),
  ("index", .of do
    let v ← Take.value
    let position ← Take.int
    pure (.ok (index v position))),
  ("matchesCron", onTexts fun s expression => (matchesSchedule s expression).map .bool),
  ("removedupwhitespaces", onText fun s => .ok (ofText (Text.collapseBlanks s))),
  ("safecopypaste", onText fun s => .ok (ofText (Text.plainSpaces s))),
  ("base64Encode", onText fun s => .ok (ofText (Base64.encodeText s))),
  ("base64Decode", onText fun s => (decodeBase64 s).map ofText),
  ("unmarshalJson", onText readObject)]

end Extension

end Template

end Orchestrator
