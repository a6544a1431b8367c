import Orchestrator.Dict
import Orchestrator.Text.Blank

/-!
Lists of keys and values in one text, such as `a=1, b=2`.

An entry counts if it has exactly one equals sign and a key that is not blank; all others are passed
over. Blanks around keys and values are dropped, and the last value of a key stands.
-/

namespace Orchestrator.Text

/-- The key and the value of an entry. -/
def keyValue? (entry : List Char) : Option (String × String) :=
  match splitAt '=' entry with
  | [key, value] =>
    if key.all isBlank then none
    else some (String.ofList (trimChars key), String.ofList (trimChars value))
  | _ => none

/-- The keys and values of a text, its entries separated by commas. -/
def keyValues (s : String) : Dict String :=
  Dict.ofList ((splitAt ',' s.toList).filterMap keyValue?)

end Orchestrator.Text
