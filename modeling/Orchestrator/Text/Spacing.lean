import Orchestrator.Text.Blank

/-!
Two ways to make the blanks of a text uniform.
-/

namespace Orchestrator.Text

/-- The no-break space. -/
def noBreakSpace : Char := '\xa0'

/-- Replaces each run of blanks by one space. The flag says whether the character before was a
blank. -/
def singleSpaces : Bool → List Char → List Char
  | _, [] => []
  | afterBlank, c :: cs =>
    if isBlank c then if afterBlank then singleSpaces true cs else ' ' :: singleSpaces true cs
    else c :: singleSpaces false cs

/-- Each run of blanks becomes one space, except at the end, where nothing remains. -/
def collapseChars (cs : List Char) : List Char :=
  dropEndWhile (· = ' ') (singleSpaces false cs)

def collapseBlanks (s : String) : String := String.ofList (collapseChars s.toList)

/-- Each no-break space becomes a space. -/
def plainSpaces (s : String) : String :=
  String.ofList (s.toList.map fun c => if c = noBreakSpace then ' ' else c)

end Orchestrator.Text
