import Orchestrator.Dict

/-!
Labels of packs, and the selectors that choose packs by them.
-/

namespace Orchestrator

/-- Labels by key, or a selector that asks for such labels. -/
abbrev Labels := Dict String

/-- Whether every entry of a selector is a label with that value. The empty selector fits all
labels. -/
def Labels.fits (selector labels : Labels) : Bool :=
  selector.toList.all fun (key, value) => labels.get? key == some value

end Orchestrator
