import Orchestrator.Yaml.Schema

/-!
YAML documents that can be read as JSON.
-/

namespace Orchestrator.Yaml

/-- Reads a text that is a single document and gives what it stands for; `none` if the text is not
written by the rules, or says what JSON cannot say. -/
def parse? (text : String) : Option Json := do
  let node ← Node.ofTokens? (← tokens? text.toList)
  node.toJson?

end Orchestrator.Yaml
