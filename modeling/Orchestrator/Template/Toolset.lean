import Orchestrator.Template.Extension
import Orchestrator.Template.Test

/-!
All filters and tests by name, with those that apply others to the elements of a list.
-/

namespace Orchestrator

namespace Template

/-- The filters that apply no other. -/
def baseFilters : List (String × Tool) := Extension.filters ++ Filter.plain

/-- The names of the filters that apply others. -/
def higherFilters : List String := ["map", "select", "reject", "selectattr", "rejectattr"]

/-- Whether there is a filter of a name. -/
def isFilter (name : String) : Bool :=
  (baseFilters.lookup name).isSome || higherFilters.contains name

/-- The names of the tests that look for filters and tests. -/
def higherTests : List String := ["filter", "test"]

/-- Whether there is a test of a name. -/
def isTest (name : String) : Bool :=
  (Test.plain.lookup name).isSome || higherTests.contains name

/-- Applies a test. -/
def applyTest (name : String) (args : Args) : Except Fault Bool :=
  match Test.plain.lookup name with
  | some tool => (tool args).map Value.isTrue
  | none =>
    let find (known : String → Bool) : Tool := .of do
      let s ← Take.value
      pure <| match s with
        | .str s _ => .ok (.bool (known s))
        | _ => .error .invalidOperation
    match name with
    | "filter" => (find isFilter args).map Value.isTrue
    | "test" => (find isTest args).map Value.isTrue
    | _ => .error .unknownTest

/-- Keeps the elements that pass a test, or those that fail it. -/
def sift (keep byAttribute : Bool) : Tool := .of do
  let v ← Take.value
  let path ← if byAttribute then some <$> Take.text else pure none
  let test ← Take.text?
  let others ← Take.rest
  pure do
    match test with
    | some name => unless isTest name do throw .unknownTest
    | none => pure ()
    let items ← v.walk
    let kept ← items.filterM fun item => do
      let subject ← match path with
        | some path => item.partAt path
        | none => pure item
      let passed ← match test with
        | some name => applyTest name ⟨subject :: others, none⟩
        | none => pure subject.isTrue
      pure (passed == keep)
    pure (.list kept)

/-- The part of each element that is named by a path or another key. -/
def pluck (items : List Value) (key : Value) (default : Option Value) : Except Fault Value := do
  let parts ← items.mapM fun item =>
    let found := match key with
      | .str path _ => item.partAt path
      | key => item.part key
    match found, default with
    | .ok .undefined, some other => .ok other
    | .error _, some other => .ok other
    | found, _ => found
  pure (.list parts)

/-- Applies a filter. The fuel bounds how often filters apply filters. -/
def applyFilterWithin : Nat → String → Args → Except Fault Value
  | 0, _, _ => .error .unknownFilter
  | fuel + 1, name, args =>
    match baseFilters.lookup name with
    | some tool => tool args
    | none =>
      match name with
      | "select" => sift true false args
      | "reject" => sift false false args
      | "selectattr" => sift true true args
      | "rejectattr" => sift false true args
      | "map" =>
        match args.given with
        | [] => .error .missingArgument
        | v :: others =>
          match (args.named.getD []).lookup "attribute" with
          | some key =>
            if !others.isEmpty then .error .tooManyArguments
            else do pluck (← v.walk) key ((args.named.getD []).lookup "default")
          | none =>
            match others with
            | .str inner _ :: others =>
              if isFilter inner then do
                let items ← v.walk
                let results ← items.mapM fun item =>
                  applyFilterWithin fuel inner ⟨item :: others, none⟩
                pure (.list results)
              else .error .unknownFilter
            | _ => .error .invalidOperation
      | _ => .error .unknownFilter

/-- Applies a filter. -/
def applyFilter (name : String) (args : Args) : Except Fault Value :=
  applyFilterWithin (args.given.length + 1) name args

end Template

end Orchestrator
