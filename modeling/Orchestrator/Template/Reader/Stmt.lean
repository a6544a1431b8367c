import Orchestrator.Template.Reader.Expr

/-!
Reading statements.

A body ends at a tag that begins with one of the words its statement waits for; a body that reaches
the end of the text is found out by the tag end that is missing then.
-/

namespace Orchestrator

namespace Template

/-- The names that cannot be assigned. -/
def reservedNames : List String :=
  ["true", "True", "false", "False", "none", "None", "loop", "self"]

namespace Reader

/-- Reads a name that is assigned. -/
def assignedName : Reader String := do
  let name ← ident
  if reservedNames.contains name then fail else pure name

/-- Reads the names on the way to an attribute. The fuel bounds their number. -/
def attributePath : Nat → Reader (List String)
  | 0 => fail
  | fuel + 1 => do
    if ← skipSymbol "." then
      let name ← ident
      let rest ← attributePath fuel
      pure (name :: rest)
    else pure []

/-- Whether a list of targets ends here. -/
def seesTargetEnd : Reader Bool := do
  match ← peek with
  | some (.sym ")") | some .outputEnd | some .blockEnd | some (.ident "in") => pure true
  | _ => pure false

mutual

/-- Reads one or several targets; several stand for the elements of a list. -/
def targets : Nat → Reader Target
  | 0 => fail
  | fuel + 1 => do
    let (found, severally) ← moreTargets fuel []
    match found, severally with
    | [target], false => pure target
    | _, _ => pure (.list found)

/-- Reads targets in addition to those given in reverse, and whether a comma was met. -/
def moreTargets : Nat → List Target → Reader (List Target × Bool)
  | 0, _ => fail
  | fuel + 1, acc => do
    unless acc.isEmpty do symbol ","
    if ← seesTargetEnd then pure (acc.reverse, !acc.isEmpty)
    else
      let target ← oneTarget fuel
      if ← seesSymbol "," then moreTargets fuel (target :: acc)
      else pure ((target :: acc).reverse, !acc.isEmpty)

/-- Reads a name, or targets in brackets. -/
def oneTarget : Nat → Reader Target
  | 0 => fail
  | fuel + 1 => do
    if ← skipSymbol "(" then
      let inner ← targets fuel
      symbol ")"
      pure inner
    else .name <$> assignedName

end

/-- Reads the bindings of a scope up to the end of the tag. -/
def bindings : Nat → List (Target × Expr) → Reader (List (Target × Expr))
  | 0, _ => fail
  | fuel + 1, acc => do
    if ← skip .blockEnd then pure acc.reverse
    else
      unless acc.isEmpty do symbol ","
      let target ← oneTarget fuel
      symbol "="
      let value ← expr
      bindings fuel ((target, value) :: acc)

/-- Reads filters up to the end of the tag and applies them to what a body prints. -/
def filterChain : Nat → Option Expr → Reader Expr
  | 0, _ => fail
  | fuel + 1, acc => do
    if ← sees .blockEnd then
      match acc with
      | some e => pure e
      | none => fail
    else
      if acc.isSome then symbol "|"
      let name ← ident
      let passed ← filterArguments
      filterChain fuel (some (.filter name (acc.getD .caught) passed))

/-- Reads the parameters of a macro after the opening bracket. -/
def parameters : Nat → Params → Reader Params
  | 0, _ => fail
  | fuel + 1, acc => do
    if ← skipSymbol ")" then pure acc
    else
      unless acc.names.isEmpty do symbol ","
      if ← (if acc.names.isEmpty then pure false else skipSymbol ")") then pure acc
      else
        let name ← assignedName
        let names := acc.names ++ [name]
        if ← skipSymbol "=" then
          let value ← expr
          parameters fuel ⟨names, acc.defaults ++ [value]⟩
        else if acc.defaults.isEmpty then parameters fuel ⟨names, []⟩
        else fail

/-- Passes over the words that say which variables a loaded template sees. -/
def skipContextWords : Reader Unit := do
  if (← skipWord "with") || (← skipWord "without") then expect (.ident "context")

/-- Reads the names that are taken from another template, up to the end of the tag. -/
def importedNames : Nat → Bool → Reader Unit
  | 0, _ => fail
  | fuel + 1, isFirst => do
    if ← sees .blockEnd then pure ()
    else
      unless isFirst do symbol ","
      if ← sees .blockEnd then pure ()
      else
        let _ ← assignedName
        if ← skipWord "as" then
          let _ ← assignedName
        importedNames fuel false

/-- Reads a call. -/
def callExpr : Reader Expr := do
  match ← expr with
  | .call callee passed => pure (.call callee passed)
  | _ => fail

/-- Passes over the word that ends a body, if the text goes on. -/
def skipEnd : Reader Unit := do
  match ← peek with
  | some _ => do
    let _ ← next
  | none => pure ()

mutual

/-- Reads a body up to a tag that begins with one of the given words. -/
def body : Nat → List String → List Stmt → Reader (List Stmt)
  | 0, _, _ => fail
  | fuel + 1, stops, acc => do
    match ← peek with
    | none => pure acc.reverse
    | some (.text s) =>
      let _ ← next
      body fuel stops (.text s :: acc)
    | some .outputStart =>
      let _ ← next
      let value ← expr
      expect .outputEnd
      body fuel stops (.output value :: acc)
    | some .blockStart =>
      let _ ← next
      match ← peek with
      | some (.ident word) =>
        if stops.contains word then pure acc.reverse
        else
          let s ← nested (statement fuel)
          expect .blockEnd
          body fuel stops (s :: acc)
      | _ => fail
    | some _ => fail

/-- Reads a body and the word that ends it. -/
def closed : Nat → String → Reader (List Stmt)
  | 0, _ => fail
  | fuel + 1, stop => do
    let inner ← body fuel [stop] []
    skipEnd
    pure inner

/-- Reads what follows the test of a conditional statement. -/
def branches : Nat → Reader Stmt
  | 0 => fail
  | fuel + 1 => do
    let test ← expr
    expect .blockEnd
    let whenTrue ← body fuel ["endif", "else", "elif"] []
    if ← skipWord "else" then
      expect .blockEnd
      let whenFalse ← closed fuel "endif"
      pure (.conditional test whenTrue whenFalse)
    else if ← skipWord "elif" then
      let whenFalse ← branches fuel
      pure (.conditional test whenTrue [whenFalse])
    else
      skipEnd
      pure (.conditional test whenTrue [])

/-- Reads the body of a macro. -/
def macroBody : Nat → String → Reader (List Stmt)
  | 0, _ => fail
  | fuel + 1, stop => do
    expect .blockEnd
    let wasInMacro := (← get).inMacro
    modify fun cursor => { cursor with inMacro := true }
    let inner ← body fuel [stop] []
    modify fun cursor => { cursor with inMacro := wasInMacro }
    skipEnd
    pure inner

/-- Reads a statement, from its first word up to the end of its last tag. -/
def statement : Nat → Reader Stmt
  | 0 => fail
  | fuel + 1 => do
    match ← ident with
    | "for" => do
      let target ← targets fuel
      expect (.ident "in")
      let source ← plainExpr
      let condition ← if ← skipWord "if" then some <$> expr else pure none
      let recursive ← skipWord "recursive"
      expect .blockEnd
      let inner ← body fuel ["endfor", "else"] []
      if ← skipWord "else" then
        expect .blockEnd
        let orElse ← closed fuel "endfor"
        pure (.loop target source condition recursive inner orElse)
      else
        skipEnd
        pure (.loop target source condition recursive inner [])
    | "if" => branches fuel
    | "with" => do
      let bound ← bindings fuel []
      let inner ← closed fuel "endwith"
      pure (.scope bound inner)
    | "set" => do
      if ← skipSymbol "(" then
        let target ← targets fuel
        symbol ")"
        symbol "="
        let value ← expr
        pure (.set target value)
      else
        let name ← assignedName
        let path ← attributePath fuel
        let target := if path.isEmpty then .name name else .path name path
        if (← sees .blockEnd) || (← seesSymbol "|") then
          let chain ← if ← skipSymbol "|" then some <$> filterChain fuel none else pure none
          expect .blockEnd
          let inner ← closed fuel "endset"
          pure (.setBlock target chain inner)
        else
          symbol "="
          let value ← expr
          pure (.set target value)
    | "autoescape" => do
      let mode ← expr
      expect .blockEnd
      let inner ← closed fuel "endautoescape"
      pure (.autoescape mode inner)
    | "filter" => do
      let chain ← filterChain fuel none
      expect .blockEnd
      let inner ← closed fuel "endfilter"
      pure (.filterBlock chain inner)
    | "block" => do
      if (← get).inMacro then fail
      else
        let name ← ident
        if ((← get).blocks.lookup name).isSome then fail
        else
          modify fun cursor => { cursor with blocks := (name, []) :: cursor.blocks }
          expect .blockEnd
          let inner ← closed fuel "endblock"
          modify fun cursor => { cursor with blocks := (name, inner) :: cursor.blocks }
          match ← peek with
          | some (.ident trailing) =>
            if trailing = name then
              let _ ← next
              pure (.block name inner)
            else fail
          | _ => pure (.block name inner)
    | "macro" => do
      let name ← ident
      symbol "("
      let params ← parameters fuel ⟨[], []⟩
      let inner ← macroBody fuel "endmacro"
      pure (.macroDef name params inner)
    | "call" => do
      let params ← if ← skipSymbol "(" then parameters fuel ⟨[], []⟩ else pure ⟨[], []⟩
      let call ← callExpr
      let inner ← macroBody fuel "endcall"
      pure (.callBlock call params inner)
    | "do" => .run <$> callExpr
    | "extends" => do
      let source ← expr
      pure (.load source false)
    | "include" => do
      let source ← expr
      skipContextWords
      let optional ← skipWord "ignore"
      if optional then
        expect (.ident "missing")
        skipContextWords
      pure (.load source optional)
    | "import" => do
      let source ← expr
      expect (.ident "as")
      let _ ← expr
      skipContextWords
      pure (.load source false)
    | "from" => do
      let source ← expr
      expect (.ident "import")
      importedNames fuel true
      pure (.load source false)
    | _ => fail

end

end Reader

/-- A template that has been read. -/
structure Program where
  body : List Stmt
  /-- The blocks by name. -/
  blocks : List (String × List Stmt)
  deriving Inhabited

/-- Reads a template. -/
def parse (source : String) : Except Fault Program := do
  let tokens := Token.scan source
  let (body, cursor) ← (Reader.body (4 * (tokens.length + 1)) [] []).run ⟨tokens, 0, false, []⟩
  pure ⟨body, cursor.blocks⟩

end Template

end Orchestrator
