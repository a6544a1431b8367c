import Orchestrator.Template.Machine

/-!
Rendering templates.

Expressions and statements are evaluated along their structure. What a macro or a recursive loop
runs is not part of the structure at hand; it is reached through `Reach`, which comes in levels, each
of which reaches only the one below. No more levels are needed than frames may be open.

A nested template is called for, and rendered in the same way. Only the memory bounds how many
templates are rendered one within the other.
-/

namespace Orchestrator

namespace Template

/-- What the evaluation of a template can reach beside the expressions and statements at hand. -/
structure Reach where
  data : DataStore
  blocks : List (String × List Stmt)
  eval : Expr → Render Value
  body : List Stmt → Render Unit

namespace Render

open Value (ofText)

/-- The part of a value under a key. -/
def part (v key : Value) : Render Value := do
  match v, key with
  | .macroValue name params body _, .str field _ =>
    match field with
    | "name" => pure (ofText name)
    | "arguments" => pure (.list (params.names.map ofText))
    | "caller" => pure (.bool (Stmt.bodyMentions "caller" body))
    | _ => pure .undefined
  | v, key =>
    let v ← snapshot v
    v.part key

/-- Sets an attribute, on the way that the names lead from a value. -/
def assignPart (v : Value) (path : List String) (new : Value) : Render Unit := do
  match path, v with
  | [], _ => pure ()
  | [name], .record place =>
    let entries ← entriesAt place
    writeCell place (.record (Value.insert (ofText name) new entries))
  | [_], _ => invalid
  | name :: rest, v =>
    let inner ← part v (ofText name)
    assignPart inner rest new

mutual

/-- Assigns a value to a target. -/
def bindTo : Target → Value → Render Unit
  | .name name, v => assign name v
  | .path base attrs, v => do
    let target ← lookup? base
    assignPart (target.getD .undefined) attrs v
  | .list targets, v => do
    match v.parts? with
    | some items => bindAll targets items
    | none => fail .cannotUnpack

/-- Assigns the elements of a list to as many targets. -/
def bindAll : List Target → List Value → Render Unit
  | [], [] => pure ()
  | target :: targets, v :: rest => do
    if targets.length = rest.length then
      bindTo target v
      bindAll targets rest
    else fail .cannotUnpack
  | _, _ => fail .cannotUnpack

end

/-- Runs the body of a loop for each element that is left. -/
def iterateFrom (run : Render Unit) (place : Nat) : LoopState → List Value → Render Unit
  | _, [] => pure ()
  | s, v :: rest => do
    let s := { s with following := rest.head?.getD .undefined }
    let s := match ← loopAt? place with
      | some now => { s with lastSeen := now.lastSeen }
      | none => s
    writeCell place (.loop s)
    bindTo s.target v
    run
    iterateFrom run place { s with index := s.index + 1, previous := v } rest

/-- Runs the body of a loop for each element, in a frame of the loop. -/
def iterate (run : Render Unit) (s : LoopState) (items : List Value) : Render Unit := do
  let s := { s with length := items.length }
  let place ← newCell (.loop s)
  inFrame ⟨[], some place, none⟩ (iterateFrom run place s items)

/-- The innermost loop. -/
def currentLoop : Render (Option LoopState) := do
  match (← get).frames.findSome? Frame.loop with
  | some place => loopAt? place
  | none => pure none

/-- Runs the innermost loop, which has to be recursive, for other elements. -/
def recurse (r : Reach) (args : Args) : Render Value := do
  match args.given, (← currentLoop) with
  | [v], some s =>
    if s.isRecursive then
      let items ← (← snapshot v).walk
      let fresh := LoopState.start s.target s.body true (s.depth + 1)
      capture (iterate (r.body s.body) fresh items)
    else invalid
  | _, _ => invalid

/-- Sets the parameters of a macro from the last to the first. Where an argument is undefined, the
default value is taken. -/
def setParameters (r : Reach) : List (String × Value) → List Expr → Render Unit
  | [], _ => pure ()
  | (name, v) :: rest, defaults => do
    match defaults with
    | [] => assign name v
    | e :: _ => assign name (← if v.isUndefined then r.eval e else pure v)
    setParameters r rest defaults.tail

/-- The arguments of a macro by name. -/
def macroArguments (params : Params) (args : Args) : Except Fault (List (String × Value)) := do
  if params.names.length < args.given.length then throw .tooManyArguments
  let named := args.named.getD []
  let taken := params.names.take args.given.length
  if taken.any fun name => (named.lookup name).isSome then throw .tooManyArguments
  let left := params.names.drop args.given.length
  pure (taken.zip args.given ++ left.map fun name => (name, (named.lookup name).getD .undefined))

/-- Calls a macro. -/
def callMacro (r : Reach) (params : Params) (body : List Stmt) (place : Nat) (args : Args) :
    Render Value := do
  let values ← macroArguments params args
  let named := args.named.getD []
  let wantsCaller := Stmt.bodyMentions "caller" body
  let isKnown (name : String) : Bool :=
    params.names.contains name || (wantsCaller && name == "caller")
  if named.any fun entry => !isKnown entry.1 then fail .tooManyArguments
  let outer ← get
  let frames := match outer.cells[place]? with
    | some (.scope frames) => frames
    | _ => []
  let depth := outer.depth + 5
  if maxFrames < depth then invalid
  let caller := if wantsCaller then [("caller", (named.lookup "caller").getD .undefined)] else []
  set { outer with frames := ⟨caller, none, none⟩ :: frames, depth }
  let result ← capture do
    setParameters r values.reverse params.defaults.reverse
    r.body body
  modify fun m => { m with frames := outer.frames, depth := outer.depth }
  pure result

/-- The numbers of a range. -/
def rangeOf (args : Args) : Except Fault Value :=
  let asBound (v : Value) : Except Fault Nat := do
    let n ← Take.asCount v
    if n < Nat.pow 2 32 then pure n else throw .invalidOperation
  let take : Take (Except Fault Value) := do
    let lower ← asBound (← Take.value)
    let upper ← Take.optional asBound
    let step ← Take.optional asBound
    let (first, last) := match upper with
      | some upper => (lower, upper)
      | none => (0, lower)
    let step := step.getD 1
    pure <|
      if step = 0 then .error .invalidOperation
      else
        let count := (last - first + step - 1) / step
        if 100000 < count then .error .invalidOperation
        else .ok (.series ((List.range count).map fun i => .int (first + i * step : Nat)))
  Tool.of take args

/-- The entries of an optional map, and of named arguments over them. -/
def entriesOf (args : Args) : Except Fault (List (Value × Value)) := do
  let base ← match args.given with
    | [] | [.undefined] => pure []
    | [.map entries] => pure entries
    | [_] => throw .invalidOperation
    | _ => throw .tooManyArguments
  pure ((args.named.getD []).foldl (fun acc (k, v) => Value.insert (ofText k) v acc) base)

/-- The value under a key of the datastore. -/
def readData (data : DataStore) (key : String) : Except Fault Value :=
  match data.get? key with
  | none => .error (.refused (.unknownKey key))
  | some entry =>
    if entry.isJson then
      match Json.parse? entry.value with
      | some j => .ok (.ofJson j)
      | none => .error (.refused (.keyNotJson key))
    else .ok (ofText entry.value)

/-- The only argument of a call, converted. -/
def onlyArgument {α : Type} (take : Take α) (args : Args) : Except Fault α := do
  let (x, left) ← take.run args
  if left.given.isEmpty ∧ left.named.isNone then pure x else throw .tooManyArguments

/-- The letters of random texts. -/
def letters : List Char :=
  "ABCDEFGHIJKLMNOPQRSTUVWXYZabcdefghijklmnopqrstuvwxyz".toList

/-- Some random letters. -/
def drawLetters : Nat → List Char → Render (List Char)
  | 0, acc => pure acc
  | n + 1, acc => do
    let i ← draw letters.length
    drawLetters n (letters.getD i 'A' :: acc)

/-- Calls one of the functions that every template can call. -/
def callFunction (r : Reach) (name : String) (args : Args) : Render Value := do
  match name with
  | "range" => rangeOf args
  | "dict" => return .map (← entriesOf args)
  | "namespace" => return .record (← newCell (.record (← entriesOf args)))
  | "debug" => pure (ofText "")
  | "unmarshalJson" =>
    let v ← onlyArgument Take.value args
    Extension.readObject v.plainText
  | "datastore" =>
    let key ← onlyArgument Take.text args
    readData r.data key
  | "randomInt" =>
    let upper ← onlyArgument Take.int args
    if upper ≤ 0 then fail (.refused (.bound upper))
    else return .int (← draw upper.toNat)
  | "randomAlpha" =>
    let n ← onlyArgument Take.int args
    if n < 0 then fail (.refused (.length n))
    else return ofText (String.ofList (← drawLetters n.toNat []))
  | "template" =>
    let take : Take (String × Value) := do
      let source ← Take.text
      let bindings ← Take.value
      pure (source, bindings)
    let (source, bindings) ← onlyArgument take args
    let bindings ← snapshot bindings
    let seed ← draw (Nat.pow 2 53)
    return ofText (← nest ⟨seed, source, bindings⟩)
  | _ => fail .unknownFunction

/-- Calls a value. -/
def callValue (r : Reach) (v : Value) (args : Args) : Render Value := do
  match v with
  | .function name => callFunction r name args
  | .macroValue _ params body place => callMacro r params body place args
  | _ => invalid

/-- Calls a function by its name. -/
def callNamed (r : Reach) (name : String) (args : Args) : Render Value := do
  match name with
  | "super" => invalid
  | "loop" => recurse r args
  | _ =>
    match ← lookup? name with
    | some v => callValue r v args
    | none => fail .unknownFunction

/-- Calls a method of a value. -/
def callMethod (r : Reach) (v : Value) (name : String) (args : Args) : Render Value := do
  match v with
  | .loopState place =>
    match ← loopAt? place with
    | none => invalid
    | some s =>
      match name with
      | "cycle" =>
        match args.given[s.index % args.given.length]? with
        | some v => pure v
        | none => pure .undefined
      | "changed" =>
        let isSame := match s.lastSeen with
          | some seen => Value.equalItems seen args.given
          | none => false
        writeCell place (.loop { s with lastSeen := some args.given })
        pure (.bool !isSame)
      | _ => if ((loopEntries s).lookup name).isSome then invalid else fail .unknownMethod
  | .map entries =>
    match Value.lookup (ofText name) entries with
    | some f => callValue r f args
    | none => fail .unknownMethod
  | .record place =>
    match Value.lookup (ofText name) (← entriesAt place) with
    | some f => callValue r f args
    | none => fail .unknownMethod
  | _ => fail .unknownMethod

/-- The text of a block. -/
def callBlock (r : Reach) (name : String) : Render Value := do
  match r.blocks.lookup name with
  | some body => capture (inFrame ⟨[], none, none⟩ (r.body body))
  | none => fail .unknownBlock

/-- Calls what an expression stands for. `target` finds the value of the expression, or for an
attribute the value that has it. -/
def callBy (r : Reach) (callee : Expr) (target : Render Value) (args : Render Args) :
    Render Value := do
  match callee with
  | .var name => do
    let args ← args
    callNamed r name args
  | .attr (.var "self") name => callBlock r name
  | .attr _ name => do
    let v ← target
    let args ← args
    callMethod r v name args
  | _ => do
    let v ← target
    let args ← args
    callValue r v args

/-- Adds the elements or entries of a spread argument. -/
def Args.spread (passing : Passing) (v : Value) (args : Args) : Except Fault Args :=
  match passing with
  | .positional => .ok { args with given := args.given ++ [v] }
  | .named name => .ok { args with named := some ((args.named.getD []) ++ [(name, v)]) }
  | .spread => do
    let items ← v.walk
    pure { args with given := args.given ++ items }
  | .spreadNamed =>
    match v with
    | .map entries =>
      let named := entries.filterMap fun (k, v) => k.asText?.map (·, v)
      .ok { args with named := some ((args.named.getD []) ++ named) }
    | _ => .error .invalidOperation

/-- Passes over a template that is not there, or fails for it. -/
def loadMissing (source : Value) (isOptional : Bool) : Render Unit := do
  let names := source.listed?.getD [source]
  if names.any fun v => v.asText?.isNone then invalid
  else if isOptional ∨ names.isEmpty then pure ()
  else fail .templateNotFound

/-- Whether text is to be escaped, as the mode of an autoescape statement says. -/
def escapingMode : Value → Render Bool
  | .str "html" _ => pure true
  | .str "none" _ => pure false
  | .str _ _ => invalid
  | .bool b => pure b
  | v => if v.isEqual (.bool true) then pure true else if v.isEqual (.bool false) then pure false
    else invalid

mutual

/-- The value of an expression. -/
def eval (r : Reach) : Expr → Render Value
  | .literal v => pure (.ofLiteral v)
  | .var name => return (← lookup? name).getD .undefined
  | .unary .not e => return .bool !(← eval r e).isTrue
  | .unary .neg e => do
    let v ← eval r e
    v.neg
  | .binary .and a b => do
    let x ← eval r a
    if x.isTrue then eval r b else pure x
  | .binary .or a b => do
    let x ← eval r a
    if x.isTrue then pure x else eval r b
  | .binary op a b => do
    let x ← eval r a
    let y ← eval r b
    let y ← if op = .isIn then snapshot y else pure y
    Value.operate op x y
  | .conditional test whenTrue whenFalse => do
    if (← eval r test).isTrue then eval r whenTrue else evalOption r .undefined whenFalse
  | .attr e name => do
    let v ← eval r e
    part v (ofText name)
  | .item e key => do
    let v ← eval r e
    let k ← eval r key
    part v k
  | .slice e start stop step => do
    let v ← eval r e
    let first ← evalOption r .none start
    let last ← evalOption r .none stop
    let stride ← evalOption r .none step
    v.slice first last stride
  | .call (.attr e name) args => callBy r (.attr e name) (eval r e) (evalArgs r args ⟨[], none⟩)
  | .call callee args => callBy r callee (eval r callee) (evalArgs r args ⟨[], none⟩)
  | .filter name e args => do
    let v ← snapshot (← eval r e)
    let args ← evalArgs r args ⟨[v], none⟩
    applyFilter name args
  | .test name e args => do
    let v ← snapshot (← eval r e)
    let args ← evalArgs r args ⟨[v], none⟩
    return .bool (← applyTest name args)
  | .list items => return .list (← evalItems r items)
  | .map entries => return .ofPairs (← evalEntries r entries)
  | .caught => return (← get).caught

/-- The value of an expression that may be left out. -/
def evalOption (r : Reach) (default : Value) : Option Expr → Render Value
  | none => pure default
  | some e => eval r e

/-- The values of several expressions. -/
def evalItems (r : Reach) : List Expr → Render (List Value)
  | [] => pure []
  | e :: rest => do
    let v ← eval r e
    let vs ← evalItems r rest
    pure (v :: vs)

/-- The keys and values of a map. -/
def evalEntries (r : Reach) : List (Expr × Expr) → Render (List (Value × Value))
  | [] => pure []
  | (key, value) :: rest => do
    let k ← eval r key
    let v ← eval r value
    let entries ← evalEntries r rest
    pure ((k, v) :: entries)

/-- Adds arguments to those that are there. -/
def evalArgs (r : Reach) : List (Passing × Expr) → Args → Render Args
  | [], args => pure args
  | (passing, e) :: rest, args => do
    let v ← eval r e
    let args ← Args.spread passing v args
    evalArgs r rest args

end

/-- Binds the variables of a scope one after the other. -/
def bindEach (r : Reach) : List (Target × Expr) → Render Unit
  | [] => pure ()
  | (target, e) :: rest => do
    let v ← eval r e
    bindTo target v
    bindEach r rest

/-- The text of a block, through a filter if there is one. -/
def filterCaught (r : Reach) (chain : Option Expr) (v : Value) : Render Value := do
  match chain with
  | none => pure v
  | some e =>
    modify fun m => { m with caught := v }
    eval r e

/-- The elements that pass the condition of a loop. -/
def passing (r : Reach) (target : Target) (condition : Option Expr) (items : List Value) :
    Render (List Value) := do
  match condition with
  | none => pure items
  | some e =>
    inFrame ⟨[], none, none⟩ <| items.filterM fun v => do
      bindTo target v
      return (← eval r e).isTrue

mutual

/-- Runs a statement. -/
def exec (r : Reach) : Stmt → Render Unit
  | .text s => write s
  | .output e => do print (← eval r e)
  | .conditional test whenTrue whenFalse => do
    if (← eval r test).isTrue then execAll r whenTrue else execAll r whenFalse
  | .loop target source condition isRecursive body orElse => do
    let items ← (← snapshot (← eval r source)).walk
    let items ← passing r target condition items
    if items.isEmpty then execAll r orElse
    else
      let depth := match ← currentLoop with
        | some s => if s.isRecursive then s.depth + 1 else 0
        | none => 0
      iterate (execAll r body) (LoopState.start target body isRecursive depth) items
  | .scope bindings body =>
    inFrame ⟨[], none, none⟩ do
      bindEach r bindings
      execAll r body
  | .set target value => do
    let v ← eval r value
    bindTo target v
  | .setBlock target chain body => do
    let v ← capture (execAll r body)
    let v ← filterCaught r chain v
    bindTo target v
  | .autoescape mode body => do
    let before := (← get).escaping
    let escaping ← escapingMode (← eval r mode)
    modify fun m => { m with escaping }
    execAll r body
    modify fun m => { m with escaping := before }
  | .filterBlock chain body => do
    let v ← capture (execAll r body)
    print (← filterCaught r (some chain) v)
  | .block _ body => inFrame ⟨[], none, none⟩ (execAll r body)
  | .macroDef name params body => do
    let place ← sharedScope
    assign name (.macroValue name params body place)
  | .callBlock call params body => do
    let place ← sharedScope
    let withCaller (args : List (Passing × Expr)) : Render Args := do
      let args ← evalArgs r args ⟨[], none⟩
      Args.spread (.named "caller") (.macroValue "caller" params body place) args
    match call with
    | .call (.attr e name) args => print (← callBy r (.attr e name) (eval r e) (withCaller args))
    | .call callee args => print (← callBy r callee (eval r callee) (withCaller args))
    | _ => invalid
  | .run call => do
    let _ ← eval r call
  | .load source isOptional => do
    loadMissing (← eval r source) isOptional

/-- Runs statements one after the other. -/
def execAll (r : Reach) : List Stmt → Render Unit
  | [] => pure ()
  | s :: rest => do
    exec r s
    execAll r rest

end

end Render

/-- The levels of what can be reached within one template. -/
def Reach.level (data : DataStore) (blocks : List (String × List Stmt)) : Nat → Reach
  | 0 => ⟨data, blocks, fun _ => Render.invalid, fun _ => Render.invalid⟩
  | n + 1 =>
    -- The level below is made when it is reached.
    ⟨data, blocks, fun e => Render.eval (Reach.level data blocks n) e,
      fun body => Render.execAll (Reach.level data blocks n) body⟩

/-- The variables of a template, which are the entries of a map. -/
def variablesOf : Value → List (String × Value)
  | .map entries => entries.filterMap fun (k, v) => k.asText?.map (·, v)
  | _ => []

/-- A template of which nothing has been rendered yet. -/
def Machine.start (c : Call) : Machine :=
  ⟨[⟨variablesOf c.bindings, none, none⟩], #[], "", false, 1, c.seed, .undefined⟩

/-- Renders one template. -/
def run (data : DataStore) (c : Call) : Calling String := do
  let program ← parse c.source
  let reach := Reach.level data program.blocks maxFrames
  let (_, m) ← (Render.execAll reach program.body).run (.start c)
  pure m.out

/-- Renders a template with at most the given number of templates one within the other, which may be
too few for it to come to anything. -/
def renderWithin (data : DataStore) : Nat → Call → Option (Except Fault String)
  | 0, _ => none
  | depth + 1, c => (run data c).outcome (renderWithin data depth)

/-- How many templates are rendered one within the other at most. No memory holds so many; a rendering
that needs more has ended the program before. -/
def maxNesting : Nat := Nat.pow 2 62

/-- Renders a template. -/
def render (data : DataStore) (seed : Nat) (source : String) (bindings : Json) :
    Except Fault String :=
  (renderWithin data maxNesting ⟨seed, source, .ofJson bindings⟩).getD (.error .nestingExhausted)

end Template

end Orchestrator
