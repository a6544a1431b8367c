import Orchestrator.Template.Reader.Basic

/-!
Reading expressions.

Operators bind in nine levels. Those of one level associate to the left, and a level's operands are
the expressions of the next level.
-/

namespace Orchestrator

namespace Template

/-- The levels of binding, from the loosest. -/
inductive Level where
  | conditional
  | or
  | and
  | not
  | comparison
  | sum
  | concat
  | product
  | power
  | unary
  deriving DecidableEq

namespace Level

/-- The level of the operands. -/
def operand : Level → Level
  | conditional => or
  | or => and
  | and => not
  | not => comparison
  | comparison => sum
  | sum => concat
  | concat => product
  | product => power
  | power => unary
  | unary => unary

/-- The operator of a level that a token stands for. -/
def operator? : Level → Token → Option BinaryOp
  | or, .ident "or" => some .or
  | and, .ident "and" => some .and
  | comparison, .ident "in" => some .isIn
  | comparison, .sym s => [("==", BinaryOp.eq), ("!=", .ne), ("<", .lt), ("<=", .le), (">", .gt),
      (">=", .ge)].lookup s
  | sum, .sym s => [("+", BinaryOp.add), ("-", .sub)].lookup s
  | concat, .sym "~" => some .concat
  | product, .sym s =>
    [("*", BinaryOp.mul), ("/", .div), ("//", .floorDiv), ("%", .rem)].lookup s
  | power, .sym "**" => some .pow
  | _, _ => none

end Level

/-- The words that stand for values. -/
def constant? : String → Option Literal
  | "true" | "True" => some (.bool true)
  | "false" | "False" => some (.bool false)
  | "none" | "None" => some .none
  | _ => none

/-- Whether a token after the name of a test begins its argument. -/
def beginsArgument : Token → Bool
  | .ident name => !(["and", "or", "else", "is"].contains name)
  | .str _ | .int _ | .float _ => true
  | .sym s => ["+", "-", "[", "\x7b"].contains s
  | _ => false

namespace Reader

mutual

/-- Reads an expression of a level. The fuel of this and the following bounds the nesting of
calls. -/
def level : Nat → Level → Reader Expr
  | 0, _ => fail
  | fuel + 1, .not => do
    if ← skipWord "not" then
      let operand ← level fuel .not
      pure (.unary .not operand)
    else level fuel .comparison
  | fuel + 1, .unary => do
    let primary ← negated fuel
    let e ← suffixed fuel primary
    filtered fuel e
  | fuel + 1, l => do
    let first ← level fuel l.operand
    operators fuel l first

/-- Reads the operators of a level after the first operand. -/
def operators : Nat → Level → Expr → Reader Expr
  | 0, _, _ => fail
  | fuel + 1, .conditional, e => do
    if ← skipWord "if" then
      let test ← level fuel .or
      let whenFalse ←
        if ← skipWord "else" then some <$> level fuel .conditional else pure none
      operators fuel .conditional (.conditional test e whenFalse)
    else pure e
  | fuel + 1, l, e => do
    match ← peek with
    | none => pure e
    | some token =>
      match l.operator? token with
      | some op =>
        let _ ← next
        let right ← level fuel l.operand
        operators fuel l (.binary op e right)
      | none =>
        if l = .comparison ∧ token = .ident "not" then
          let _ ← next
          expect (.ident "in")
          let right ← level fuel l.operand
          operators fuel l (.unary .not (.binary .isIn e right))
        else pure e

/-- Reads a primary expression with its signs. -/
def negated : Nat → Reader Expr
  | 0 => fail
  | fuel + 1 => do
    if ← skipSymbol "-" then
      let operand ← negated fuel
      pure (.unary .neg operand)
    else nested (primary fuel)

/-- Reads a literal, a variable, or something in brackets. -/
def primary : Nat → Reader Expr
  | 0 => fail
  | fuel + 1 => do
    match ← next with
    | .ident name =>
      match constant? name with
      | some value => pure (.literal value)
      | none => pure (.var name)
    | .str s => pure (.literal (.str s))
    | .int n => pure (.literal (.int n))
    | .float x => pure (.literal (.float x))
    | .sym "(" => do
      if ← skipSymbol ")" then pure (.list [])
      else
        let first ← level fuel .conditional
        if ← seesSymbol "," then .list <$> items fuel ")" [first]
        else
          symbol ")"
          pure first
    | .sym "[" => .list <$> items fuel "]" []
    | .sym "\x7b" => .map <$> entries fuel []
    | _ => throw .syntaxError

/-- Reads the elements of a list up to its closing bracket, in addition to those given in
reverse. -/
def items : Nat → String → List Expr → Reader (List Expr)
  | 0, _, _ => fail
  | fuel + 1, close, acc => do
    if ← skipSymbol close then pure acc.reverse
    else
      unless acc.isEmpty do symbol ","
      if ← (if acc.isEmpty then pure false else skipSymbol close) then pure acc.reverse
      else
        let item ← level fuel .conditional
        items fuel close (item :: acc)

/-- Reads the entries of a map up to its closing bracket. -/
def entries : Nat → List (Expr × Expr) → Reader (List (Expr × Expr))
  | 0, _ => fail
  | fuel + 1, acc => do
    if ← skipSymbol "\x7d" then pure acc.reverse
    else
      unless acc.isEmpty do symbol ","
      if ← (if acc.isEmpty then pure false else skipSymbol "\x7d") then pure acc.reverse
      else
        let key ← level fuel .conditional
        symbol ":"
        let value ← level fuel .conditional
        entries fuel ((key, value) :: acc)

/-- Reads attributes, items and calls after an expression. -/
def suffixed : Nat → Expr → Reader Expr
  | 0, _ => fail
  | fuel + 1, e => do
    match ← peek with
    | some (.sym ".") =>
      let _ ← next
      let name ← ident
      suffixed fuel (.attr e name)
    | some (.sym "[") =>
      let _ ← next
      let part ← subscript fuel e
      symbol "]"
      suffixed fuel part
    | some (.sym "(") =>
      let _ ← next
      let passed ← arguments fuel []
      suffixed fuel (.call e passed)
    | _ => pure e

/-- Reads what stands between square brackets after an expression. -/
def subscript : Nat → Expr → Reader Expr
  | 0, _ => fail
  | fuel + 1, e => do
    let start ← if ← seesSymbol ":" then pure none else some <$> level fuel .conditional
    if ← skipSymbol ":" then
      let stop ←
        if (← seesSymbol "]") || (← seesSymbol ":") then pure none
        else some <$> level fuel .conditional
      let step ←
        if ← skipSymbol ":" then
          if ← seesSymbol "]" then pure none else some <$> level fuel .conditional
        else pure none
      pure (.slice e start stop step)
    else
      match start with
      | some key => pure (.item e key)
      | none => fail

/-- Reads the arguments of a call after its opening bracket. -/
def arguments : Nat → List (Passing × Expr) → Reader (List (Passing × Expr))
  | 0, _ => fail
  | fuel + 1, acc => do
    if ← skipSymbol ")" then pure acc.reverse
    else
      unless acc.isEmpty do symbol ","
      if ← (if acc.isEmpty then pure false else skipSymbol ")") then pure acc.reverse
      else
        let hasNamed := acc.any fun (passing, _) =>
          match passing with
          | .named _ | .spreadNamed => true
          | _ => false
        if ← skipSymbol "**" then
          let e ← level fuel .conditional
          arguments fuel ((.spreadNamed, e) :: acc)
        else if ← skipSymbol "*" then
          let e ← level fuel .conditional
          arguments fuel ((.spread, e) :: acc)
        else
          let e ← level fuel .conditional
          match e with
          | .var name =>
            if ← skipSymbol "=" then
              let value ← level fuel .or
              arguments fuel ((.named name, value) :: acc)
            else if hasNamed then fail
            else arguments fuel ((.positional, e) :: acc)
          | _ => if hasNamed then fail else arguments fuel ((.positional, e) :: acc)

/-- Reads filters and tests after an expression. -/
def filtered : Nat → Expr → Reader Expr
  | 0, _ => fail
  | fuel + 1, e => do
    if ← skipSymbol "|" then
      let name ← ident
      let passed ← if ← skipSymbol "(" then arguments fuel [] else pure []
      filtered fuel (.filter name e passed)
    else if ← skipWord "is" then
      let isNegated ← skipWord "not"
      let name ← ident
      let passed ←
        if ← skipSymbol "(" then arguments fuel []
        else
          match ← peek with
          | some token =>
            if beginsArgument token then
              let argument ← negated fuel
              let argument ← suffixed fuel argument
              pure [(.positional, argument)]
            else pure []
          | none => pure []
      let e := Expr.test name e passed
      filtered fuel (if isNegated then .unary .not e else e)
    else pure e

end

/-- Enough fuel for the tokens that are left: a token lies at most one chain of levels below the one
before. -/
def allowance : Reader Nat := do
  pure (16 * ((← get).tokens.length + 1))

/-- Reads an expression. -/
def expr : Reader Expr := do level (← allowance) .conditional

/-- Reads an expression that is not conditional. -/
def plainExpr : Reader Expr := do level (← allowance) .or

/-- Reads the arguments of a filter, if there are any. -/
def filterArguments : Reader (List (Passing × Expr)) := do
  if ← skipSymbol "(" then arguments (← allowance) [] else pure []

end Reader

end Template

end Orchestrator
