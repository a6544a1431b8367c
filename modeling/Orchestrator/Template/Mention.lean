import Orchestrator.Template.Syntax

/-!
Which variables occur in expressions and statements.
-/

namespace Orchestrator

namespace Template

namespace Expr

mutual

/-- Whether a variable occurs in an expression. -/
def mentions (name : String) : Expr → Bool
  | literal _ | caught => false
  | var other => other == name
  | unary _ e => e.mentions name
  | binary _ a b => a.mentions name || b.mentions name
  | conditional decider whenTrue whenFalse =>
    decider.mentions name || whenTrue.mentions name || optionMentions name whenFalse
  | attr e _ => e.mentions name
  | item e key => e.mentions name || key.mentions name
  | slice e start stop step =>
    e.mentions name || optionMentions name start || optionMentions name stop ||
      optionMentions name step
  | call e args => e.mentions name || argsMention name args
  | filter _ e args => e.mentions name || argsMention name args
  | test _ e args => e.mentions name || argsMention name args
  | list items => itemsMention name items
  | map entries => entriesMention name entries

/-- Whether a variable occurs in an expression that may be left out. -/
def optionMentions (name : String) : Option Expr → Bool
  | none => false
  | some e => e.mentions name

/-- Whether a variable occurs in one of several expressions. -/
def itemsMention (name : String) : List Expr → Bool
  | [] => false
  | e :: rest => e.mentions name || itemsMention name rest

/-- Whether a variable occurs in an argument. -/
def argsMention (name : String) : List (Passing × Expr) → Bool
  | [] => false
  | (_, e) :: rest => e.mentions name || argsMention name rest

/-- Whether a variable occurs in an entry. -/
def entriesMention (name : String) : List (Expr × Expr) → Bool
  | [] => false
  | (k, v) :: rest => k.mentions name || v.mentions name || entriesMention name rest

end

end Expr

namespace Stmt

mutual

/-- Whether a variable occurs in a statement. -/
def mentions (name : String) : Stmt → Bool
  | text _ => false
  | output e => e.mentions name
  | conditional test whenTrue whenFalse =>
    test.mentions name || bodyMentions name whenTrue || bodyMentions name whenFalse
  | loop _ source filter _ body orElse =>
    source.mentions name || filter.any (·.mentions name) || bodyMentions name body ||
      bodyMentions name orElse
  | scope bindings body => bindings.any (·.2.mentions name) || bodyMentions name body
  | set _ value => value.mentions name
  | setBlock _ filter body => filter.any (·.mentions name) || bodyMentions name body
  | autoescape mode body => mode.mentions name || bodyMentions name body
  | filterBlock filter body => filter.mentions name || bodyMentions name body
  | block _ body => bodyMentions name body
  | macroDef _ params body => params.defaults.any (·.mentions name) || bodyMentions name body
  | callBlock call params body =>
    call.mentions name || params.defaults.any (·.mentions name) || bodyMentions name body
  | run call => call.mentions name
  | load source _ => source.mentions name

/-- Whether a variable occurs in a body. -/
def bodyMentions (name : String) : List Stmt → Bool
  | [] => false
  | s :: rest => s.mentions name || bodyMentions name rest

end

end Stmt

end Template

end Orchestrator
