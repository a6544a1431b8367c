import Orchestrator.Cron.Parser

/-!
Why a template cannot be rendered.
-/

namespace Orchestrator

namespace Template

/-- Why one of the filters and functions that reach outside the language refuses its input. -/
inductive Refusal where
  | invalidPattern (pattern : String)
  | invalidTimestamp (raw : String)
  | invalidSchedule (expression : String) (error : Cron.Error)
  | invalidBase64
  | decodedNotText
  | invalidJson
  | notAnObject
  | bound (upper : Int)
  | length (n : Int)
  | unknownKey (key : String)
  | keyNotJson (key : String)
  deriving DecidableEq, Repr, Inhabited

/-- Why a template cannot be rendered. -/
inductive Fault where
  | syntaxError
  | badEscape
  | undefinedValue
  | unknownFilter
  | unknownTest
  | unknownFunction
  | unknownMethod
  | missingArgument
  | tooManyArguments
  | invalidOperation
  | cannotDeserialize
  | cannotUnpack
  | templateNotFound
  | unknownBlock
  /-- Templates that render templates are nested too deeply. -/
  | nestingExhausted
  | refused (reason : Refusal)
  deriving DecidableEq, Repr, Inhabited

open Cron (inQuotes)

def Refusal.message : Refusal → String
  | invalidPattern pattern => "invalid regex " ++ inQuotes pattern
  | invalidTimestamp raw => "invalid RFC3339 timestamp " ++ inQuotes raw
  | invalidSchedule expression error =>
    "invalid cron expression " ++ inQuotes expression ++ ": " ++ error.message
  | invalidBase64 => "invalid base64"
  | decodedNotText => "decoded base64 is not UTF-8"
  | invalidJson => "invalid JSON"
  | notAnObject => "unmarshalJson expects a JSON object"
  | bound upper => "randomInt needs a positive bound, got " ++ decimalText upper
  | length n => "randomAlpha needs a non-negative length, got " ++ decimalText n
  | unknownKey key => "datastore key " ++ inQuotes key ++ " not found"
  | keyNotJson key => "datastore key " ++ inQuotes key ++ " holds invalid JSON"

def Fault.message : Fault → String
  | syntaxError => "syntax error"
  | badEscape => "bad string escape"
  | undefinedValue => "undefined value"
  | unknownFilter => "unknown filter"
  | unknownTest => "unknown test"
  | unknownFunction => "unknown function"
  | unknownMethod => "unknown method"
  | missingArgument => "missing argument"
  | tooManyArguments => "too many arguments"
  | invalidOperation => "invalid operation"
  | cannotDeserialize => "cannot deserialize"
  | cannotUnpack => "cannot unpack"
  | templateNotFound => "template not found"
  | unknownBlock => "unknown block"
  | nestingExhausted => "invalid operation"
  | refused reason => "invalid operation: " ++ reason.message

end Template

end Orchestrator
