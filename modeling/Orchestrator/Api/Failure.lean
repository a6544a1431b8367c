import Orchestrator.Error
import Orchestrator.Json.Decode

/-!
How the service reports errors: a status, and a body that names the kind of error and describes it.
-/

namespace Orchestrator

/-- What the body of an error says. -/
structure ErrorDetail where
  message : String
  kind : String
  deriving DecidableEq, Repr, Inhabited

/-- The body of an error. -/
structure ErrorResponse where
  error : ErrorDetail
  deriving DecidableEq, Repr, Inhabited

/-- An error as it is sent to a client. -/
structure Failure where
  status : Nat
  body : ErrorResponse
  deriving DecidableEq, Repr, Inhabited

namespace ErrorDetail

def toJson (d : ErrorDetail) : Json :=
  Json.object [("message", .str d.message), ("type", .str d.kind)]

def read : Decoder ErrorDetail :=
  open Decode in
  record "ErrorDetail" <| (Fields.pure mk)
    |>.and (required "message" text)
    |>.and (required "type" text)

end ErrorDetail

namespace ErrorResponse

def toJson (r : ErrorResponse) : Json := Json.object [("error", r.error.toJson)]

def read : Decoder ErrorResponse :=
  open Decode in
  record "ErrorResponse" <| (Fields.pure mk)
    |>.and (required "error" ErrorDetail.read)

end ErrorResponse

namespace Failure

def new (status : Nat) (kind message : String) : Failure := ⟨status, ⟨⟨message, kind⟩⟩⟩

/-- The client has sent something that cannot be used. -/
def badRequest (message : String) : Failure := new 400 "invalid_request_error" message

/-- The client has asked for something that does not exist. -/
def notFound (message : String) : Failure := new 404 "not_found_error" message

/-- How an error of the orchestrator is reported. -/
def ofError (e : Error) : Failure :=
  match e with
  | .invalidInput _ => badRequest e.message
  | .illegalTransition .. => new 500 "illegal_state_transition" e.message
  | _ => if e.isNotFound then notFound e.message else new 500 "internal_error" e.message

end Failure

end Orchestrator
