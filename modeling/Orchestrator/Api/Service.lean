import Orchestrator.Api.Handler

/-!
The service as a whole: it finds the resource of a request, has it handled, and sees to what all
responses have in common.
-/

namespace Orchestrator.Api

open Http (Request Response)

/-- Handles a request by its path: an unknown path is not found, a method that the resource does not
have is refused, and names in the path have to be UTF-8. -/
def route (r : Request) : Handling Response := do
  let some resource := Resource.ofPath? r.path | accept (.error (.notFound "Not found"))
  if !resource.methods.contains r.method then throw (.empty 405)
  match resource.unescaped with
  | .ok resource => handle resource (if r.method == "HEAD" then "GET" else r.method) r
  | .error calledAs =>
    throw (.plain 400 ("Invalid URL: Invalid UTF-8 in " ++ DecodeError.ticked calledAs))

/-- Whether a resource is asked by `HEAD` for all but the body of what it would answer. -/
def isForHead (r : Request) : Bool := r.method == "HEAD" && (Resource.ofPath? r.path).isSome

/-- Answers a request within the same origin. -/
def answer (s : Hub) (r : Request) : Response × Hub :=
  let (outcome, s) := (route r).run s
  let response := match outcome with
    | .ok response | .error response => response
  (if isForHead r then { response with body := "" } else response, s)

/-- Answers a request. With `shared`, browsers may use the service from any origin, and what they ask
by `OPTIONS` before they do is granted. -/
def serve (shared : Bool) (s : Hub) (r : Request) : Response × Hub :=
  if !shared then answer s r
  else
    let (response, s) := if r.method == "OPTIONS" then (.empty 200, s) else answer s r
    ({ response with allowOrigin := some "*" }, s)

end Orchestrator.Api
