import Orchestrator.Json.Printer
import Orchestrator.Text.Utf8

/-!
Requests and responses, as far as the service looks at them.
-/

namespace Orchestrator.Http

/-- Whether a character may stand in a header's value. -/
def isHeaderChar (c : Char) : Bool := c = '\t' || (32 ≤ c.toNat && c.toNat ≠ 127)

/-- Whether a text may be a header's value. -/
def isHeaderValue (s : String) : Bool := s.toList.all isHeaderChar

/-- Whether a text holds nothing but visible ASCII characters, spaces and tabs. -/
def isVisibleAscii (s : String) : Bool :=
  s.toList.all fun c => c = '\t' || (32 ≤ c.toNat && c.toNat < 127)

/-- Whether a character may stand in the name of a method. -/
def isTokenChar (c : Char) : Bool :=
  c.isAlphanum || "!#$%&'*+-.^_\x60|~".toList.contains c

/-- Whether a text may name a method. -/
def isMethod (s : String) : Bool := !s.isEmpty && s.toList.all isTokenChar

/-- A request. -/
structure Request where
  method : String
  /-- The path as it was sent, with escapes. -/
  path : String
  query : Option String
  contentType : Option String
  body : ByteArray
  deriving Inhabited

/-- A response. -/
structure Response where
  status : Nat
  location : Option String
  contentType : Option String
  /-- From which origins a browser may use the response. -/
  allowOrigin : Option String
  body : String
  deriving DecidableEq, Repr, Inhabited

namespace Request

/-- The declared type of the body; one that is not visible ASCII counts for nothing. -/
def readableType? (r : Request) : Option String := r.contentType.filter isVisibleAscii

/-- The largest body that is read, in octets. -/
def bodyLimit : Nat := 2 * 1024 * 1024

/-- Whether the body is too large to be read. -/
def isOversized (r : Request) : Bool := bodyLimit < r.body.size

/-- The body as text, if it is UTF-8. -/
def text? (r : Request) : Option String := Utf8.text? r.body

end Request

namespace Response

/-- A response without a body. -/
def empty (status : Nat) : Response := ⟨status, none, none, none, ""⟩

/-- A response with plain text. -/
def plain (status : Nat) (text : String) : Response :=
  { empty status with contentType := some "text/plain; charset=utf-8", body := text }

/-- A response with a JSON document. -/
def json (status : Nat) (document : Json) : Response :=
  { empty status with contentType := some "application/json", body := document.text }

/-- The response with the location of what was created, which is left out where a header cannot
hold it. -/
def located (r : Response) (location : String) : Response :=
  { r with location := (some location).filter isHeaderValue }

end Response

end Orchestrator.Http
