import Orchestrator.Text.Blank
import Orchestrator.Text.Percent

/-!
The targets of requests: a path, and a query behind a question mark. A fragment is dropped. An
absolute target names a scheme and a host before its path; a host alone has no path.
-/

namespace Orchestrator.Http

/-- The path and the query of a request. -/
structure Target where
  path : String
  query : Option String
  deriving DecidableEq, Repr, Inhabited

namespace Target

/-- Whether a character may stand in a path. -/
def isPathChar (c : Char) : Bool :=
  0x21 ≤ c.toNat && !"#<>?\x60".toList.contains c

/-- Whether a character may stand in a query. -/
def isQueryChar (c : Char) : Bool :=
  0x21 ≤ c.toNat && !"\"#<>".toList.contains c

/-- What stands before the fragment. -/
def withoutFragment (cs : List Char) : List Char := cs.takeWhile (· ≠ '#')

/-- Reads a path and a query. -/
def ofPath? (cs : List Char) : Option Target :=
  let cs := withoutFragment cs
  let path := cs.takeWhile (· ≠ '?')
  let query := match cs.dropWhile (· ≠ '?') with
    | _ :: rest => some rest
    | [] => none
  if path.all isPathChar && (query.getD []).all isQueryChar then
    some ⟨String.ofList path, query.map String.ofList⟩
  else none

/-- Whether a character may stand in the name of a host with its user and port. -/
def isHostChar (c : Char) : Bool :=
  c.isAlphanum || "-._~!$&'()*+,;=:@".toList.contains c

/-- Whether a text names a host, perhaps with a user in front and a port behind. -/
def isHost (cs : List Char) : Bool :=
  let host := match Text.cutAt? '@' cs with
    | some (_, host) => host
    | none => cs
  cs.all isHostChar && !host.isEmpty && !host.contains '@' && host.count ':' ≤ 1

/-- Reads what follows the scheme of an absolute target. -/
def ofAuthority? (cs : List Char) : Option Target :=
  let isHostPart (c : Char) : Bool := !"/?#".toList.contains c
  if isHost (cs.takeWhile isHostPart) then
    match cs.dropWhile isHostPart with
    | '/' :: rest => ofPath? ('/' :: rest)
    | rest => (ofPath? rest).map fun target => { target with path := "/" }
  else none

/-- Reads an absolute target; `none` if there is no scheme. -/
def ofAbsolute? (cs : List Char) : Option Target :=
  let isSchemeChar (c : Char) : Bool := c.isAlphanum || "+-.".toList.contains c
  match cs.takeWhile isSchemeChar, cs.dropWhile isSchemeChar with
  | _ :: _, ':' :: '/' :: '/' :: rest => ofAuthority? rest
  | _, _ => none

/-- Reads a target. -/
def parse? (s : String) : Option Target :=
  match s.toList with
  | [] => none
  | ['*'] => some ⟨"*", none⟩
  | '/' :: rest => ofPath? ('/' :: rest)
  | cs => (ofAbsolute? cs).or (if isHost cs then some ⟨"", none⟩ else none)

/-- The segments of a path, the empty one before the first slash aside. -/
def segments (path : String) : List String :=
  match Text.splitAt '/' path.toList with
  | [] :: rest => rest.map String.ofList
  | _ => []

end Target

/-- The fields of a form: names and values joined by equals signs and parted by ampersands, with
plus signs for spaces and escaped octets. -/
def formFields (form : String) : List (String × String) :=
  let decoded (cs : List Char) : String :=
    let spaced := String.ofList (cs.map fun c => if c = '+' then ' ' else c)
    Utf8.lossyText (Percent.decode (Utf8.octets spaced))
  (Text.splitAt '&' form.toList).filterMap fun piece =>
    if piece.isEmpty then none
    else match Text.cutAt? '=' piece with
      | some (name, value) => some (decoded name, decoded value)
      | none => some (decoded piece, "")

end Orchestrator.Http
