import Orchestrator.Http.Target
import Orchestrator.Station
import Std.Http
import Std.Time

/-!
The service on a network: requests come in by connections, each is answered by the station, and old
actions and packs are removed while the service runs. All that is decided is decided by the station;
here it only gets the time and the messages.
-/

namespace Orchestrator

open Std.Async (Async)

/-- A service that is reached by a network. -/
structure Server where
  settings : Settings
  station : Std.Mutex Station

namespace Server

/-- The moment that the clock shows. -/
def clock : IO Timestamp := do
  let nanos := (← Std.Time.Timestamp.now).toNanosecondsSinceUnixEpoch.val
  return ⟨Int.fdiv nanos nanosPerSecond, (Int.fmod nanos nanosPerSecond).toNat⟩

/-- Changes the station, on its own, at the moment that the clock shows. -/
def change {α : Type} (s : Server) (step : Timestamp → Station → α × Station) : IO α :=
  s.station.atomically do
    let now ← clock
    modifyGet (step now)

/-- A request as the service looks at it; `none` if its target cannot be read. -/
def request? (head : Std.Http.Request.Head) (body : ByteArray) : Option Http.Request := do
  let target ← Http.Target.parse? (toString head.uri)
  let contentType := (head.headers.get? .contentType).map fun value => value.value
  return ⟨toString head.method, target.path, target.query, contentType, body⟩

/-- A response as it is sent. -/
def sent (r : Http.Response) : Async (Std.Http.Response Std.Http.Body.Full) := do
  let status := (Std.Http.Status.ofCode none r.status.toUInt16).getD .internalServerError
  let headers := [("content-type", r.contentType), ("location", r.location),
    ("access-control-allow-origin", r.allowOrigin)]
  let addHeader (b : Std.Http.Response.Builder) (h : String × Option String) :=
    (h.2.bind (b.header? h.1)).getD b
  let builder := headers.foldl addHeader (Std.Http.Response.withStatus status)
  return { line := builder.line, body := ← Std.Http.Body.Full.ofByteArray r.body.toUTF8 }

instance : Std.Http.Server.Handler Server where
  ResponseBody := Std.Http.Body.Full
  onRequest s r := do
    let body : ByteArray ← r.body.readAll
    match request? r.line body with
    | some request => sent (← s.change fun now station => station.answer now request)
    | none => sent (.empty 400)

/-- The longest time that is waited at once, in milliseconds. -/
def longestWait : Int := 100 * 365 * 86400 * 1000

def wait (milliseconds : Int) : Async Unit :=
  Std.Async.sleep (.ofInt (max 0 (min milliseconds longestWait)))

/-- Removes old actions again and again. -/
def expireActions (s : Server) : Async Unit := do
  repeat
    s.change fun now station => ((), station.expire s.settings now)
    wait (1000 * s.settings.expiryPeriod)

/-- Removes old packs once a day. -/
def sweepPacks (s : Server) : Async Unit := do
  repeat
    let now ← clock
    match now.nextDaily? s.settings.sweepTime with
    | some next => wait ((next.nanosSince now + 999999) / 1000000)
    | none => wait longestWait
    s.change fun now station => ((), station.sweep s.settings now)

/-- The address of the host, of which the first that is found counts. -/
def address (settings : Settings) : Async Std.Net.SocketAddress := do
  let port := settings.port.toUInt16
  match (← Std.Async.DNS.getAddrInfo settings.host (toString settings.port)).toList with
  | .v4 addr :: _ => return .v4 ⟨addr, port⟩
  | .v6 addr :: _ => return .v6 ⟨addr, port⟩
  | [] => throw (IO.userError ("no address for " ++ settings.host))

/-- Serves until the program ends. -/
def run (settings : Settings) : IO Unit := Async.block do
  let seed ← IO.getRandomBytes 32
  let server : Server := ⟨settings, ← Std.Mutex.new (.start settings seed.toList (← clock))⟩
  let connections ← Std.Http.Server.serve (← address settings) server
  Std.Async.background server.expireActions
  if settings.sweepsPacks then Std.Async.background server.sweepPacks
  IO.println ("listening on http://" ++ settings.bindAddress)
  (← IO.getStdout).flush
  connections.waitShutdown

end Server

end Orchestrator
