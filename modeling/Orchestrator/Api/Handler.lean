import Orchestrator.Api.Envelope
import Orchestrator.Api.Payload
import Orchestrator.Api.Request
import Orchestrator.Api.Resource
import Orchestrator.Flow.Validation
import Orchestrator.Hub

/-!
What the service does for each resource and method.

A pack that asks or tells something counts as seen as soon as the request has been read, whatever
becomes of it. What a pack reports is answered at once; its dispatch is left to wait.
-/

namespace Orchestrator.Api

open Http (Request Response)

/-- The handling of a request: it moves the hub on and ends with a response. An error is a response
too, and keeps what was done before it. -/
abbrev Handling := ExceptT Response (StateM Hub)

variable {α : Type}

/-- A failure as a response. -/
def refusal (f : Failure) : Response := .json f.status f.body.toJson

/-- Goes on with what was accepted. -/
def accept (x : Except Failure α) : Handling α := ExceptT.mk (pure (x.mapError refusal))

/-- Goes on with the result of an operation of the orchestrator. -/
def perform (x : Except Error α) : Handling α := accept (x.mapError .ofError)

/-- The next fresh identifier and clock reading. -/
def draw : Handling Stamp := modifyGet Hub.draw

/-- The response that something was created at a location. -/
def created (data : Json) (location up : String) : Response :=
  (Response.json 201 (envelope data location up)).located location

def noContent : Response := .empty 204

def accepted : Response := .empty 202

def packPath (id : String) : String := "/v1/packs/" ++ id

def flowPath (name : String) : String := "/v1/flows/" ++ name

def dataPath (key : String) : String := "/v1/datastore/" ++ key

/-- The name of the service. -/
def serviceName : String := "packflow"

/-- The version of the service. -/
def serviceVersion : String := "0.1.0"

/-- The methods and paths of the service with what they are for. -/
def routeTable : List (String × String × String) := [
  ("GET", "/health", "Liveness probe"),
  ("GET", "/v1/info", "Service information and route table"),
  ("POST", "/v1/packs", "Register a pack"),
  ("GET", "/v1/packs", "List packs"),
  ("GET", "/v1/packs/\x7bid\x7d", "Get a pack"),
  ("DELETE", "/v1/packs/\x7bid\x7d", "Remove a pack"),
  ("POST", "/v1/packs/\x7bid\x7d/events", "Publish an event"),
  ("POST", "/v1/packs/\x7bid\x7d/actions/take", "Take the oldest pending action (?actionName=)"),
  ("POST", "/v1/packs/\x7bid\x7d/actions/\x7bactionId\x7d/result", "Complete an action"),
  ("POST", "/v1/flows", "Register or replace a flow"),
  ("GET", "/v1/flows", "List flows"),
  ("GET", "/v1/flows/\x7bname\x7d", "Get a flow"),
  ("DELETE", "/v1/flows/\x7bname\x7d", "Remove a flow"),
  ("PUT", "/v1/datastore/\x7bkey\x7d", "Store a raw value"),
  ("GET", "/v1/datastore", "List datastore keys"),
  ("GET", "/v1/datastore/\x7bkey\x7d", "Get a raw value"),
  ("DELETE", "/v1/datastore/\x7bkey\x7d", "Remove a value")]

/-- Says that the service is up. -/
def health : Response :=
  .json 200 (Json.object [("status", .str "ok"), ("version", .str serviceVersion)])

/-- Describes the service. -/
def info : Response :=
  let route : String × String × String → Json := fun (method, path, description) =>
    Json.object [("method", .str method), ("path", .str path), ("description", .str description)]
  .json 200 <| Json.object [("name", .str serviceName), ("version", .str serviceVersion),
    ("routes", .arr (routeTable.map route))]

def registerPack (r : Request) : Handling Response := do
  let registration ← accept (r.payload PackRegistration.read)
  let now := (← draw).time
  let pack ← accept (registration.toPack now)
  let pack ← modifyGet fun s =>
    let (pack, packs) := s.packs.register pack now
    (pack, { s with packs })
  return created (pack.view now) (packPath pack.id) "/v1/packs"

def listPacks : Handling Response := do
  let now := (← draw).time
  let packs := (← get).packs.findAll
  return .json 200 (envelope (.arr (packs.map fun p => p.view now)) "/v1/packs" "/v1")

def getPack (id : String) : Handling Response := do
  let now := (← draw).time
  let pack ← perform ((← get).packs.require id)
  return .json 200 (envelope (pack.view now) (packPath id) "/v1/packs")

def deletePack (id : String) : Handling Response := do
  let packs ← perform ((← get).packs.remove id)
  modify fun s => { s with packs }
  return noContent

/-- The pack that has sent the request. -/
def caller (id : String) : Handling Pack := do
  let (pack, s) ← perform ((← get).seen id)
  set s
  return pack

/-- Takes an event in and leaves its dispatch to wait. -/
def publishEvent (id : String) (r : Request) : Handling Response := do
  let message ← accept (r.payload EventMessage.read)
  let pack ← caller id
  let now := (← draw).time
  let event ← accept (message.toEvent pack now)
  modify fun s => s.submit (.published event)
  return .json 202 (envelope event.toJson (packPath id ++ "/events") (packPath id))

/-- The commands that a query asks for. -/
def commandsAsked (query : Option String) : List (String × String) :=
  (Http.formFields (query.getD "")).filter fun field => field.1 == "actionName"

/-- The command that a query asks for, which may not ask for two of them. -/
def takeQuery (query : Option String) : Handling TakeQuery :=
  match commandsAsked query with
  | [] => return ⟨none⟩
  | [(_, name)] => return ⟨some name⟩
  | _ => throw <| .plain 400 <| "Failed to deserialize query string: " ++
      (DecodeError.duplicateField "actionName").message

/-- Hands the oldest fitting action to a pack. -/
def takeAction (id : String) (r : Request) : Handling Response := do
  let query ← takeQuery r.query
  let pack ← caller id
  let now := (← draw).time
  let (taken, actions) ← perform (Broker.take (← get).actions pack query.actionName now)
  modify fun s => { s with actions }
  match taken with
  | some action =>
    return .json 200 (envelope action.toJson (packPath id ++ "/actions/take") (packPath id))
  | none => return noContent

/-- Records the result of an action and leaves its dispatch to wait. -/
def completeAction (id actionId : String) (r : Request) : Handling Response := do
  let message ← accept (r.payload EventMessage.read)
  let pack ← caller id
  let now := (← draw).time
  let result ← accept (message.toEvent pack now)
  let (completed, actions) ← perform (Broker.complete (← get).actions pack actionId result now)
  modify fun s => { s with actions }
  if let some action := completed then
    modify fun s => s.submit (.completed action)
  return accepted

/-- Stores a flow, every time as a new version. -/
def registerFlow (r : Request) : Handling Response := do
  let flow ← accept (r.payload FlowDefinition.read)
  perform flow.validate
  let fresh := (← draw).uuid
  let flow ← modifyGet fun s =>
    let (flow, flows) := s.flows.add { flow with uuid := none } fresh
    (flow, { s with flows })
  return created flow.toJson (flowPath flow.name) "/v1/flows"

def listFlows : Handling Response := do
  let flows := (← get).flows.findAll
  return .json 200 (envelope (.arr (flows.map FlowSummary.toJson)) "/v1/flows" "/v1")

def getFlow (name : String) : Handling Response := do
  match (← get).flows.get? name with
  | some flow => return .json 200 (envelope flow.toJson (flowPath name) "/v1/flows")
  | none => perform (.error (.flowNotFound name))

def deleteFlow (name : String) : Handling Response := do
  let (found, flows) := (← get).flows.remove name
  modify fun s => { s with flows }
  if found then return noContent else perform (.error (.flowNotFound name))

/-- Stores the body as it is under a key. -/
def putData (key : String) (r : Request) : Handling Response := do
  if r.isOversized then throw (.plain 413 Request.oversizedText)
  let some value := r.text? | accept (.error (.badRequest "datastore values must be UTF-8"))
  let now := (← draw).time
  let entry : DataEntry := ⟨key, r.readableType?.getD "text/plain", value, now⟩
  let isNew ← modifyGet fun s =>
    let (isNew, data) := DataStore.put s.data entry
    (isNew, { s with data })
  return if isNew then (Response.empty 201).located (dataPath key) else noContent

def listDataKeys : Handling Response := do
  return .json 200 (envelope (.strings (← get).data.keys) "/v1/datastore" "/v1")

/-- Gives a stored body back under the type that it came with. -/
def getData (key : String) : Handling Response := do
  match (← get).data.get? key with
  | none => perform (.error (.notFound ("datastore key " ++ key)))
  | some entry =>
    if Http.isHeaderValue entry.contentType then
      return { Response.empty 200 with contentType := some entry.contentType, body := entry.value }
    else return .plain 500 "failed to parse header value"

def deleteData (key : String) : Handling Response := do
  let (found, data) := DataStore.remove (← get).data key
  modify fun s => { s with data }
  if found then return noContent else perform (.error (.notFound ("datastore key " ++ key)))

/-- What is done for a method of a resource. A method that the resource does not have is refused. -/
def handle (resource : Resource) (method : String) (r : Request) : Handling Response :=
  match resource, method with
  | .health, "GET" => return health
  | .info, "GET" => return info
  | .packs, "GET" => listPacks
  | .packs, "POST" => registerPack r
  | .pack id, "GET" => getPack id
  | .pack id, "DELETE" => deletePack id
  | .packEvents id, "POST" => publishEvent id r
  | .takeAction id, "POST" => takeAction id r
  | .actionResult id actionId, "POST" => completeAction id actionId r
  | .flows, "GET" => listFlows
  | .flows, "POST" => registerFlow r
  | .flow name, "GET" => getFlow name
  | .flow name, "DELETE" => deleteFlow name
  | .dataKeys, "GET" => listDataKeys
  | .dataEntry key, "GET" => getData key
  | .dataEntry key, "PUT" => putData key r
  | .dataEntry key, "DELETE" => deleteData key
  | _, _ => throw (.empty 405)

end Orchestrator.Api
