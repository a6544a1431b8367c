import Orchestrator.Http.Target

/-!
The resources of the service and the methods that each has.

A resource is found by the segments of the path as they were sent. Names inside a path have their
escapes taken out afterwards, so an escaped slash does not part segments. A name may be empty, but
not at the end of the path.
-/

namespace Orchestrator

/-- A resource of the service. -/
inductive Resource where
  | health
  | info
  | packs
  | pack (id : String)
  | packEvents (id : String)
  | takeAction (id : String)
  | actionResult (id actionId : String)
  | flows
  | flow (name : String)
  | dataKeys
  | dataEntry (key : String)
  deriving DecidableEq, Repr, Inhabited

namespace Resource

/-- The resource at a list of path segments, its names as they were sent. -/
def ofSegments? : List String → Option Resource
  | ["health"] => some health
  | ["v1", "info"] => some info
  | ["v1", "packs"] => some packs
  | ["v1", "packs", id] => if id.isEmpty then none else some (pack id)
  | ["v1", "packs", id, "events"] => some (packEvents id)
  | ["v1", "packs", id, "actions", "take"] => some (takeAction id)
  | ["v1", "packs", id, "actions", actionId, "result"] => some (actionResult id actionId)
  | ["v1", "flows"] => some flows
  | ["v1", "flows", name] => if name.isEmpty then none else some (flow name)
  | ["v1", "datastore"] => some dataKeys
  | ["v1", "datastore", key] => if key.isEmpty then none else some (dataEntry key)
  | _ => none

/-- The resource at a path. -/
def ofPath? (path : String) : Option Resource := ofSegments? (Http.Target.segments path)

/-- The methods of a resource; whatever can be read can also be asked for without its body. -/
def methods : Resource → List String
  | health | info | dataKeys => ["GET", "HEAD"]
  | packs | flows => ["GET", "HEAD", "POST"]
  | pack _ | flow _ => ["GET", "HEAD", "DELETE"]
  | packEvents _ | takeAction _ | actionResult .. => ["POST"]
  | dataEntry _ => ["GET", "HEAD", "PUT", "DELETE"]

/-- A name without escapes; the error is what the name is called. -/
def unescape (calledAs raw : String) : Except String String :=
  match Percent.decodeText? raw with
  | some name => .ok name
  | none => .error calledAs

/-- The resource with the escapes taken out of its names. The error is what the first name is called
that is not UTF-8. -/
def unescaped : Resource → Except String Resource
  | pack id => pack <$> unescape "id" id
  | packEvents id => packEvents <$> unescape "id" id
  | takeAction id => takeAction <$> unescape "id" id
  | actionResult id actionId =>
    actionResult <$> unescape "id" id <*> unescape "action_id" actionId
  | flow name => flow <$> unescape "name" name
  | dataEntry key => dataEntry <$> unescape "key" key
  | other => .ok other

end Resource

end Orchestrator
