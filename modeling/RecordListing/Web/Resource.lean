import RecordListing.Text.Pieces

/-!
# Resources

What the paths of the interface lead to, and the methods that are known there.
-/

set_option autoImplicit false

namespace RecordListing

open Text

inductive Resource
  /-- The description of the interface, and the pages that show it. -/
  | description
  | health
  | readiness
  | metrics
  | listing (entity : String)
  | record (entity id : String)
deriving DecidableEq, Repr

/-- The resources under paths of their own. -/
def fixedResources (observed : Bool) : List (String × Resource) := [
  ("/openapi.json", .description), ("/docs", .description),
  ("/docs/oauth2-redirect", .description), ("/redoc", .description),
  ("/api/v1/health", .health), ("/api/v1/readyz", .readiness)] ++
  if observed then [("/metrics", .metrics)] else []

/-- The text without a line feed at its end. -/
def withoutLineFeed (s : String) : String :=
  match s.toList.reverse with
  | '\n' :: rest => String.ofList rest.reverse
  | _ => s

/-- The resource of a path. A path of its own may end in a line feed. -/
def resourceOf? (observed : Bool) (path : String) : Option Resource :=
  match (fixedResources observed).lookup (withoutLineFeed path), pieces '/' path with
  | some resource, _ => some resource
  | none, ["", "api", "v1", "records", entity] =>
    if entity.isEmpty then none else some (.listing entity)
  | none, ["", "api", "v1", "records", entity, id] =>
    if entity.isEmpty || id.isEmpty then none else some (.record entity id)
  | none, _ => none

/-- Whether a path that ends in slashes has a resource without them. -/
def endsInStraySlash (observed : Bool) (path : String) : Bool :=
  endsWith ['/'] path.toList && (resourceOf? observed (withoutEnding '/' path)).isSome

/-- The methods that a resource knows. -/
def Resource.methods : Resource → List String
  | .record _ _ => ["DELETE", "GET"]
  | .metrics | .description => ["GET", "HEAD"]
  | _ => ["GET"]

/-- The paths of the interface with their methods. -/
def interfacePaths : List (String × List String) := [
  ("/api/v1/health", ["get"]), ("/api/v1/readyz", ["get"]),
  ("/api/v1/records/\x7bentity\x7d", ["get"]),
  ("/api/v1/records/\x7bentity\x7d/\x7brecord_id\x7d", ["delete", "get"])]

def interfaceTitle : String := "Field Operations API"

end RecordListing
