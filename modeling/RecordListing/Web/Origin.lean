import RecordListing.Web.Message
import RecordListing.Settings.Basic

/-!
# Calls from other origins

A browser asks beforehand whether a page of another origin may call with some method, and shows an
answer to the page only if the origin is allowed.
-/

set_option autoImplicit false

namespace RecordListing

open Text

def originHeader : String := "origin"

def allowedOriginHeader : String := "access-control-allow-origin"

/-- The origin of a request, if it may call from a browser. -/
def Settings.allowedOrigin? (settings : Settings) (request : HttpRequest) : Option String :=
  (request.header? originHeader).bind fun origin =>
    if settings.origins.contains origin then some origin else none

/-- The methods that pages of other origins may call with. -/
def sharedMethods : List String := ["DELETE", "GET", "HEAD", "OPTIONS", "PATCH", "POST", "PUT"]

/-- What speaks against a call: its origin, its method, or that it comes into a private network. -/
def objections (settings : Settings) (request : HttpRequest) (method : String) : List String :=
  (if (settings.allowedOrigin? request).isSome then [] else ["origin"]) ++
    (if sharedMethods.contains method then [] else ["method"]) ++
    (if (request.header? "access-control-request-private-network").isSome then ["private-network"]
    else [])

/-- The answer to a request that asks whether another one may be made. -/
def preflight? (settings : Settings) (request : HttpRequest) : Option HttpResponse :=
  match request.header? originHeader, request.header? "access-control-request-method" with
  | some _, some method =>
    if request.method ≠ "OPTIONS" then none
    else
      let refused := objections settings request method
      some {
        status := if refused.isEmpty then 200 else 400
        body := .text (if refused.isEmpty then "OK" else "Disallowed CORS " ++ joined ", " refused)
        contentType := "text/plain; charset=utf-8"
        allowedOrigin := settings.allowedOrigin? request }
  | _, _ => none

end RecordListing
