/-!
# Metrics

Counters and gauges, each under a name and a list of labels. A request is counted in when it begins
and counted out when it ends; a listing is counted when it has come to its end.
-/

set_option autoImplicit false

namespace RecordListing

/-- A name and labels with their values, sorted by label. -/
structure Series where
  name : String
  labels : List (String × String)
deriving DecidableEq, Repr

/-- The series that have been counted, with their values. -/
abbrev Metrics := List (Series × Int)

namespace Metrics

/-- The value of a series; one that was never counted is at zero. -/
def value (metrics : Metrics) (series : Series) : Int := (metrics.lookup series).getD 0

/-- Adds to a series. -/
def add (series : Series) (amount : Int) : Metrics → Metrics
  | [] => [(series, amount)]
  | (known, value) :: rest =>
    if known = series then (known, value + amount) :: rest
    else (known, value) :: add series amount rest

def increment (series : Series) (metrics : Metrics) : Metrics := metrics.add series 1

end Metrics

/-! ## Listings -/

def listingCount (entity : String) (succeeded : Bool) : Series :=
  ⟨"query_compilations_total",
    [("entity", entity), ("status", if succeeded then "success" else "error")]⟩

def listingDurations (entity : String) : Series :=
  ⟨"query_duration_seconds_count", [("entity", entity)]⟩

/-- Counts a listing that has come to its end. -/
def Metrics.countListing (entity : String) (succeeded : Bool) (metrics : Metrics) : Metrics :=
  (metrics.increment (listingDurations entity)).increment (listingCount entity succeeded)

/-! ## Requests -/

/-- What a request is counted under. -/
structure Route where
  method : String
  path : String
deriving DecidableEq, Repr

/-- How a request ended. A request that is cancelled from outside has no ending of its own. -/
inductive Ending
  | answered (status : Int)
  /-- A failure went through to the server. -/
  | escaped (label : String)
deriving DecidableEq, Repr

def requestsInProgress (route : Route) : Series :=
  ⟨"http_requests_in_progress", [("method", route.method), ("route", route.path)]⟩

def requestCount (route : Route) (status : Int) : Series :=
  ⟨"http_requests_total",
    [("method", route.method), ("route", route.path), ("status_code", toString status)]⟩

def requestDurations (route : Route) : Series :=
  ⟨"http_request_duration_seconds_count", [("method", route.method), ("route", route.path)]⟩

def errorCount (route : Route) (label : String) : Series :=
  ⟨"http_errors_total", [("error_type", label), ("method", route.method), ("route", route.path)]⟩

namespace Metrics

/-- A request has begun. -/
def begin (route : Route) (metrics : Metrics) : Metrics := metrics.add (requestsInProgress route) 1

/-- A request has ended. -/
def finish (route : Route) (ending : Ending) (metrics : Metrics) : Metrics :=
  let counted :=
    match ending with
    | .answered status =>
      (metrics.increment (requestCount route status)).increment (requestDurations route)
    | .escaped label =>
      (metrics.increment (requestCount route 500)).increment (errorCount route label)
  counted.add (requestsInProgress route) (-1)

end Metrics

/-! ## Families -/

/-- The families of series by name, with the kind of each. -/
def metricFamilies : List (String × String) := [
  ("http_errors_total", "counter"), ("http_request_duration_seconds", "histogram"),
  ("http_requests_in_progress", "gauge"), ("http_requests_total", "counter"),
  ("query_compilations_total", "counter"), ("query_duration_seconds", "histogram")]

end RecordListing
