import RecordListing.Schema.Entity

/-!
# A sample schema

Three entities that show what a schema may do: a key of two columns, choices without an enumeration
and choices stored by name, columns stored under another name, a relation to the entity itself, and
a reference to a column that is no key on its own.
-/

set_option autoImplicit false

namespace RecordListing.Sample

/-- State of a widget, stored by name. -/
def states : List Member := [
  ⟨"AuditStatus", "PENDING", "pending"⟩,
  ⟨"AuditStatus", "APPROVED", "approved"⟩,
  ⟨"AuditStatus", "REJECTED", "rejected"⟩]

def widget : Entity where
  name := "widget"
  table := "widgets"
  columns := [
    { Column.plain "id" .integer with initial := .generated }, .plain "name" .text,
    .plain "weight" (.numeric 3 false), .plain "grade" (.choice (.labels ["a", "b", "c d"])),
    .plain "state" (.choice (.members states true)), .plain "stamped" (.datetime false),
    .plain "createdAt" (.datetime false),
    { property := "serial", physical := "serial_no", type := .integer }, .plain "blob" .binary,
    .plain "extra" .json, .plain "parent_id" .integer]
  relations := [
    .mk "parent" "widget" (.toOne "parent_id" "id"),
    .mk "children" "widget" (.toMany "id" "parent_id")]
  key := ["id"]

def pairing : Entity where
  name := "pairing"
  table := "pairs"
  columns := [
    .plain "left_id" .integer, .plain "right_code" .text, .plain "note" .text,
    .plain "on_day" .date,
    { property := "removed", physical := "deleted_at", type := .datetime false },
    .plain "widget_id" .integer]
  relations := [.mk "widget" "widget" (.toOne "widget_id" "id")]
  key := ["left_id", "right_code"]

def visitLog : Entity where
  name := "store_visit_log"
  table := "store_visit_logs"
  columns := [.plain "code" .text, .plain "ok" .boolean, .plain "pair_left" .integer]
  relations := [.mk "pair" "pairing" (.toOne "pair_left" "left_id")]
  key := ["code"]

def registry : Registry := ⟨[widget, pairing, visitLog]⟩

end RecordListing.Sample
