import RecordListing.Store.Matching

/-!
# Statements

How the two statements of a listing read the database. Both join the rows of the root in every way,
keep the ways that meet the conditions, and gather them by primary key. The first counts the keys.
The second sorts them, takes a window of them, and reads the rows that have these keys.
-/

set_option autoImplicit false

namespace RecordListing

/-! ## Gathering by key -/

/-- The ways to join that share a primary key of the root. -/
structure KeyGroup where
  key : List Cell
  ways : List JoinedRow

/-- Whether two keys are the same. -/
def equalKeys (a b : List Cell) : Bool := compareKeys a b == .eq

/-- Puts a way into the group of its key; a new key comes last. -/
def addWay (root : Entity) (way : JoinedRow) : List KeyGroup → List KeyGroup
  | [] => [⟨root.keyOf way.root, [way]⟩]
  | group :: groups =>
    if equalKeys group.key (root.keyOf way.root) then
      { group with ways := group.ways ++ [way] } :: groups
    else group :: addWay root way groups

/-- The ways by the keys of their roots. -/
def gatherByKey (root : Entity) (ways : List JoinedRow) : List KeyGroup :=
  ways.foldl (fun groups way => addWay root way groups) []

namespace Listing

/-- All ways to join that meet the conditions. -/
def selected (listing : Listing) (db : Database) : List JoinedRow :=
  ((db.rows listing.plan.root.table).flatMap (joinedRows db listing.plan.steps)).filter
    (meetsAll listing.conditions)

/-- The keys of the root with the ways that were selected. -/
def groups (listing : Listing) (db : Database) : List KeyGroup :=
  gatherByKey listing.plan.root (listing.selected db)

/-! ## Counting -/

/-- What the first statement reads: how many keys there are. -/
def countKeys (listing : Listing) (db : Database) : Nat := (listing.groups db).length

/-! ## Reading a page -/

/-- A key and what it is sorted by. -/
structure SortedKey where
  sortKey : Cell
  key : List Cell

/-- Whether a key may stand before another. -/
def keyBefore (listing : Listing) (a b : SortedKey) : Bool :=
  let order := listing.sorting.order.compare a.sortKey b.sortKey
  order.then (compareKeys a.key b.key) != .gt

/-- The keys in order. -/
def sortedKeys (listing : Listing) (db : Database) : List SortedKey :=
  ((listing.groups db).map fun group => ⟨listing.sorting.extreme group.ways, group.key⟩).mergeSort
    listing.keyBefore

/-- The keys of the page. -/
def pageKeys (listing : Listing) (db : Database) : List SortedKey :=
  listing.window.cut (listing.sortedKeys db)

/-- What the second statement reads: the rows with the keys of the page, in their order. -/
def readRows (listing : Listing) (db : Database) : List Row :=
  let root := listing.plan.root
  let page := listing.pageKeys db
  let found := (db.rows root.table).flatMap fun row =>
    (page.filter fun entry => equalKeys entry.key (root.keyOf row)).map fun entry =>
      (entry.sortKey, row)
  (found.mergeSort listing.before).map (·.2)

end Listing

end RecordListing
