import RecordListing.Query.Path
import RecordListing.Json.Basic

/-!
# Relation trees

Dotted runs of relations that begin alike share their beginning: together they form a tree.
-/

set_option autoImplicit false

namespace RecordListing

inductive RelationTree
  | node (children : List (String × RelationTree))

namespace RelationTree

def empty : RelationTree := .node []

def children : RelationTree → List (String × RelationTree)
  | .node children => children

/-- Adds a run of relations. -/
def insert : List String → RelationTree → RelationTree
  | [], tree => tree
  | segment :: rest, tree =>
    .node (putEntry segment (insert rest ((tree.children.lookup segment).getD empty)) tree.children)

/-- The tree of dotted runs of relations. -/
def ofPaths (paths : List String) : RelationTree :=
  paths.foldl (fun tree path => tree.insert (pathSegments path)) empty

end RelationTree

end RecordListing
