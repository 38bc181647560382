import RecordListing.Records.Access
import RecordListing.Schema.Retail
import RecordListing.Schema.Sample
import RecordListing.Proofs.Records.Keys

/-!
# What changes leave in place

Removing and marking records writes few columns: it clears references to what is removed and sets
others to the current time (`Row.Touched`). In a schema whose columns of this kind stand apart
(`Registry.WellFormed`), the rows of an entity that are there after a change are those that were
there before it, touched at most (`removeRow_rows`, `markRow_touched`).
-/

set_option autoImplicit false

namespace RecordListing

/-! ## Cells and rows -/

theorem Row.cell_set (row : Row) (column name : String) (cell : Cell) :
    (row.set column cell).cell name = if name = column then cell else row.cell name := by
  simp only [Row.cell, Row.set, lookup_putEntry]
  split <;> rfl

theorem cell_refresh (now : Timestamp) (entity : Entity) (row : Row) (name : String) :
    (refresh now entity row).cell name =
      if name ∈ entity.refreshedColumns.map (·.physical) then timeCell now else row.cell name := by
  unfold refresh
  generalize entity.refreshedColumns = columns
  induction columns generalizing row with
  | nil => rfl
  | cons column columns ih =>
    rw [List.foldl_cons, ih, Row.cell_set]
    by_cases later : name ∈ columns.map (·.physical) <;> simp [later]

/-- Whether a row is another one of which some columns may have been cleared or set to a time. -/
def Row.Touched (columns : List String) (before after : Row) : Prop :=
  ∀ name, after.cell name = before.cell name ∨
    name ∈ columns ∧ (after.cell name = .null ∨ ∃ now, after.cell name = timeCell now)

namespace Row.Touched

variable {columns more : List String} {a b c : Row}

theorem refl (columns : List String) (row : Row) : Row.Touched columns row row := fun _ => .inl rfl

theorem trans (h : Row.Touched columns a b) (h' : Row.Touched columns b c) :
    Row.Touched columns a c := by
  intro name
  rcases h' name with same | written
  · rw [same]
    exact h name
  · exact .inr written

theorem kept (h : Row.Touched columns a b) {name : String} (other : name ∉ columns) :
    b.cell name = a.cell name :=
  (h name).resolve_right fun written => other written.1

theorem mono (h : Row.Touched columns a b) (among : ∀ name ∈ columns, name ∈ more) :
    Row.Touched more a b := fun name => (h name).imp_right fun ⟨own, hc⟩ => ⟨among name own, hc⟩

theorem set (h : Row.Touched columns a b) {name : String} (own : name ∈ columns) {cell : Cell}
    (hc : cell = .null ∨ ∃ now, cell = timeCell now) :
    Row.Touched columns a (b.set name cell) := by
  intro other
  rw [Row.cell_set]
  split
  · rename_i same
    exact .inr ⟨same ▸ own, hc⟩
  · exact h other

theorem refresh (h : Row.Touched columns a b) (now : Timestamp) {entity : Entity}
    (own : ∀ name ∈ entity.refreshedColumns.map (·.physical), name ∈ columns) :
    Row.Touched columns a (refresh now entity b) := by
  intro name
  rw [cell_refresh]
  split
  · rename_i refreshed
    exact .inr ⟨own name refreshed, .inr ⟨now, rfl⟩⟩
  · exact h name

end Row.Touched

theorem Database.rows_mapRows (db : Database) (table other : String) (f : Row → Row) :
    (db.mapRows table f).rows other =
      if other = table then (db.rows other).map f else db.rows other := by
  rw [mapRows, rows_withRows]
  split
  · rename_i same
    rw [same]
  · rfl

theorem Database.rows_filterRows (db : Database) (table other : String) (keep : Row → Bool) :
    (db.filterRows table keep).rows other =
      if other = table then (db.rows other).filter keep else db.rows other := by
  rw [filterRows, rows_withRows]
  split
  · rename_i same
    rw [same]
  · rfl

/-! ## Schemas -/

/-- The physical column that marks deleted rows, if there is one. -/
def Entity.markColumn? (entity : Entity) : Option String :=
  entity.deletionColumn?.map (·.physical)

/-- The table in between, if rows are linked through one. -/
def Link.between? : Link → Option String
  | .through table _ _ _ _ => some table
  | _ => none

/-- The column that refers to the owner of a collection of such rows. -/
def Relation.clears? (relation : Relation) (entity : Entity) : Option String :=
  match relation.link with
  | .toMany _ foreignKey => if relation.target = entity.name then some foreignKey else none
  | _ => none

namespace Registry

def relations (registry : Registry) : List Relation := registry.entities.flatMap Entity.relations

def tables (registry : Registry) : List String := registry.entities.map (·.table)

/-- The physical columns of an entity that change with other rows, or with every change. -/
def changedColumns (registry : Registry) (entity : Entity) : List String :=
  entity.refreshedColumns.map (·.physical) ++ registry.relations.filterMap (·.clears? entity)

/-- The physical columns of an entity that a change may write. -/
def writtenColumns (registry : Registry) (entity : Entity) : List String :=
  entity.markColumn?.toList ++ registry.changedColumns entity

/-- Whether the tables of a registry are apart and the columns that changes write are neither keys
nor choices; nothing but deletion writes the column that marks deleted rows. -/
structure WellFormed (registry : Registry) : Prop where
  tables : registry.tables.Nodup
  between : ∀ relation ∈ registry.relations, ∀ table ∈ relation.link.between?.toList,
    table ∉ registry.tables
  keys : ∀ entity ∈ registry.entities, ∀ column ∈ entity.keyColumns,
    column.physical ∉ registry.writtenColumns entity
  marks : ∀ entity ∈ registry.entities, ∀ name ∈ entity.markColumn?.toList,
    name ∉ registry.changedColumns entity
  plain : ∀ entity ∈ registry.entities, ∀ column ∈ entity.columns,
    column.physical ∈ registry.writtenColumns entity → column.kind ≠ .choice

theorem WellFormed.eq_of_table {registry : Registry} (wellFormed : registry.WellFormed)
    {a b : Entity} (ha : a ∈ registry.entities) (hb : b ∈ registry.entities)
    (same : a.table = b.table) : a = b :=
  List.inj_on_of_nodup_map wellFormed.tables ha hb same

end Registry

theorem Retail.registry_wellFormed : Retail.registry.WellFormed where
  tables := by decide +kernel
  between := by decide +kernel
  keys := by decide +kernel
  marks := by decide +kernel
  plain := by decide +kernel

theorem Sample.registry_wellFormed : Sample.registry.WellFormed where
  tables := by decide +kernel
  between := by decide +kernel
  keys := by decide +kernel
  marks := by decide +kernel
  plain := by decide +kernel

/-! ## The rows that a change leaves -/

section
variable {registry : Registry} (wellFormed : registry.WellFormed)
    {owner entity : Entity} (howner : owner ∈ registry.entities)
    (hentity : entity ∈ registry.entities) (now : Timestamp) (row : Row)
include wellFormed howner hentity

/-- Clearing the references of one relation keeps every row of an entity, touched at most. -/
theorem detach_rows {relation : Relation} (hr : relation ∈ owner.relations) (db : Database) :
    ∃ f : Row → Row,
      (detach registry now row db relation).rows entity.table = (db.rows entity.table).map f ∧
        ∀ other, Row.Touched (registry.changedColumns entity) other (f other) := by
  have known : relation ∈ registry.relations := List.mem_flatMap.2 ⟨owner, howner, hr⟩
  have unchanged : ∃ f : Row → Row, db.rows entity.table = (db.rows entity.table).map f ∧
      ∀ other, Row.Touched (registry.changedColumns entity) other (f other) :=
    ⟨id, (List.map_id _).symm, Row.Touched.refl _⟩
  unfold detach
  split
  · rename_i ownerKey foreignKey target link found
    rw [Database.rows_mapRows]
    split
    · rename_i same
      have ht := List.mem_of_find?_eq_some found
      obtain rfl := wellFormed.eq_of_table hentity ht same
      have named : entity.name = relation.target := by simpa using List.find?_some found
      have cleared : foreignKey ∈ registry.changedColumns entity :=
        List.mem_append_right _ (List.mem_filterMap.2
          ⟨relation, known, by simp [Relation.clears?, link, named]⟩)
      refine ⟨_, rfl, fun other => ?_⟩
      split
      · exact ((Row.Touched.refl _ other).set cleared (.inl rfl)).refresh now
          fun name hn => List.mem_append_left _ hn
      · exact Row.Touched.refl _ other
    · exact unchanged
  · rename_i between ownerKey ownerReference targetKey targetReference target link found
    rw [Database.rows_filterRows, if_neg]
    · exact unchanged
    · rintro same
      exact wellFormed.between relation known between (by simp [link, Link.between?])
        (same ▸ List.mem_map_of_mem hentity)
  · exact unchanged

theorem foldl_detach_rows {relations : List Relation} (hr : ∀ r ∈ relations, r ∈ owner.relations)
    (db : Database) :
    ∃ f : Row → Row,
      (relations.foldl (detach registry now row) db).rows entity.table =
          (db.rows entity.table).map f ∧
        ∀ other, Row.Touched (registry.changedColumns entity) other (f other) := by
  induction relations generalizing db with
  | nil => exact ⟨id, (List.map_id _).symm, Row.Touched.refl _⟩
  | cons relation relations ih =>
    obtain ⟨f, first, touched⟩ :=
      detach_rows wellFormed howner hentity now row (hr relation List.mem_cons_self) db
    obtain ⟨g, rest, touched'⟩ := ih (fun r h => hr r (List.mem_cons_of_mem _ h))
      (detach registry now row db relation)
    refine ⟨g ∘ f, ?_, fun other => (touched other).trans (touched' (f other))⟩
    rw [List.foldl_cons, rest, first, List.map_map]

/-- Removing a row keeps the other rows of all entities, touched at most. -/
theorem removeRow_rows (db : Database) :
    ∃ f : Row → Row,
      (removeRow registry now owner row db).rows entity.table =
          ((db.rows entity.table).map f).filter (fun other =>
            entity.table != owner.table || !sameKey owner row other) ∧
        ∀ other, Row.Touched (registry.changedColumns entity) other (f other) := by
  obtain ⟨f, rows, touched⟩ :=
    foldl_detach_rows wellFormed howner hentity now row (fun r h => h) db
  refine ⟨f, ?_, touched⟩
  rw [removeRow, Database.rows_filterRows, rows]
  split
  · rename_i same
    simp [same]
  · rename_i apart
    have all : ∀ other : Row, (entity.table != owner.table || !sameKey owner row other) = true :=
      fun other => by simp [bne_iff_ne.2 apart]
    rw [List.filter_eq_self.2 fun other _ => all other]

end

section
variable {registry : Registry} {owner entity : Entity}

theorem markRow_rows (now : Timestamp) (column : Column) (row : Row) (db : Database)
    (table : String) :
    (markRow now owner column row db).rows table =
      if table = owner.table then (db.rows table).map fun other =>
        if sameKey owner row other then
          (refresh now owner other).set column.physical (timeCell now)
        else other
      else db.rows table :=
  Database.rows_mapRows db owner.table table _

/-- Marking a row keeps all rows of all entities, touched at most. -/
theorem markRow_touched (wellFormed : registry.WellFormed) (howner : owner ∈ registry.entities)
    (hentity : entity ∈ registry.entities) {column : Column}
    (marks : owner.deletionColumn? = some column) (now : Timestamp) (row : Row) (db : Database) :
    ∃ f : Row → Row,
      (markRow now owner column row db).rows entity.table = (db.rows entity.table).map f ∧
        ∀ other, Row.Touched (registry.writtenColumns entity) other (f other) := by
  rw [markRow_rows]
  split
  · rename_i same
    obtain rfl := wellFormed.eq_of_table hentity howner same
    have own : column.physical ∈ registry.writtenColumns entity :=
      List.mem_append_left _ (by simp [Entity.markColumn?, marks])
    refine ⟨_, rfl, fun other => ?_⟩
    split
    · exact ((Row.Touched.refl _ other).refresh now fun name hn =>
        List.mem_append_right _ (List.mem_append_left _ hn)).set own (.inr ⟨now, rfl⟩)
    · exact Row.Touched.refl _ other
  · exact ⟨id, (List.map_id _).symm, Row.Touched.refl _⟩

end

end RecordListing
