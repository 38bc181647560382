import RecordListing.Proofs.Records.Visibility

/-!
# What a removal leaves

A removed row goes, and with it the rows of tables in between that link it to a row that is there.
Rows of its collections stay and lose their references to it. Nothing else is touched
(`removeRow_removes`): relations are let go of one after the other, and what has been let go of by
then is an invariant (`Detached`). A record is deleted in this way if its identifier stands for a
row (`Finds`) and the rows that are let go of can be read (`Loads`); otherwise nothing changes
(`delete_removes`).
-/

set_option autoImplicit false

namespace RecordListing

open Outcome

/-! ## References and links -/

/-- Whether a row is another one of which the columns that refer to an owner are cleared. A row that
has such columns is refreshed with that, and others stay as they are. -/
structure Row.Released (refers : String → Prop) (now : Timestamp) (entity : Entity)
    (before after : Row) : Prop where
  refreshed : ∀ name ∈ entity.refreshedColumns.map (·.physical), (∃ column, refers column) →
    after.cell name = timeCell now
  cleared : ∀ name ∉ entity.refreshedColumns.map (·.physical), refers name →
    after.cell name = .null
  kept : ∀ name, ¬ refers name →
    (name ∈ entity.refreshedColumns.map (·.physical) → ∀ column, ¬ refers column) →
      after.cell name = before.cell name

/-- Whether a column of a row of an entity refers to an owner with these relations: it is the
inverse of a collection and holds the owner's key. -/
def RefersBy (registry : Registry) (relations : List Relation) (row : Row) (entity : Entity)
    (other : Row) (column : String) : Prop :=
  ∃ relation ∈ relations, ∃ ownerKey, relation.link = .toMany ownerKey column ∧
    registry.find? relation.target = some entity ∧
    (other.cell column).same (row.cell ownerKey) = true

/-- Whether a row of a table in between links an owner with these relations to a row that is
there. -/
def LinksBy (registry : Registry) (relations : List Relation) (row : Row) (db : Database)
    (table : String) (pair : Row) : Prop :=
  ∃ relation ∈ relations, ∃ ownerKey ownerReference targetKey targetReference target,
    relation.link = .through table ownerKey ownerReference targetKey targetReference ∧
    registry.find? relation.target = some target ∧
    (pair.cell ownerReference).same (row.cell ownerKey) = true ∧
    ∃ other ∈ db.rows target.table,
      (other.cell targetKey).same (pair.cell targetReference) = true

/-- Whether a database is another one in which some relations of an owner are let go of. -/
structure Registry.Detached (registry : Registry) (relations : List Relation) (row : Row)
    (now : Timestamp) (before after : Database) : Prop where
  rows : ∀ entity ∈ registry.entities, ∃ f : Row → Row,
    (∀ other, Row.Released (RefersBy registry relations row entity other) now entity other
        (f other)) ∧
      after.rows entity.table = (before.rows entity.table).map f
  pairs : ∀ table ∉ registry.tables, ∃ keep : Row → Bool,
    (∀ pair, keep pair = false ↔ LinksBy registry relations row before table pair) ∧
      after.rows table = (before.rows table).filter keep

/-- Whether a database is another one from which a row of an entity was removed: its references and
links are gone with it, and everything else is as it was. -/
structure Registry.Removes (registry : Registry) (owner : Entity) (row : Row) (now : Timestamp)
    (before after : Database) : Prop where
  rows : ∀ entity ∈ registry.entities, ∃ f : Row → Row,
    (∀ other, Row.Released (RefersBy registry owner.relations row entity other) now entity other
        (f other)) ∧
      after.rows entity.table =
        ((before.rows entity.table).filter fun other =>
          entity.table != owner.table || other != row).map f
  pairs : ∀ table ∉ registry.tables, ∃ keep : Row → Bool,
    (∀ pair, keep pair = false ↔ LinksBy registry owner.relations row before table pair) ∧
      after.rows table = (before.rows table).filter keep

/-! ## One row -/

namespace Row.Released

variable {refers : String → Prop} {now : Timestamp} {entity : Entity} {before after : Row}

theorem refl (now : Timestamp) (entity : Entity) (row : Row) :
    Row.Released (fun _ => False) now entity row row where
  refreshed := fun _ _ ⟨_, refers⟩ => refers.elim
  cleared := fun _ _ refers => refers.elim
  kept := fun _ _ _ => rfl

/-- A cell that is not what it was: the row refers to the owner, and the cell is refreshed with that
or was cleared. -/
theorem eq_or_refers (h : Row.Released refers now entity before after) (name : String) :
    after.cell name = before.cell name ∨
      (∃ column, refers column) ∧
        (name ∈ entity.refreshedColumns.map (·.physical) ∨
          refers name ∧ after.cell name = .null) := by
  by_cases fresh : name ∈ entity.refreshedColumns.map (·.physical)
  · by_cases some_refers : ∃ column, refers column
    · exact .inr ⟨some_refers, .inl fresh⟩
    · exact .inl (h.kept name (fun hn => some_refers ⟨name, hn⟩) fun _ column hc =>
        some_refers ⟨column, hc⟩)
  · by_cases own : refers name
    · exact .inr ⟨⟨name, own⟩, .inr ⟨own, h.cleared name fresh own⟩⟩
    · exact .inl (h.kept name own fun hn => absurd hn fresh)

/-- Clearing one more column, if the row refers by it. -/
theorem clear (h : Row.Released refers now entity before after) (foreignKey : String)
    (key : Cell) :
    Row.Released (fun column => refers column ∨ column = foreignKey ∧
        (before.cell foreignKey).same key = true) now entity before
      (if (after.cell foreignKey).same key then refresh now entity (after.set foreignKey .null)
        else after) := by
  have cell_or := h.eq_or_refers foreignKey
  split
  · rename_i hit
    have cells : ∀ name, (refresh now entity (after.set foreignKey .null)).cell name =
        if name ∈ entity.refreshedColumns.map (·.physical) then timeCell now
        else if name = foreignKey then .null else after.cell name := fun name => by
      rw [cell_refresh, Row.cell_set]
    -- the row refers by this column, or by another one that has made it change
    have some_refers : (∃ column, refers column) ∨ (before.cell foreignKey).same key = true := by
      rcases cell_or with same | ⟨others, -⟩
      · exact .inr (same ▸ hit)
      · exact .inl others
    constructor
    · intro name fresh _
      rw [cells, if_pos fresh]
    · intro name stale own
      rw [cells, if_neg stale]
      split
      · rfl
      · rename_i other
        exact h.cleared name stale (own.resolve_right fun own => other own.1)
    · intro name apart untouched
      have stale : name ∉ entity.refreshedColumns.map (·.physical) := by
        intro fresh
        rcases some_refers with ⟨column, hc⟩ | own
        · exact untouched fresh column (.inl hc)
        · exact untouched fresh foreignKey (.inr ⟨rfl, own⟩)
      rw [cells, if_neg stale, if_neg]
      · exact h.kept name (fun hn => apart (.inl hn)) fun hn => absurd hn stale
      · rintro rfl
        rcases cell_or with same | ⟨-, fresh | ⟨own, -⟩⟩
        · exact apart (.inr ⟨rfl, same ▸ hit⟩)
        · exact stale fresh
        · exact apart (.inl own)
  · rename_i miss
    -- a row that referred by this column has been changed by another relation
    have others : (before.cell foreignKey).same key = true → ∃ column, refers column := by
      intro own
      rcases cell_or with same | ⟨others, -⟩
      · exact absurd (same ▸ own) miss
      · exact others
    constructor
    · rintro name fresh ⟨column, hc | ⟨-, own⟩⟩
      · exact h.refreshed name fresh ⟨column, hc⟩
      · exact h.refreshed name fresh (others own)
    · rintro name stale (hn | ⟨rfl, own⟩)
      · exact h.cleared name stale hn
      · rcases cell_or with same | ⟨-, fresh | ⟨-, null⟩⟩
        · exact absurd (same ▸ own) miss
        · exact absurd fresh stale
        · exact null
    · intro name apart untouched
      exact h.kept name (fun hn => apart (.inl hn)) fun fresh column hc =>
        untouched fresh column (.inl hc)

/-- The columns of a released row that hold something else are among those that change. -/
theorem touched (h : Row.Released refers now entity before after) {columns : List String}
    (fresh : ∀ name ∈ entity.refreshedColumns.map (·.physical), name ∈ columns)
    (own : ∀ name, refers name → name ∈ columns) : Row.Touched columns before after := by
  intro name
  rcases h.eq_or_refers name with same | ⟨some_refers, hn | ⟨hn, null⟩⟩
  · exact .inl same
  · exact .inr ⟨fresh name hn, .inr ⟨now, h.refreshed name hn some_refers⟩⟩
  · exact .inr ⟨own name hn, .inl null⟩

theorem congr {others : String → Prop} (same : ∀ column, refers column ↔ others column)
    (h : Row.Released refers now entity before after) :
    Row.Released others now entity before after := by
  obtain rfl : refers = others := funext fun column => propext (same column)
  exact h

end Row.Released

/-! ## One relation -/

/-- The column that a table in between refers to. -/
def Link.pairedKey? : Link → Option String
  | .through _ _ _ targetKey _ => some targetKey
  | _ => none

/-- Whether tables in between refer to columns that stay as they are. -/
def Registry.PairsByKey (registry : Registry) : Prop :=
  ∀ relation ∈ registry.relations, ∀ target ∈ registry.entities, target.name = relation.target →
    ∀ name ∈ relation.link.pairedKey?.toList, name ∉ registry.changedColumns target

theorem Retail.registry_pairsByKey : Retail.registry.PairsByKey := by
  unfold Registry.PairsByKey
  decide +kernel

theorem Sample.registry_pairsByKey : Sample.registry.PairsByKey := by
  unfold Registry.PairsByKey
  decide +kernel

section
variable {registry : Registry} {relations : List Relation} {relation : Relation} {row : Row}
    {now : Timestamp} {entity : Entity} {before mid : Database}

/-- One more collection of the entity makes one more column refer to the owner. -/
theorem refersBy_concat_iff {ownerKey foreignKey : String}
    (link : relation.link = .toMany ownerKey foreignKey)
    (found : registry.find? relation.target = some entity) {other : Row} {column : String} :
    RefersBy registry (relations ++ [relation]) row entity other column ↔
      RefersBy registry relations row entity other column ∨
        column = foreignKey ∧ (other.cell foreignKey).same (row.cell ownerKey) = true := by
  simp only [RefersBy, List.mem_append, List.mem_singleton, or_and_right, exists_or,
    exists_eq_left, link, found, Link.toMany.injEq, true_and]
  constructor
  · rintro (earlier | ⟨_, ⟨rfl, rfl⟩, own⟩)
    · exact .inl earlier
    · exact .inr ⟨rfl, own⟩
  · rintro (earlier | ⟨rfl, own⟩)
    · exact .inl earlier
    · exact .inr ⟨ownerKey, ⟨rfl, rfl⟩, own⟩

theorem refersBy_concat_of_ne
    (other_kind : ∀ ownerKey foreignKey, relation.link = .toMany ownerKey foreignKey →
      registry.find? relation.target ≠ some entity) {other : Row} {column : String} :
    RefersBy registry (relations ++ [relation]) row entity other column ↔
      RefersBy registry relations row entity other column := by
  simp only [RefersBy, List.mem_append, List.mem_singleton, or_and_right, exists_or,
    exists_eq_left]
  rw [or_iff_left]
  rintro ⟨ownerKey, link, found, -⟩
  exact other_kind ownerKey column link found

/-- One more table in between links the owner by its rows that lead to a row that is there. -/
theorem linksBy_concat_iff {table ownerKey ownerReference targetKey targetReference : String}
    {target : Entity}
    (link : relation.link = .through table ownerKey ownerReference targetKey targetReference)
    (found : registry.find? relation.target = some target) {pair : Row} :
    LinksBy registry (relations ++ [relation]) row before table pair ↔
      LinksBy registry relations row before table pair ∨
        (pair.cell ownerReference).same (row.cell ownerKey) = true ∧
          ∃ other ∈ before.rows target.table,
            (other.cell targetKey).same (pair.cell targetReference) = true := by
  simp only [LinksBy, List.mem_append, List.mem_singleton, or_and_right, exists_or,
    exists_eq_left, link, found, Link.through.injEq, Option.some.injEq, true_and]
  constructor
  · rintro (earlier | ⟨_, _, _, _, _, ⟨rfl, rfl, rfl, rfl⟩, rfl, leads⟩)
    · exact .inl earlier
    · exact .inr leads
  · rintro (earlier | leads)
    · exact .inl earlier
    · exact .inr ⟨_, _, _, _, _, ⟨rfl, rfl, rfl, rfl⟩, rfl, leads⟩

theorem linksBy_concat_of_ne {table : String}
    (other_kind : ∀ ownerKey ownerReference targetKey targetReference target,
      relation.link = .through table ownerKey ownerReference targetKey targetReference →
        registry.find? relation.target ≠ some target) {pair : Row} :
    LinksBy registry (relations ++ [relation]) row before table pair ↔
      LinksBy registry relations row before table pair := by
  simp only [LinksBy, List.mem_append, List.mem_singleton, or_and_right, exists_or,
    exists_eq_left]
  rw [or_iff_left]
  rintro ⟨ownerKey, ownerReference, targetKey, targetReference, target, link, found, -⟩
  exact other_kind ownerKey ownerReference targetKey targetReference target link found

/-- A column by which a row refers to an owner is one that changes. -/
theorem changed_of_refersBy (known : ∀ relation ∈ relations, relation ∈ registry.relations)
    {other : Row} {column : String} (h : RefersBy registry relations row entity other column) :
    column ∈ registry.changedColumns entity := by
  obtain ⟨relation, hr, ownerKey, link, target, -⟩ := h
  have named : entity.name = relation.target := by simpa using List.find?_some target
  exact List.mem_append_right _ (List.mem_filterMap.2
    ⟨relation, known relation hr, by simp [Relation.clears?, link, named]⟩)

theorem Row.Released.touched_of_refersBy
    (known : ∀ relation ∈ relations, relation ∈ registry.relations) {other after : Row}
    (h : Row.Released (RefersBy registry relations row entity other) now entity other after) :
    Row.Touched (registry.changedColumns entity) other after :=
  h.touched (fun _ hn => List.mem_append_left _ hn) fun _ => changed_of_refersBy known

namespace Registry.Detached

/-- The row of a table in between leads to the same rows as before. -/
theorem leads_iff (paired : registry.PairsByKey) (hr : relation ∈ registry.relations)
    (known : ∀ relation ∈ relations, relation ∈ registry.relations)
    (h : registry.Detached relations row now before mid)
    {table ownerKey ownerReference targetKey targetReference : String} {target : Entity}
    (link : relation.link = .through table ownerKey ownerReference targetKey targetReference)
    (found : registry.find? relation.target = some target) (cell : Cell) :
    (mid.rowsWith target.table targetKey cell).isEmpty = false ↔
      ∃ other ∈ before.rows target.table, (other.cell targetKey).same cell = true := by
  have ht := List.mem_of_find?_eq_some found
  have named : target.name = relation.target := by simpa using List.find?_some found
  have key : targetKey ∉ registry.changedColumns target :=
    paired relation hr target ht named targetKey (by simp [link, Link.pairedKey?])
  obtain ⟨f, released, rows⟩ := h.rows target ht
  have same : ∀ other, (f other).cell targetKey = other.cell targetKey := fun other =>
    ((released other).touched_of_refersBy known).kept key
  rw [List.isEmpty_eq_false_iff_exists_mem]
  simp only [Database.rowsWith, rows, List.mem_filter, List.mem_map]
  constructor
  · rintro ⟨_, ⟨other, ho, rfl⟩, holds⟩
    exact ⟨other, ho, same other ▸ holds⟩
  · rintro ⟨other, ho, holds⟩
    exact ⟨f other, ⟨other, ho, rfl⟩, (same other).symm ▸ holds⟩

/-- Letting go of a collection clears its references. -/
theorem mapRows (wellFormed : registry.WellFormed)
    (h : registry.Detached relations row now before mid) {ownerKey foreignKey : String}
    {target : Entity} (link : relation.link = .toMany ownerKey foreignKey)
    (found : registry.find? relation.target = some target) :
    registry.Detached (relations ++ [relation]) row now before
      (mid.mapRows target.table fun other =>
        if (other.cell foreignKey).same (row.cell ownerKey) then
          refresh now target (other.set foreignKey .null)
        else other) where
  rows := by
    intro entity he
    obtain ⟨f, released, rows⟩ := h.rows entity he
    rw [Database.rows_mapRows]
    split
    · rename_i same
      obtain rfl := wellFormed.eq_of_table he (List.mem_of_find?_eq_some found) same
      refine ⟨_, fun other => ((released other).clear foreignKey (row.cell ownerKey)).congr
        fun column => (refersBy_concat_iff link found).symm, ?_⟩
      rw [rows, List.map_map]
      rfl
    · rename_i apart
      have other_target : registry.find? relation.target ≠ some entity := fun found' =>
        apart (Option.some.inj (found'.symm.trans found) ▸ rfl)
      exact ⟨f, fun other => (released other).congr fun column =>
        (refersBy_concat_of_ne fun _ _ _ => other_target).symm, rows⟩
  pairs := by
    intro table free
    obtain ⟨keep, keeps, pairs⟩ := h.pairs table free
    have apart : table ≠ target.table := fun same =>
      free (same ▸ List.mem_map_of_mem (List.mem_of_find?_eq_some found))
    refine ⟨keep, fun pair => ?_, by rw [Database.rows_mapRows, if_neg apart, pairs]⟩
    rw [keeps, linksBy_concat_of_ne]
    simp [link]

/-- Letting go of rows that are linked through a table in between removes rows of that table. -/
theorem filterRows (wellFormed : registry.WellFormed) (paired : registry.PairsByKey)
    (hr : relation ∈ registry.relations)
    (known : ∀ relation ∈ relations, relation ∈ registry.relations)
    (h : registry.Detached relations row now before mid)
    {between ownerKey ownerReference targetKey targetReference : String} {target : Entity}
    (link : relation.link = .through between ownerKey ownerReference targetKey targetReference)
    (found : registry.find? relation.target = some target) :
    registry.Detached (relations ++ [relation]) row now before
      (mid.filterRows between fun pair =>
        !(pair.cell ownerReference).same (row.cell ownerKey) ||
          (mid.rowsWith target.table targetKey (pair.cell targetReference)).isEmpty) where
  rows := by
    intro entity he
    obtain ⟨f, released, rows⟩ := h.rows entity he
    have apart : entity.table ≠ between := fun same =>
      wellFormed.between relation hr between (by simp [link, Link.between?])
        (same ▸ List.mem_map_of_mem he)
    refine ⟨f, fun other => (released other).congr fun column => ?_, ?_⟩
    · rw [refersBy_concat_of_ne]
      simp [link]
    · rw [Database.rows_filterRows, if_neg apart, rows]
  pairs := by
    intro table free
    obtain ⟨keep, keeps, pairs⟩ := h.pairs table free
    rw [Database.rows_filterRows]
    split
    · rename_i same
      subst same
      refine ⟨_, fun pair => ?_, by rw [pairs, List.filter_filter]⟩
      rw [linksBy_concat_iff link found, ← keeps, ← h.leads_iff paired hr known link found]
      simp only [Bool.and_eq_false_iff, Bool.or_eq_false_iff, Bool.not_eq_false', or_comm]
    · rename_i apart
      refine ⟨keep, fun pair => ?_, pairs⟩
      have other_table : ∀ a b c d t, relation.link = .through table a b c d →
          registry.find? relation.target ≠ some t := by
        intro a b c d t link'
        rw [link, Link.through.injEq] at link'
        exact absurd link'.1.symm apart
      rw [keeps, linksBy_concat_of_ne other_table]

/-- Letting go of one more relation. -/
theorem detach (wellFormed : registry.WellFormed) (paired : registry.PairsByKey)
    (hr : relation ∈ registry.relations)
    (known : ∀ relation ∈ relations, relation ∈ registry.relations)
    (h : registry.Detached relations row now before mid) :
    registry.Detached (relations ++ [relation]) row now before
      (RecordListing.detach registry now row mid relation) := by
  unfold RecordListing.detach
  split
  · rename_i link found
    exact h.mapRows wellFormed link found
  · rename_i link found
    exact h.filterRows wellFormed paired hr known link found
  · rename_i many through
    constructor
    · intro entity he
      obtain ⟨f, released, rows⟩ := h.rows entity he
      exact ⟨f, fun other => (released other).congr fun column =>
        (refersBy_concat_of_ne fun _ _ link found => many _ _ _ link found).symm, rows⟩
    · intro table free
      obtain ⟨keep, keeps, pairs⟩ := h.pairs table free
      refine ⟨keep, fun pair => ?_, pairs⟩
      rw [keeps, linksBy_concat_of_ne fun _ _ _ _ _ link found => through _ _ _ _ _ _ link found]

/-- Before any relation is let go of, everything is as it was. -/
theorem start (registry : Registry) (row : Row) (now : Timestamp) (db : Database) :
    registry.Detached [] row now db db where
  rows := fun entity _ => ⟨id, fun other => (Row.Released.refl now entity other).congr
    fun column => by simp [RefersBy], (List.map_id _).symm⟩
  pairs := fun table _ => ⟨fun _ => true, fun pair => by simp [LinksBy], by rw [List.filter_true]⟩

/-- Letting go of relations, one after the other. -/
theorem foldl_detach (wellFormed : registry.WellFormed) (paired : registry.PairsByKey)
    {rest : List Relation} (known : ∀ r ∈ relations ++ rest, r ∈ registry.relations)
    (h : registry.Detached relations row now before mid) :
    registry.Detached (relations ++ rest) row now before
      (rest.foldl (RecordListing.detach registry now row) mid) := by
  induction rest generalizing relations mid with
  | nil => simpa using h
  | cons relation rest ih =>
    have next := h.detach wellFormed paired
      (known relation (List.mem_append_right _ List.mem_cons_self))
      fun r hr => known r (List.mem_append_left _ hr)
    have all := ih (by simpa using known) next
    rwa [List.append_assoc, List.singleton_append] at all

end Registry.Detached

end

/-! ## One removal -/

section
variable {registry : Registry} {owner : Entity} {row : Row} {now : Timestamp} {db : Database}

/-- Only the row itself has its key, and rows that are let go of keep theirs. -/
theorem not_sameKey_iff (wellFormed : registry.WellFormed) (howner : owner ∈ registry.entities)
    (distinct : db.KeysDistinct owner) (stored : row ∈ db.rows owner.table) {other after : Row}
    (ho : other ∈ db.rows owner.table)
    (touched : Row.Touched (registry.changedColumns owner) other after) :
    (!sameKey owner row after) = (other != row) := by
  have key : owner.keyOf after = owner.keyOf other :=
    List.map_congr_left fun column hc => touched.kept fun written =>
      wellFormed.keys owner howner column hc (List.mem_append_right _ written)
  rw [sameKey, key]
  by_cases same : other = row
  · subst same
    have self : (compareKeys (owner.keyOf other) (owner.keyOf other) == .eq) = true :=
      equalKeys_self _
    rw [self, bne_self_eq_false, Bool.not_true]
  · have apart : (compareKeys (owner.keyOf row) (owner.keyOf other) == .eq) = false := by
      by_contra equal
      exact same (unique_of_pairwise distinct stored ho (Bool.of_not_eq_false equal)).symm
    rw [apart, bne_iff_ne.2 same, Bool.not_false]

/-- Removing a row lets go of it and takes it out of its table. -/
theorem removeRow_removes (wellFormed : registry.WellFormed) (paired : registry.PairsByKey)
    (howner : owner ∈ registry.entities) (distinct : db.KeysDistinct owner)
    (stored : row ∈ db.rows owner.table) :
    registry.Removes owner row now db (removeRow registry now owner row db) := by
  have known : ∀ r ∈ owner.relations, r ∈ registry.relations := fun r hr =>
    List.mem_flatMap.2 ⟨owner, howner, hr⟩
  have detached := (Registry.Detached.start registry row now db).foldl_detach wellFormed paired
    (by simpa using known)
  rw [List.nil_append] at detached
  constructor
  · intro entity he
    obtain ⟨f, released, rows⟩ := detached.rows entity he
    refine ⟨f, released, ?_⟩
    rw [removeRow, Database.rows_filterRows, rows]
    split
    · rename_i same
      obtain rfl := wellFormed.eq_of_table he howner same
      rw [List.filter_map]
      refine congrArg _ (List.filter_congr fun other ho => ?_)
      rw [bne_self_eq_false, Bool.false_or]
      exact not_sameKey_iff wellFormed howner distinct stored ho
        ((released other).touched_of_refersBy known)
    · rename_i apart
      rw [List.filter_eq_self.2 fun other _ => by simp [bne_iff_ne.2 apart]]
  · intro table free
    obtain ⟨keep, keeps, pairs⟩ := detached.pairs table free
    have apart : table ≠ owner.table := fun same => free (same ▸ List.mem_map_of_mem howner)
    exact ⟨keep, keeps, by rw [removeRow, Database.rows_filterRows, if_neg apart, pairs]⟩

end

/-! ## Records that are deleted -/

/-- Whether an identifier stands for a row: the row has it as its key and is not marked as
deleted. -/
def Database.Finds (db : Database) (entity : Entity) (key : Column) (id : Value) (row : Row) :
    Prop :=
  row ∈ db.rows entity.table ∧ ¬ entity.Marked row ∧
    ∃ cell, key.Takes id cell ∧ (row.cell key.physical).same cell = true

/-- Whether a row and the rows of its collections can be read. -/
structure Registry.Loads (registry : Registry) (db : Database) (entity : Entity) (row : Row) :
    Prop where
  own : entity.Reads row
  collections : ∀ relation ∈ entity.relations, relation.isCollection = true →
    ∀ target, registry.find? relation.target = some target →
      ∀ other ∈ db.linked relation.link target.table row, target.Reads other

section
variable {defaults : Defaults} {db : Database} {registry : Registry} {name : String}
    {entity : Entity} {key : Column} {id : Value} {row : Row} {now : Timestamp}

/-- The row that an identifier stands for is found, if it can be read. -/
theorem findRow_of_finds (distinct : db.KeysDistinct entity) (single : entity.keyColumns = [key])
    (finds : db.Finds entity key id row) :
    findRow db registry entity id [] false = (row.check entity).map fun _ => row := by
  obtain ⟨stored, unmarked, cell, ⟨value, coerced, fits, held⟩, same⟩ := finds
  have shown : entity.Shows false row := shows_iff_not_marked.2 (.inr unmarked)
  exact findRow_of_mem registry false distinct single coerced fits held
    ((mem_rowsAt_iff held).2 ⟨stored, same, shown⟩)

/-- A key that stands for no row is refused. -/
theorem findRow_of_not_finds (single : entity.keyColumns = [key])
    (absent : ∀ row, ¬ db.Finds entity key id row) {cell : Cell} (takes : key.Takes id cell) :
    findRow db registry entity id [] false = refuse (.recordNotFound entity.name id) := by
  have ⟨value, coerced, fits, held⟩ := takes
  refine findRow_of_nil registry false single coerced fits
    (List.eq_nil_iff_forall_not_mem.2 fun row found => ?_)
  obtain ⟨stored, same, shown⟩ := (mem_rowsAt_iff held).1 found
  have unmarked : ¬ entity.Marked row := by simpa using shows_iff_not_marked.1 shown
  exact absent row ⟨stored, unmarked, cell, takes, same⟩

/-- Reading a row and then the rows of its collections. -/
def checkAll (db : Database) (registry : Registry) (entity : Entity) (row : Row) : Outcome Unit :=
  row.check entity >>= fun _ => checkCollections db registry entity row

theorem checkAll_eq_ok_iff :
    checkAll db registry entity row = .ok () ↔ registry.Loads db entity row := by
  have collections : checkCollections db registry entity row = .ok () ↔
      ∀ relation ∈ entity.relations, relation.isCollection = true →
        ∀ target, registry.find? relation.target = some target →
          ∀ other ∈ db.linked relation.link target.table row, target.Reads other := by
    refine forM_eq_ok_iff.trans (forall₂_congr fun relation _ => ?_)
    cases relation.isCollection with
    | false => simp
    | true =>
      cases registry.find? relation.target with
      | none => simp
      | some target =>
        refine forM_eq_ok_iff.trans ?_
        simp only [relatedRows, Entity.sortRows, List.mem_mergeSort, Option.some.injEq,
          forall_eq', forall_const, Row.check_eq_ok_iff, Entity.Reads]
  rw [checkAll, bind_eq_ok_iff, collections]
  exact ⟨fun ⟨_, own, related⟩ => ⟨Row.check_eq_ok_iff.1 own, related⟩,
    fun loads => ⟨(), Row.check_eq_ok_iff.2 loads.own, loads.collections⟩⟩

theorem checkAll_ends (db : Database) (registry : Registry) (entity : Entity) (row : Row) :
    Ends Failure.IsUnknownChoice (fun _ => True) (checkAll db registry entity row) := by
  refine (Row.check_ends entity row).bind fun _ _ _ => Ends.forM fun relation _ => ?_
  split
  · exact Ends.forM fun other _ => Row.check_ends _ other
  · trivial

theorem perform_delete_ok {change : Change}
    (h : deleteRecord db registry now name id = .ok change) :
    (Call.mk name (.delete id) now).perform defaults registry db =
      (.ok (.done change.message), change.database) := by
  rw [Call.perform_delete, h]

theorem perform_delete_error {failure : Failure}
    (h : deleteRecord db registry now name id = .error failure) :
    (Call.mk name (.delete id) now).perform defaults registry db = (.error failure, db) := by
  rw [Call.perform_delete, h]

/-- The row that an identifier stands for is removed, after it and its collections are read. -/
theorem deleteRecord_of_finds (known : registry.find? name = some entity)
    (distinct : db.KeysDistinct entity) (single : entity.keyColumns = [key])
    (finds : db.Finds entity key id row) (now : Timestamp) :
    deleteRecord db registry now name id = (checkAll db registry entity row).map fun _ =>
      ⟨name ++ " deleted successfully.", removeRow registry now entity row db⟩ := by
  rw [deleteRecord, findRecord_eq false known, findRow_of_finds distinct single finds, checkAll]
  cases row.check entity with
  | error failure => rfl
  | ok _ =>
    simp only [map_ok, ok_bind]
    cases checkCollections db registry entity row <;> rfl

/-- Nothing is removed that an identifier does not stand for. -/
theorem deleteRecord_of_not_finds (known : registry.find? name = some entity)
    (single : entity.keyColumns = [key]) (absent : ∀ row, ¬ db.Finds entity key id row)
    (now : Timestamp) :
    ∃ failure, deleteRecord db registry now name id = .error failure ∧
      ((∃ cell, key.Takes id cell) → failure = .refusal (.recordNotFound name id)) ∧
      ((∀ cell, ¬ key.Takes id cell) → key.Fits id →
        failure = .refusal (.invalidFilterValue key.property key.kind)) := by
  by_cases takes : ∃ cell, key.Takes id cell
  · obtain ⟨cell, takes⟩ := takes
    have named : entity.name = name := by simpa using List.find?_some known
    have refused : findRow db registry entity id [] false =
        refuse (.recordNotFound entity.name id) :=
      findRow_of_not_finds single absent takes
    refine ⟨_, ?_, fun _ => rfl, fun stray => absurd takes (stray cell)⟩
    rw [deleteRecord, findRecord_eq false known, refused, named]
    rfl
  · have stray := not_exists.1 takes
    have failed_or : ∃ failure, findRecord db registry name id [] false = .error failure ∧ _ :=
      findRecord_stray false known single stray
    obtain ⟨failure, failed, refused⟩ := failed_or
    exact ⟨failure, by rw [deleteRecord, failed]; rfl, fun some => absurd some takes,
      fun _ => refused⟩

theorem deleteRecord_unknown (unknown : registry.find? name = none) (id : Value)
    (now : Timestamp) :
    deleteRecord db registry now name id = refuse (.unknownEntity name registry.names) := by
  simp only [deleteRecord, findRecord, Registry.get, unknown, refuse, error_bind]

end

/-- A record is deleted exactly if a row that is not marked as deleted has the key and it and the
rows of its collections can be read. Then that row goes, with the rows that link it to others in
between, and the references of its collections are cleared; nothing else changes. What fails changes
nothing. -/
theorem delete_removes {registry : Registry} {name : String} {entity : Entity} {key : Column}
    {db : Database} (wellFormed : registry.WellFormed) (paired : registry.PairsByKey)
    (known : registry.find? name = some entity) (single : entity.keyColumns = [key])
    (distinct : db.KeysDistinct entity) (defaults : Defaults) (id : Value) (now : Timestamp) :
    let delete := fun called => (Call.mk called (.delete id) now).perform defaults registry db
    (∀ row, db.Finds entity key id row → registry.Loads db entity row →
      (delete name).1 = .ok (.done (name ++ " deleted successfully.")) ∧
        registry.Removes entity row now db (delete name).2) ∧
    (∀ row, db.Finds entity key id row → ¬ registry.Loads db entity row →
      ∃ failure : Failure, failure.IsUnknownChoice ∧ delete name = (.error failure, db)) ∧
    ((∀ row, ¬ db.Finds entity key id row) →
      ∃ failure, delete name = (.error failure, db) ∧
        ((∃ cell, key.Takes id cell) → failure = .refusal (.recordNotFound name id)) ∧
        ((∀ cell, ¬ key.Takes id cell) → key.Fits id →
          failure = .refusal (.invalidFilterValue key.property key.kind))) ∧
    ∀ other, registry.find? other = none →
      delete other = (.error (.refusal (.unknownEntity other registry.names)), db) := by
  intro delete
  have howner := List.mem_of_find?_eq_some known
  refine ⟨fun row finds loads => ?_, fun row finds unread => ?_, fun absent => ?_,
    fun other unknown => ?_⟩
  · have deleted : deleteRecord db registry now name id =
        .ok ⟨name ++ " deleted successfully.", removeRow registry now entity row db⟩ := by
      rw [deleteRecord_of_finds known distinct single finds now, checkAll_eq_ok_iff.2 loads]
      rfl
    have done : delete name = _ := perform_delete_ok deleted
    rw [done]
    exact ⟨rfl, removeRow_removes wellFormed paired howner distinct finds.1⟩
  · have ends := checkAll_ends db registry entity row
    cases read : checkAll db registry entity row with
    | ok _ => exact absurd (checkAll_eq_ok_iff.1 read) unread
    | error failure =>
      have failed : deleteRecord db registry now name id = .error failure := by
        rw [deleteRecord_of_finds known distinct single finds now, read]
        rfl
      exact ⟨failure, ends.error read, perform_delete_error failed⟩
  · obtain ⟨failure, failed, refused⟩ := deleteRecord_of_not_finds known single absent now
    exact ⟨failure, perform_delete_error failed, refused⟩
  · exact perform_delete_error (deleteRecord_unknown unknown id now)

/-- In the application an identifier that stands for no row is refused, as not found or as no value
of the key's column, and nothing changes. -/
theorem Retail.delete_refused {name : String} {entity : Entity} {key : Column} {db : Database}
    {id : Value} (known : Retail.registry.find? name = some entity)
    (single : entity.keyColumns = [key]) (absent : ∀ row, ¬ db.Finds entity key id row)
    (defaults : Defaults) (now : Timestamp) :
    ∃ refusal, (Call.mk name (.delete id) now).perform defaults Retail.registry db =
        (.error (.refusal refusal), db) ∧
      (refusal = .recordNotFound name id ∨
        refusal = .invalidFilterValue key.property key.kind) := by
  have fits : key.Fits id :=
    Retail.keys_fit entity (List.mem_of_find?_eq_some known) key (by simp [single]) id
  obtain ⟨failure, failed, missing, stray⟩ := deleteRecord_of_not_finds known single absent now
  have performed : (Call.mk name (.delete id) now).perform defaults Retail.registry db = _ :=
    perform_delete_error failed
  by_cases takes : ∃ cell, key.Takes id cell
  · rw [missing takes] at performed
    exact ⟨_, performed, .inl rfl⟩
  · rw [stray (not_exists.1 takes) fits] at performed
    exact ⟨_, performed, .inr rfl⟩

/-! ## Examples -/

namespace Retail

/-- A brand in two categories, one of which is not there. -/
def deli : Database :=
  ⟨[("brands", [[("id", .text "00000000000000000000000000000001"), ("name", .text "alp")]]),
    ("categories", [[("id", .text "00000000000000000000000000000002"), ("name", .text "jam")]]),
    ("brand_categories", [
      [("brand_id", .text "00000000000000000000000000000001"),
        ("category_id", .text "00000000000000000000000000000002")],
      [("brand_id", .text "00000000000000000000000000000001"),
        ("category_id", .text "00000000000000000000000000000003")]])]⟩

/-- The brand. -/
def alp : Row := [("id", .text "00000000000000000000000000000001"), ("name", .text "alp")]

def idColumn : Column := { Column.plain "id" .uuid with initial := .generated }

theorem deli_finds : deli.Finds brand idColumn (.uuid ⟨1⟩) alp :=
  ⟨by decide +kernel, by rw [← isDeleted_iff]; decide +kernel,
    .text "00000000000000000000000000000001", ⟨.uuid ⟨1⟩, rfl, rfl, by decide +kernel⟩,
    by decide +kernel⟩

theorem deli_loads : registry.Loads deli brand alp :=
  checkAll_eq_ok_iff.1 (eq_ok_of_toBool (by decide +kernel))

end Retail

namespace Sample

/-- A widget with a child of a grade that is not known. -/
def shoots : Database :=
  ⟨[("widgets", [[("id", .int 1), ("name", .text "a")],
    [("id", .int 2), ("name", .text "b"), ("grade", .text "zzz"), ("parent_id", .int 1)]])]⟩

/-- The widget. -/
def stem : Row := [("id", .int 1), ("name", .text "a")]

def idColumn : Column := { Column.plain "id" .integer with initial := .generated }

theorem shoots_finds : shoots.Finds widget idColumn (.int 1) stem :=
  ⟨by decide +kernel, by rw [← isDeleted_iff]; decide +kernel, .int 1, ⟨.int 1, rfl, rfl, rfl⟩,
    by decide +kernel⟩

end Sample

theorem delete_removes_alp :
    let now := .startOf ⟨2024, 2, 1, by decide⟩
    let result := (Call.mk "brand" (.delete (.uuid ⟨1⟩)) now).perform {} Retail.registry Retail.deli
    result.1 = .ok (.done "brand deleted successfully.") ∧
      Retail.registry.Removes Retail.brand Retail.alp now Retail.deli result.2 :=
  (delete_removes Retail.registry_wellFormed Retail.registry_pairsByKey rfl rfl
    (by decide +kernel : Retail.deli.KeysDistinct Retail.brand) {} (.uuid ⟨1⟩) _).1
      Retail.alp Retail.deli_finds Retail.deli_loads

/-- A row in between that leads nowhere stays after its brand is gone, and a widget that an
identifier stands for is not deleted as long as a child of it cannot be read. -/
theorem delete_spares :
    let now := .startOf ⟨2024, 2, 1, by decide⟩
    ((Call.mk "brand" (.delete (.uuid ⟨1⟩)) now).perform {} Retail.registry
        Retail.deli).2.rows "brand_categories" =
      [[("brand_id", .text "00000000000000000000000000000001"),
        ("category_id", .text "00000000000000000000000000000003")]] ∧
    Sample.shoots.Finds Sample.widget Sample.idColumn (.int 1) Sample.stem ∧
    ∃ failure : Failure, failure.IsUnknownChoice ∧
      (Call.mk "widget" (.delete (.int 1)) now).perform {} Sample.registry Sample.shoots =
        (.error failure, Sample.shoots) := by
  refine ⟨?_, Sample.shoots_finds, ?_⟩
  · have distinct : Retail.deli.KeysDistinct Retail.brand := by decide +kernel
    rw [Call.perform_delete, deleteRecord_of_finds rfl distinct rfl Retail.deli_finds,
      checkAll_eq_ok_iff.2 Retail.deli_loads]
    decide +kernel
  · have distinct : Sample.shoots.KeysDistinct Sample.widget := by decide +kernel
    have unread : (checkAll Sample.shoots Sample.registry Sample.widget Sample.stem).toBool =
        false := by
      decide +kernel
    have ends := checkAll_ends Sample.shoots Sample.registry Sample.widget Sample.stem
    rw [Call.perform_delete, deleteRecord_of_finds rfl distinct rfl Sample.shoots_finds]
    cases read : checkAll Sample.shoots Sample.registry Sample.widget Sample.stem with
    | ok _ =>
      rw [read] at unread
      cases unread
    | error failure =>
      rw [read] at ends
      exact ⟨failure, ends, rfl⟩

end RecordListing
