import RecordListing.Records.Show
import RecordListing.Proofs.Records.RelationTrees
import RecordListing.Proofs.Records.Removal

/-!
# What a record shows

A record shows the columns of a row and, under each segment that its runs of relations begin with,
the records of the related rows with what is left of the runs (`showsRow_of_recordOf`). What else is
loaded does not matter to what is shown (`showRecord_congr`), so that a record comes down to the
records behind its relations (`recordAlong_eq`); proofs about it go over its runs in the same way
(`runs_induction`). Runs with the same beginnings show the same (`recordAlong_same`).
-/

set_option autoImplicit false

namespace RecordListing

open Outcome RelationTree

/-! ## One relation after the other -/

/-- What stands for the related records: all of them, or the only one. -/
def Relation.gathered (relation : Relation) (records : List Value) : Value :=
  if relation.isCollection then .list records else records.head?.getD .null

section
variable (db : Database) (registry : Registry)

/-- What is shown of one relation of a row. -/
def shownRelation (requested : List (List String)) (run : List String) (entity : Entity)
    (row : Row) (name : String) (tree : RelationTree) : Outcome (String × Value) :=
  match registry.hop? entity name, isLoaded requested (run ++ [name]) with
  | none, _ => crashWith ⟨.missingAttribute, name⟩
  | some _, false => crashWith ⟨.badState, "not loaded: " ++ name⟩
  | some (relation, target), true =>
    ((relatedRows db relation target row).mapM fun related =>
      (showRecord db registry requested tree (run ++ [name]) target related).map Value.map).map
        fun records => (name, relation.gathered records)

theorem showRelations_eq_mapM (requested : List (List String)) (run : List String)
    (entity : Entity) (row : Row) (children : List (String × RelationTree)) :
    showRelations db registry requested children run entity row =
      children.mapM fun child =>
        shownRelation db registry requested run entity row child.1 child.2 := by
  induction children with
  | nil => simp [showRelations]
  | cons child children ih =>
    obtain ⟨name, tree⟩ := child
    rw [showRelations, List.mapM_cons, ← ih, shownRelation]
    cases registry.hop? entity name with
    | none => rfl
    | some hop =>
      cases isLoaded requested (run ++ [name]) with
      | false => rfl
      | true =>
        obtain ⟨relation, target⟩ := hop
        simp only [Relation.gathered]
        generalize (List.mapM _ (relatedRows db relation target row) : Outcome (List Value)) =
          records
        cases records <;> rfl

end

theorem isLoaded_iff {requested : List (List String)} {run : List String} :
    isLoaded requested run = true ↔ IsBeginning requested run := by
  simp only [isLoaded, List.any_eq_true, List.isPrefixOf_iff_prefix, IsBeginning]

theorem isLoaded_of_append {requested : List (List String)} {run rest : List String}
    (h : isLoaded requested (run ++ rest) = true) : isLoaded requested run = true := by
  obtain ⟨path, hp, begins⟩ := isLoaded_iff.1 h
  exact isLoaded_iff.2 ⟨path, hp, (List.prefix_append run rest).trans begins⟩

theorem isLoaded_of_mem {requested : List (List String)} {run : List String}
    (h : run ∈ requested) : isLoaded requested run = true :=
  isLoaded_iff.2 ⟨run, h, List.prefix_refl run⟩

/-- What is shown does not depend on what else is loaded. -/
theorem showRecord_congr (db : Database) (registry : Registry) (runs : List (List String))
    {requested others : List (List String)} {run other : List String}
    (loaded : ∀ rest ∈ runs, rest ≠ [] → isLoaded requested (run ++ rest) = true)
    (loaded' : ∀ rest ∈ runs, rest ≠ [] → isLoaded others (other ++ rest) = true)
    (entity : Entity) (row : Row) :
    showRecord db registry requested (ofRuns runs) run entity row =
      showRecord db registry others (ofRuns runs) other entity row := by
  induction runs using runs_induction generalizing run other entity row with
  | step runs ih =>
    have each : ∀ name ∈ firsts runs,
        shownRelation db registry requested run entity row name (ofRuns (remainders name runs)) =
          shownRelation db registry others other entity row name
            (ofRuns (remainders name runs)) := by
      intro name hn
      have behind : ∀ {requested : List (List String)} {run : List String},
          (∀ rest ∈ runs, rest ≠ [] → isLoaded requested (run ++ rest) = true) →
            isLoaded requested (run ++ [name]) = true ∧
              ∀ rest ∈ remainders name runs, rest ≠ [] →
                isLoaded requested (run ++ [name] ++ rest) = true := by
        intro requested run loaded
        have longer : ∀ rest, name :: rest ∈ runs →
            isLoaded requested (run ++ [name] ++ rest) = true := fun rest hr => by
          simpa using loaded _ hr (List.cons_ne_nil _ _)
        obtain ⟨rest, hr⟩ := mem_firsts_iff.1 hn
        exact ⟨isLoaded_of_append (longer rest hr), fun rest hr _ =>
          longer rest (mem_remainders_iff.1 hr)⟩
      obtain ⟨here, inner⟩ := behind loaded
      obtain ⟨here', inner'⟩ := behind loaded'
      rw [shownRelation, shownRelation, here, here']
      cases registry.hop? entity name with
      | none => rfl
      | some hop => simp only [ih name hn inner inner']
    rw [ofRuns_eq]
    simp only [showRecord, showRelations_eq_mapM, List.mapM_map, Function.comp_def,
      mapM_congr each]

/-! ## Records along runs -/

/-- The record of a row with runs of relations. -/
def recordAlong (db : Database) (registry : Registry) (runs : List (List String)) (entity : Entity)
    (row : Row) : Outcome (List (String × Value)) :=
  showRecord db registry runs (ofRuns runs) [] entity row

/-- What is shown of one relation: the records of the related rows. -/
def relationAlong (db : Database) (registry : Registry) (runs : List (List String))
    (entity : Entity) (row : Row) (name : String) : Outcome (String × Value) :=
  match registry.hop? entity name with
  | none => crashWith ⟨.missingAttribute, name⟩
  | some (relation, target) =>
    ((relatedRows db relation target row).mapM fun related =>
      (recordAlong db registry (remainders name runs) target related).map Value.map).map
        fun records => (name, relation.gathered records)

section
variable {db : Database} {registry : Registry} {runs others : List (List String)} {entity : Entity}
    {row : Row} {name : String}

/-- All that is shown is loaded. -/
theorem recordAlong_eq : recordAlong db registry runs entity row = (row.check entity >>= fun _ =>
    ((firsts runs).mapM (relationAlong db registry runs entity row)).map fun related =>
      row.values entity ++ related) := by
  have each : ∀ name ∈ firsts runs,
      shownRelation db registry runs [] entity row name (ofRuns (remainders name runs)) =
        relationAlong db registry runs entity row name := by
    intro name hn
    have longer : ∀ rest, name :: rest ∈ runs → isLoaded runs ([name] ++ rest) = true :=
      fun rest hr => isLoaded_of_mem hr
    obtain ⟨rest, hr⟩ := mem_firsts_iff.1 hn
    have here : isLoaded runs ([] ++ [name]) = true := isLoaded_of_append (longer rest hr)
    rw [shownRelation, relationAlong, here]
    cases registry.hop? entity name with
    | none => rfl
    | some hop =>
      have same : ∀ related, showRecord db registry runs (ofRuns (remainders name runs)) [name]
          hop.2 related = recordAlong db registry (remainders name runs) hop.2 related :=
        showRecord_congr db registry (remainders name runs)
          (fun rest hr _ => longer rest (mem_remainders_iff.1 hr))
          (fun rest hr _ => isLoaded_of_mem hr) hop.2
      simp only [List.nil_append, same]
  rw [recordAlong, ofRuns_eq]
  simp only [showRecord, showRelations_eq_mapM, List.mapM_map, Function.comp_def, mapM_congr each]
  cases row.check entity with
  | error failure => rfl
  | ok _ => cases (firsts runs).mapM (relationAlong db registry runs entity row) <;> rfl

/-- Empty runs show nothing. -/
theorem recordAlong_filter (db : Database) (registry : Registry) (runs : List (List String))
    (entity : Entity) (row : Row) :
    recordAlong db registry (runs.filter fun run => !run.isEmpty) entity row =
      recordAlong db registry runs entity row := by
  rw [recordAlong, ofRuns_filter]
  refine showRecord_congr db registry runs (fun run hr hne => ?_)
    (fun run hr _ => isLoaded_of_mem hr) entity row
  exact isLoaded_of_mem (List.mem_filter.2 ⟨hr, by simpa using hne⟩)

theorem recordOf_eq (relations : List String) :
    recordOf db registry entity relations row = recordAlong db registry
      ((relations.filter fun path => !path.isEmpty).map pathSegments) entity row := by
  rw [recordOf, ofPaths_eq]
  rfl

/-! ## What is shown -/

theorem relationAlong_eq_ok_iff {entry : String × Value} :
    relationAlong db registry runs entity row name = .ok entry ↔
      ∃ relation target records, registry.hop? entity name = some (relation, target) ∧
        List.Forall₂ (fun related shown => ∃ record,
            recordAlong db registry (remainders name runs) target related = .ok record ∧
              Value.map record = shown)
          (relatedRows db relation target row) records ∧
        entry = (name, relation.gathered records) := by
  rw [relationAlong]
  cases registry.hop? entity name with
  | none => simp [crashWith]
  | some hop =>
    obtain ⟨relation, target⟩ := hop
    simp only [map_eq_ok_iff, mapM_eq_ok_iff_forall₂, Option.some.injEq, Prod.mk.injEq]
    constructor
    · rintro ⟨records, all, rfl⟩
      exact ⟨relation, target, records, ⟨rfl, rfl⟩, all, rfl⟩
    · rintro ⟨_, _, records, ⟨rfl, rfl⟩, all, rfl⟩
      exact ⟨records, all, rfl⟩

/-- A record shows the columns of a row, and then its relations. -/
theorem eq_of_recordAlong {record : List (String × Value)}
    (h : recordAlong db registry runs entity row = .ok record) :
    ∃ shown : String → Value,
      record = row.values entity ++ (firsts runs).map (fun name => (name, shown name)) ∧
        ∀ name ∈ firsts runs,
          relationAlong db registry runs entity row name = .ok (name, shown name) := by
  simp only [recordAlong_eq, bind_eq_ok_iff, map_eq_ok_iff, mapM_eq_ok_iff ("", Value.null)] at h
  obtain ⟨-, -, related, ⟨each, rfl⟩, rfl⟩ := h
  let entry := fun name =>
    (relationAlong db registry runs entity row name).toOption.getD ("", .null)
  have own : ∀ name ∈ firsts runs,
      relationAlong db registry runs entity row name = .ok (name, (entry name).2) := by
    intro name hn
    obtain ⟨result, shown⟩ := each name hn
    obtain ⟨relation, target, records, -, -, rfl⟩ := relationAlong_eq_ok_iff.1 shown
    simp [entry, shown, Except.toOption]
  refine ⟨fun name => (entry name).2, congrArg _ (List.map_congr_left fun name hn => ?_), own⟩
  rw [own name hn]
  rfl

end

/-! ## Runs that can be followed -/

/-- Whether all runs can be followed from an entity. -/
def Registry.Follows (registry : Registry) (entity : Entity) (runs : List (List String)) : Prop :=
  ∀ run ∈ runs, (registry.reach? entity run).isSome

namespace Registry.Follows

variable {registry : Registry} {entity target : Entity} {relation : Relation}
    {runs : List (List String)} {name : String}

theorem hop (h : registry.Follows entity runs) (hn : name ∈ firsts runs) :
    ∃ relation target, registry.hop? entity name = some (relation, target) := by
  obtain ⟨rest, hr⟩ := mem_firsts_iff.1 hn
  have reached := h _ hr
  rw [Registry.reach?, Option.isSome_bind] at reached
  cases hop : registry.hop? entity name with
  | none => simp [hop] at reached
  | some next => exact ⟨next.1, next.2, rfl⟩

theorem behind (h : registry.Follows entity runs)
    (hop : registry.hop? entity name = some (relation, target)) :
    registry.Follows target (remainders name runs) := by
  intro rest hr
  have reached := h _ (mem_remainders_iff.1 hr)
  rwa [Registry.reach?, hop, Option.bind_some] at reached

end Registry.Follows

section
variable {db : Database} {registry : Registry} {runs : List (List String)} {entity : Entity}

/-- Showing runs that can be followed fails only for rows that cannot be read. -/
theorem recordAlong_ends (db : Database) (follows : registry.Follows entity runs) (row : Row) :
    Ends Failure.IsUnknownChoice (fun _ => True) (recordAlong db registry runs entity row) := by
  induction runs using runs_induction generalizing entity row with
  | step runs ih =>
    rw [recordAlong_eq]
    refine (Row.check_ends entity row).bind fun _ _ _ => (Ends.mapM_any fun name hn => ?_).map
    obtain ⟨relation, target, hop⟩ := follows.hop hn
    rw [relationAlong, hop]
    exact (Ends.mapM_any fun related _ => (ih name hn (follows.behind hop) related).map).map

end

/-! ## Rows along runs -/

/-- Whether a run of relations leads from a row to another one. -/
inductive Registry.Leads (registry : Registry) (db : Database) :
    Entity → Row → List String → Entity → Row → Prop
  | here {entity : Entity} {row : Row} : Leads registry db entity row [] entity row
  | step {entity target last : Entity} {row related other : Row} {name : String}
      {relation : Relation} {run : List String}
      (hop : registry.hop? entity name = some (relation, target))
      (linked : related ∈ db.linked relation.link target.table row)
      (rest : Leads registry db target related run last other) :
      Leads registry db entity row (name :: run) last other

/-- Whether a row and all rows that runs lead to on the way can be read. -/
def Registry.ReadsAlong (registry : Registry) (db : Database) (runs : List (List String))
    (entity : Entity) (row : Row) : Prop :=
  ∀ run, run = [] ∨ IsBeginning runs run →
    ∀ target other, registry.Leads db entity row run target other → target.Reads other

section
variable {db : Database} {registry : Registry} {runs others : List (List String)} {entity : Entity}
    {row : Row} {name : String}

theorem readsAlong_iff : registry.ReadsAlong db runs entity row ↔
    entity.Reads row ∧ ∀ name ∈ firsts runs, ∀ relation target,
      registry.hop? entity name = some (relation, target) →
        ∀ related ∈ db.linked relation.link target.table row,
          registry.ReadsAlong db (remainders name runs) target related := by
  constructor
  · intro reads
    refine ⟨reads [] (.inl rfl) entity row .here, ?_⟩
    intro name hn relation target hop related linked run begins last other leads
    refine reads (name :: run) (.inr ?_) last other (.step hop linked leads)
    rcases begins with rfl | begins
    · exact isBeginning_singleton_iff.2 hn
    · exact isBeginning_cons_iff.2 begins
  · rintro ⟨own, along⟩ run begins last other leads
    cases leads with
    | here => exact own
    | @step _ target _ _ related _ name relation run hop linked rest =>
      have begins := begins.resolve_left (List.cons_ne_nil _ _)
      obtain ⟨path, hp, shorter⟩ := begins
      have hn : name ∈ firsts runs :=
        isBeginning_singleton_iff.1 ⟨path, hp, (List.prefix_append [name] run).trans shorter⟩
      exact along name hn relation target hop related linked run
        (.inr (isBeginning_cons_iff.1 ⟨path, hp, shorter⟩)) last other rest

theorem mem_relatedRows_iff {relation : Relation} {target : Entity} {related : Row} :
    related ∈ relatedRows db relation target row ↔
      related ∈ db.linked relation.link target.table row :=
  List.mem_mergeSort

/-- A record is shown exactly if the rows along its runs can be read. -/
theorem exists_recordAlong_iff (follows : registry.Follows entity runs) :
    (∃ record, recordAlong db registry runs entity row = .ok record) ↔
      registry.ReadsAlong db runs entity row := by
  induction runs using runs_induction generalizing entity row with
  | step runs ih =>
    have each : ∀ name ∈ firsts runs,
        (∃ entry, relationAlong db registry runs entity row name = .ok entry) ↔
          ∀ relation target, registry.hop? entity name = some (relation, target) →
            ∀ related ∈ db.linked relation.link target.table row,
              registry.ReadsAlong db (remainders name runs) target related := by
      intro name hn
      obtain ⟨relation, target, hop⟩ := follows.hop hn
      simp only [relationAlong, hop, exists_map_eq_ok_iff, exists_mapM_eq_ok_iff,
        mem_relatedRows_iff, ih name hn (follows.behind hop), Option.some.injEq, Prod.mk.injEq]
      constructor
      · rintro along _ _ ⟨rfl, rfl⟩
        exact along
      · intro along
        exact along relation target ⟨rfl, rfl⟩
    rw [readsAlong_iff, ← forall₂_congr each, ← exists_mapM_eq_ok_iff, recordAlong_eq]
    cases own : row.check entity with
    | error failure =>
      have unread : ¬ entity.Reads row := fun reads => by
        rw [Row.check_eq_ok_iff.2 reads] at own
        cases own
      simp [unread]
    | ok _ =>
      have reads : entity.Reads row := Row.check_eq_ok_iff.1 own
      simp only [ok_bind, exists_map_eq_ok_iff, reads, true_and]

end

/-! ## Records that are the same -/

/-- Whether two values are the same JSON: the entries of a map may stand in any order. -/
inductive Value.Same : Value → Value → Prop
  | refl (value : Value) : Same value value
  | list {items others : List Value} (each : List.Forall₂ Same items others) :
      Same (.list items) (.list others)
  | map {entries others : List (String × Value)}
      (each : ∀ key, Option.Rel Same (entries.lookup key) (others.lookup key)) :
      Same (.map entries) (.map others)

/-- Whether runs have the same beginnings as others, whatever their order and repetitions. -/
def SameBeginnings (runs others : List (List String)) : Prop :=
  ∀ run, run ≠ [] → (IsBeginning runs run ↔ IsBeginning others run)

theorem Relation.gathered_same (relation : Relation) {records others : List Value}
    (h : List.Forall₂ Value.Same records others) :
    (relation.gathered records).Same (relation.gathered others) := by
  unfold gathered
  split
  · exact .list h
  · cases h with
    | nil => exact .refl _
    | cons first _ => exact first

theorem forall₂_of_common {α β γ : Type} {R : α → β → Prop} {S : α → γ → Prop} {T : β → γ → Prop}
    (h : ∀ a b c, R a b → S a c → T b c) {as : List α} {bs : List β} {cs : List γ}
    (left : List.Forall₂ R as bs) (right : List.Forall₂ S as cs) : List.Forall₂ T bs cs := by
  induction left generalizing cs with
  | nil =>
    cases right
    exact .nil
  | cons first _ ih =>
    cases right with
    | cons first' rest' => exact .cons (h _ _ _ first first') (ih rest')

section
variable {db : Database} {registry : Registry} {runs others : List (List String)} {entity : Entity}
    {row : Row} {name : String}

namespace SameBeginnings

/-- Neither the order of runs nor repetitions nor beginnings of other runs matter. -/
theorem of_isBeginning (h : ∀ run ∈ runs, IsBeginning others run)
    (h' : ∀ run ∈ others, IsBeginning runs run) : SameBeginnings runs others := by
  have longer : ∀ {runs others : List (List String)}, (∀ run ∈ runs, IsBeginning others run) →
      ∀ run, IsBeginning runs run → IsBeginning others run := by
    rintro runs others h run ⟨path, hp, begins⟩
    obtain ⟨path', hp', begins'⟩ := h path hp
    exact ⟨path', hp', begins.trans begins'⟩
  exact fun run _ => ⟨longer h run, longer h' run⟩

theorem mem_firsts_iff (h : SameBeginnings runs others) :
    name ∈ firsts runs ↔ name ∈ firsts others := by
  rw [← isBeginning_singleton_iff, ← isBeginning_singleton_iff]
  exact h [name] (List.cons_ne_nil _ _)

theorem behind (h : SameBeginnings runs others) (name : String) :
    SameBeginnings (remainders name runs) (remainders name others) := fun run _ => by
  rw [← isBeginning_cons_iff, ← isBeginning_cons_iff]
  exact h (name :: run) (List.cons_ne_nil _ _)

theorem follows (h : SameBeginnings runs others) (follows : registry.Follows entity runs) :
    registry.Follows entity others := by
  intro run hr
  by_cases empty : run = []
  · rw [empty]
    rfl
  · obtain ⟨_, hp, rest, rfl⟩ := (h run empty).2 ⟨run, hr, List.prefix_refl run⟩
    have reached := follows _ hp
    rw [Registry.reach?_append, Option.isSome_bind] at reached
    exact Option.isSome_of_any reached

theorem readsAlong (h : SameBeginnings runs others)
    (reads : registry.ReadsAlong db runs entity row) :
    registry.ReadsAlong db others entity row := by
  intro run begins
  by_cases empty : run = []
  · exact reads run (.inl empty)
  · exact reads run (.inr ((h run empty).2 (begins.resolve_left empty)))

end SameBeginnings

/-- Runs with the same beginnings show the same record. -/
theorem recordAlong_same (same : SameBeginnings runs others)
    (follows : registry.Follows entity runs) {record : List (String × Value)}
    (h : recordAlong db registry runs entity row = .ok record) :
    ∃ other, recordAlong db registry others entity row = .ok other ∧
      (Value.map record).Same (.map other) := by
  induction runs using runs_induction generalizing others entity row record with
  | step runs ih =>
    have reads := (exists_recordAlong_iff follows).1 ⟨record, h⟩
    obtain ⟨other, h'⟩ := (exists_recordAlong_iff (same.follows follows)).2 (same.readsAlong reads)
    refine ⟨other, h', .map fun key => ?_⟩
    obtain ⟨shown, rfl, each⟩ := eq_of_recordAlong h
    obtain ⟨shown', rfl, each'⟩ := eq_of_recordAlong h'
    have known : key ∈ firsts runs ↔ key ∈ firsts others := same.mem_firsts_iff
    rw [List.lookup_append, List.lookup_append, lookup_map_pair, lookup_map_pair]
    cases (row.values entity).lookup key with
    | some value => exact .some (.refl value)
    | none =>
      by_cases hn : key ∈ firsts runs
      · obtain ⟨relation, target, records, hop, each, shown⟩ :=
          relationAlong_eq_ok_iff.1 (each key hn)
        obtain ⟨_, _, records', hop', each', shown'⟩ :=
          relationAlong_eq_ok_iff.1 (each' key (known.1 hn))
        cases hop.symm.trans hop'
        have inner : List.Forall₂ Value.Same records records' := by
          refine forall₂_of_common (fun related shown shown' => ?_) each each'
          rintro ⟨inner, h, rfl⟩ ⟨inner', h', rfl⟩
          obtain ⟨other, h'', alike⟩ := ih key hn (same.behind key) (follows.behind hop) h
          cases h'.symm.trans h''
          exact alike
        rw [if_pos hn, if_pos (known.1 hn), (Prod.mk.inj shown).2, (Prod.mk.inj shown').2]
        exact .some (relation.gathered_same inner)
      · rw [if_neg hn, if_neg fun hn' => hn (known.2 hn')]
        exact .none

end

/-! ## Dotted runs -/

/-- What is left of the dotted runs that begin with a segment. -/
def dottedRemainders (name : String) (relations : List String) : List String :=
  (remainders name (relations.map pathSegments)).map pathText

/-- Whether no column and no two relations of an entity share a name. -/
def Registry.NamesApart (registry : Registry) : Prop :=
  ∀ entity ∈ registry.entities, (entity.properties ++ entity.relations.map (·.name)).Nodup

theorem Retail.registry_namesApart : Retail.registry.NamesApart := by
  unfold Registry.NamesApart
  decide +kernel

theorem Sample.registry_namesApart : Sample.registry.NamesApart := by
  unfold Registry.NamesApart
  decide +kernel

/-- Whether a record shows the columns of a row and the relations that dotted runs begin with: under
each of them the records of all related rows, with what is left of the runs. -/
structure Registry.ShowsRow (registry : Registry) (db : Database) (entity : Entity)
    (relations : List String) (row : Row) (record : List (String × Value)) : Prop where
  distinct : (record.map Prod.fst).Nodup
  names : record.map Prod.fst = entity.properties ++ firsts (relations.map pathSegments)
  columns : ∀ column ∈ entity.columns,
    record.lookup column.property = some (column.type.value (row.cell column.physical))
  related : ∀ name ∈ firsts (relations.map pathSegments), ∃ relation target records,
    registry.hop? entity name = some (relation, target) ∧
    List.Forall₂ (fun other shown => ∃ inner,
        recordOf db registry target (dottedRemainders name relations) other = .ok inner ∧
          Value.map inner = shown)
      (relatedRows db relation target row) records ∧
    record.lookup name = some (relation.gathered records)

section
variable {registry : Registry} {entity : Entity} {relations : List String}

theorem follows_of_canFollow (valid : ∀ path ∈ relations, registry.canFollow entity path = true) :
    registry.Follows entity (relations.map pathSegments) :=
  List.forall_mem_map.2 valid

theorem recordOf_eq_recordAlong (db : Database)
    (valid : ∀ path ∈ relations, registry.canFollow entity path = true) (row : Row) :
    recordOf db registry entity relations row =
      recordAlong db registry (relations.map pathSegments) entity row := by
  have filled : ∀ path ∈ relations, (!path.isEmpty) = true := by
    intro path hp
    have ne : path ≠ "" := by
      rintro rfl
      have follow := valid "" hp
      rw [JoinPlan.canFollow_empty] at follow
      cases follow
    simpa using ne
  rw [recordOf_eq, List.filter_eq_self.2 filled]

theorem recordOf_dottedRemainders (db : Database) {name : String} {target : Entity}
    (follows : registry.Follows target (remainders name (relations.map pathSegments))) (row : Row) :
    recordOf db registry target (dottedRemainders name relations) row =
      recordAlong db registry (remainders name (relations.map pathSegments)) target row := by
  have dotless : ∀ run ∈ remainders name (relations.map pathSegments), ∀ segment ∈ run,
      '.' ∉ segment.toList := by
    intro run hr segment hs
    obtain ⟨path, -, segments⟩ := List.mem_map.1 (mem_remainders_iff.1 hr)
    have own : segment ∈ pathSegments path := segments ▸ List.mem_cons_of_mem _ hs
    exact Text.not_mem_of_mem_pieces own
  rw [dottedRemainders, recordOf_eq]
  generalize remainders name (relations.map pathSegments) = runs at follows dotless ⊢
  have filled : runs.filter ((fun path => !path.isEmpty) ∘ pathText) =
      runs.filter fun run => !run.isEmpty := by
    refine List.filter_congr fun run hr => ?_
    cases run with
    | nil => rfl
    | cons first rest =>
      obtain ⟨relation, next, hop⟩ := follows.hop (mem_firsts_iff.2 ⟨rest, hr⟩)
      obtain ⟨relation, named, -⟩ := Option.bind_eq_some_iff.1 hop
      simpa using pathText_ne_empty rest (Entity.relation?_named named)
  have back : ∀ run ∈ runs.filter (fun run => !run.isEmpty),
      (pathSegments ∘ pathText) run = run := by
    intro run hr
    obtain ⟨hr, filled⟩ := List.mem_filter.1 hr
    exact pathSegments_pathText (by simpa using filled) (dotless run hr)
  rw [List.filter_map, List.map_map, filled, List.map_congr_left back, List.map_id',
    recordAlong_filter]

/-- A record that is shown shows its row. -/
theorem showsRow_of_recordOf (apart : registry.NamesApart) (known : entity ∈ registry.entities)
    (valid : ∀ path ∈ relations, registry.canFollow entity path = true) {db : Database} {row : Row}
    {record : List (String × Value)} (h : recordOf db registry entity relations row = .ok record) :
    registry.ShowsRow db entity relations row record := by
  have follows := follows_of_canFollow valid
  rw [recordOf_eq_recordAlong db valid] at h
  obtain ⟨shown, eq, each⟩ := eq_of_recordAlong h
  have names : record.map Prod.fst =
      entity.properties ++ firsts (relations.map pathSegments) := by
    simp [eq, Row.values, Entity.properties, Function.comp_def]
  have distinct : (record.map Prod.fst).Nodup := by
    obtain ⟨columns, -, other_names⟩ := List.nodup_append.1 (apart entity known)
    refine names ▸ List.nodup_append.2 ⟨columns, nodup_firsts _, fun property hp name hn => ?_⟩
    obtain ⟨relation, target, hop⟩ := follows.hop hn
    obtain ⟨relation, found, -⟩ := Option.bind_eq_some_iff.1 hop
    have named : relation.name = name := by simpa using List.find?_some found
    exact other_names property hp name
      (named ▸ List.mem_map_of_mem (List.mem_of_find?_eq_some found))
  refine ⟨distinct, names, fun column hc => ?_, fun name hn => ?_⟩
  · rw [lookup_eq_some_iff_mem distinct, eq]
    exact List.mem_append_left _ (List.mem_map_of_mem hc)
  · obtain ⟨relation, target, records, hop, each, own⟩ := relationAlong_eq_ok_iff.1 (each name hn)
    refine ⟨relation, target, records, hop, ?_, ?_⟩
    · simpa only [recordOf_dottedRemainders db (follows.behind hop)] using each
    · rw [lookup_eq_some_iff_mem distinct, eq, ← own]
      exact List.mem_append_right _ (List.mem_map_of_mem hn)

/-- The relations that are shown at any depth are those that are loaded. A record with relations
that can be followed is shown exactly if the rows along them can be read, and fails for no other
reason. It shows its row, with deleted related rows as well, and it is the same JSON for all
relations with the same beginnings. -/
theorem recordOf_shows (apart : registry.NamesApart) (known : entity ∈ registry.entities)
    (valid : ∀ path ∈ relations, registry.canFollow entity path = true) (db : Database)
    (row : Row) :
    (∀ run, run ≠ [] → ((RelationTree.ofPaths relations).Holds run ↔
      isLoaded (relations.map pathSegments) run = true)) ∧
    ((∃ record, recordOf db registry entity relations row = .ok record) ↔
      registry.ReadsAlong db (relations.map pathSegments) entity row) ∧
    (∀ failure, recordOf db registry entity relations row = .error failure →
      failure.IsUnknownChoice) ∧
    ∀ record, recordOf db registry entity relations row = .ok record →
      registry.ShowsRow db entity relations row record ∧
      ∀ others, SameBeginnings (relations.map pathSegments) (others.map pathSegments) →
        ∃ other, recordOf db registry entity others row = .ok other ∧
          (Value.map record).Same (.map other) := by
  have follows := follows_of_canFollow valid
  have along := recordOf_eq_recordAlong db valid row
  refine ⟨fun run hne => ?_, ?_, fun failure failed => ?_,
    fun record shown => ⟨?_, fun others same => ?_⟩⟩
  · rw [ofPaths_eq, holds_ofRuns_iff hne, isLoaded_iff]
  · rw [along]
    exact exists_recordAlong_iff follows
  · exact (recordAlong_ends db follows row).error (along ▸ failed)
  · exact showsRow_of_recordOf apart known valid shown
  · have valid' : ∀ path ∈ others, registry.canFollow entity path = true :=
      List.forall_mem_map.1 (same.follows follows)
    rw [recordOf_eq_recordAlong db valid']
    exact recordAlong_same same follows (along ▸ shown)

end

namespace Retail

/-- A branch without audits. -/
def corner : Row :=
  [("id", .text "00000000000000000000000000000004"), ("name", .text "corner"),
    ("city_id", .text "00000000000000000000000000000003")]

/-- A region with a city that is marked as deleted. -/
def upland : Row :=
  [("id", .text "00000000000000000000000000000002"), ("name", .text "upland"),
    ("country_id", .text "00000000000000000000000000000001")]

def towns : Database :=
  ⟨[("countries", [[("id", .text "00000000000000000000000000000001"), ("name", .text "arabia")]]),
    ("regions", [upland]),
    ("cities", [[("id", .text "00000000000000000000000000000003"), ("name", .text "hightown"),
      ("region_id", .text "00000000000000000000000000000002"),
      ("deleted_at", .text "2024-01-02 00:00:00.000000")]]),
    ("branches", [corner])]⟩

end Retail

theorem recordOf_shows_upland :
    ∃ record, recordOf Retail.towns Retail.registry Retail.region
        ["cities.branches", "country", "cities"] Retail.upland = .ok record ∧
      Retail.registry.ShowsRow Retail.towns Retail.region ["cities.branches", "country", "cities"]
        Retail.upland record ∧
      ∃ other, recordOf Retail.towns Retail.registry Retail.region
          ["country", "cities.branches", "country"] Retail.upland = .ok other ∧
        (Value.map record).Same (.map other) := by
  have known : Retail.region ∈ Retail.registry.entities :=
    List.mem_of_find?_eq_some (rfl : Retail.registry.find? "region" = some Retail.region)
  have valid : ∀ path ∈ ["cities.branches", "country", "cities"],
      Retail.registry.canFollow Retail.region path = true := by
    decide +kernel
  have shown : (recordOf Retail.towns Retail.registry Retail.region
      ["cities.branches", "country", "cities"] Retail.upland).toOption.any (fun _ => true) =
        true := by
    decide +kernel
  have same : SameBeginnings (["cities.branches", "country", "cities"].map pathSegments)
      (["country", "cities.branches", "country"].map pathSegments) :=
    .of_isBeginning (by unfold IsBeginning; decide +kernel) (by unfold IsBeginning; decide +kernel)
  obtain ⟨record, own, -⟩ := exists_ok_of_any shown
  have shows := (recordOf_shows Retail.registry_namesApart known valid Retail.towns
    Retail.upland).2.2.2 record own
  exact ⟨record, own, shows.1, shows.2 _ same⟩

/-- A collection without rows is an empty list, and a record is not shown if a row that is asked for
with it cannot be read. -/
theorem recordOf_empty_or_unread :
    (∃ record, recordOf Retail.towns Retail.registry Retail.branch ["audits"] Retail.corner =
        .ok record ∧ record.lookup "audits" = some (.list [])) ∧
      Sample.registry.canFollow Sample.widget "children" = true ∧
      ∃ failure : Failure, failure.IsUnknownChoice ∧
        recordOf Sample.shoots Sample.registry Sample.widget ["children"] Sample.stem =
          .error failure := by
  have valid : ∀ path ∈ ["children"], Sample.registry.canFollow Sample.widget path = true := by
    decide +kernel
  refine ⟨?_, by decide +kernel, ?_⟩
  · have known : Retail.branch ∈ Retail.registry.entities :=
      List.mem_of_find?_eq_some (rfl : Retail.registry.find? "branch" = some Retail.branch)
    have followed : ∀ path ∈ ["audits"], Retail.registry.canFollow Retail.branch path = true := by
      decide +kernel
    have shown : (recordOf Retail.towns Retail.registry Retail.branch ["audits"]
        Retail.corner).toOption.any (fun _ => true) = true := by
      decide +kernel
    obtain ⟨record, own, -⟩ := exists_ok_of_any shown
    have shows := showsRow_of_recordOf Retail.registry_namesApart known followed own
    obtain ⟨relation, target, records, hop, each, held⟩ :=
      shows.related "audits" (by decide +kernel)
    have audits : Retail.registry.hop? Retail.branch "audits" =
        some (Retail.toMany "audits" "audit" "branch_id", Retail.audit) := rfl
    cases hop.symm.trans audits
    have none_there : relatedRows Retail.towns (Retail.toMany "audits" "audit" "branch_id")
        Retail.audit Retail.corner = [] := by
      decide +kernel
    rw [none_there, List.forall₂_nil_left_iff] at each
    rw [each] at held
    exact ⟨record, own, held⟩
  · have ends := recordAlong_ends Sample.shoots (follows_of_canFollow valid) Sample.stem
    rw [← recordOf_eq_recordAlong Sample.shoots valid] at ends
    have unread : (recordOf Sample.shoots Sample.registry Sample.widget ["children"]
        Sample.stem).toBool = false := by
      decide +kernel
    cases shown : recordOf Sample.shoots Sample.registry Sample.widget ["children"] Sample.stem with
    | ok _ =>
      rw [shown] at unread
      cases unread
    | error failure => exact ⟨failure, ends.error shown, rfl⟩

end RecordListing
