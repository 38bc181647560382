import RecordListing.Log.Line
import RecordListing.Proofs.Entries
import RecordListing.Proofs.Json.Values
import RecordListing.Proofs.Outcome
import RecordListing.Proofs.Time.DayNumbers

/-!
# Log lines read back

The line of a record is one line of ASCII, and reading it gives one object with the parts of a line
as its keys, each once: what a record says or carries stays inside the value of its own part
(`line_decodes`). A record gets its line if its message can be made, and that cannot fail unless it
takes arguments or an attribute stands in the way.
-/

set_option autoImplicit false

namespace RecordListing.Log.Record

open RecordListing.Outcome

/-! ## Records -/

/-- The attributes that the line shows in parts of their own. -/
def shownAttributes : List String := ["levelname", "name", "funcName", "lineno"]

/-- Whether a record has each attribute once, plain values in what is shown of it, and nothing but
failures where these are kept. -/
structure Regular (record : Record) : Prop where
  distinct : (record.attributes.map (·.1)).Nodup
  plain : ∀ entry ∈ record.attributes,
    entry.1 ∈ shownAttributes ∨ entry.1 ∉ reservedAttributes → entry.2.IsPlain
  carries : ∃ exception, record.carried = .ok exception
  failure : ∀ exception ∈ record.exception, exception.type.IsPlain ∧ exception.message.IsPlain

/-- Whether a record was made at a time of the calendar. -/
def Dated (record : Record) : Prop :=
  ∃ micros, createdMicros? (record.get "created" (.float (.zero false))) = some micros ∧
    -62135596800000000 ≤ micros ∧ micros < 253402300800000000

/-- Whether the record is about a failure. -/
def Failed (record : Record) : Prop :=
  record.exception.isSome = true ∨ (record.get "exc_info" .null).isNothing = false

variable {record : Record}

theorem extra_eq : record.extra = record.attributes.filter (·.1 ∉ reservedAttributes) := by
  simp [extra]

theorem mem_extra {entry : String × Value} :
    entry ∈ record.extra ↔ entry ∈ record.attributes ∧ entry.1 ∉ reservedAttributes := by
  simp [extra]

theorem Regular.of_plain {attributes : List (String × Value)}
    (plain : (Value.map attributes).IsPlain) (unset : attributes.lookup "exc_info" = none) :
    Regular { attributes } := by
  cases plain with
  | map distinct each =>
    refine ⟨distinct, fun entry h _ => each entry h, ⟨none, ?_⟩, nofun⟩
    simp only [carried, get, unset, Option.getD_none, exceptionIn, Value.isNothing, if_true]

/-- An attribute that is shown is plain, as is what stands for one that is not set. -/
theorem plain_get (regular : record.Regular) {name : String} (shown : name ∈ shownAttributes)
    {default : Value} (other : default.IsPlain) : (record.get name default).IsPlain := by
  unfold get
  cases found : record.attributes.lookup name with
  | none => exact other
  | some value =>
    exact regular.plain _ ((lookup_eq_some_iff_mem regular.distinct).1 found) (.inl shown)

theorem plain_extra (regular : record.Regular) : (Value.map record.extra).IsPlain := by
  refine .map (regular.distinct.sublist (List.filter_sublist.map _)) fun entry h => ?_
  obtain ⟨mem, free⟩ := mem_extra.1 h
  exact regular.plain entry mem (.inr free)

theorem exists_timestamp (dated : record.Dated) : ∃ time, record.timestamp = .ok time := by
  obtain ⟨micros, known, first, last⟩ := dated
  obtain ⟨time, found⟩ := Timestamp.exists_ofEpochMicros? first last
  exact ⟨time.isoText, by simp only [timestamp, known, if_pos first, found]⟩

/-- A failure is read from an attribute that counts as something, and its parts are plain. -/
theorem exceptionIn_eq_ok {value : Value} {exception : Option Exception}
    (h : exceptionIn value = .ok exception) :
    exception.isSome = !value.isNothing ∧
      ∀ e ∈ exception, e.type.IsPlain ∧ e.message.IsPlain := by
  unfold exceptionIn at h
  split_ifs at h with nothing
  · cases h
    simp [nothing]
  · split at h
    · split_ifs at h with typed
      · cases h
      · split at h
        · cases h
        · cases h
          refine ⟨by simp [nothing], ?_⟩
          rintro _ ⟨⟩
          refine ⟨.null, ?_⟩
          dsimp only
          split
          · exact .null
          · exact .text _
    all_goals cases h

/-- A failure is carried where one is set, and its parts are plain. -/
theorem carried_eq_ok (regular : record.Regular) {exception : Option Exception}
    (h : record.carried = .ok exception) :
    (exception.isSome = true ↔ record.Failed) ∧
      ∀ e ∈ exception, e.type.IsPlain ∧ e.message.IsPlain := by
  unfold carried at h
  split at h
  · rename_i set
    cases h
    exact ⟨by simp [Failed, set], fun e he => regular.failure e (set.trans he)⟩
  · rename_i unset
    obtain ⟨read, plain⟩ := exceptionIn_eq_ok h
    exact ⟨by simp [Failed, unset, read], plain⟩

/-- Without arguments, and nothing in the way, the message is the text of what was said. -/
theorem message_unless_arguments (free : record.attributes.lookup "getMessage" = none)
    (alone : (record.get "args" (.list [])).isNothing = true) :
    record.message = .ok (.text (record.get "msg" (.text "")).toText) := by
  simp only [message, free]
  split
  · rfl
  · rfl
  · rename_i items some_items same
    rw [same] at alone
    cases items with
    | nil => exact absurd rfl some_items
    | cons => cases alone
  · rename_i entries some_entries same
    rw [same] at alone
    cases entries with
    | nil => exact absurd rfl some_entries
    | cons => cases alone
  · rw [if_pos alone]

/-! ## Lines -/

/-- The keys that every line has. -/
def partsOfAll : List String := ["timestamp", "level", "logger", "message", "function", "line"]

/-- Whether the entries are what a line shows of a record. -/
structure Decoded (record : Record) (id time message : String) (exception : Option Exception)
    (entries : List (String × Value)) : Prop where
  once : (entries.map (·.1)).Nodup
  keys : ∀ key, key ∈ entries.map (·.1) ↔ key ∈ partsOfAll ∨ (key = "request_id" ∧ id ≠ "") ∨
    (key = "exception" ∧ record.Failed) ∨
    (key = "extra" ∧ ∃ entry ∈ record.attributes, entry.1 ∉ reservedAttributes)
  time : ("timestamp", .text time) ∈ entries
  level : ("level", record.get "levelname" (.text "INFO")) ∈ entries
  logger : ("logger", record.get "name" (.text "fieldops")) ∈ entries
  message : ("message", .text message) ∈ entries
  request : id ≠ "" → ("request_id", .text id) ∈ entries
  failure : ∀ e ∈ exception,
    ("exception", .map [("type", e.type.toValue), ("message", e.message.toValue)]) ∈ entries
  function : ("function", record.get "funcName" (.text "f")) ∈ entries
  line : ("line", record.get "lineno" (.int 1)) ∈ entries
  extra : ∀ entry ∈ record.attributes, entry.1 ∉ reservedAttributes →
    ("extra", .map (record.attributes.filter (·.1 ∉ reservedAttributes))) ∈ entries

variable {id time message : String} {exception : Option Exception}

theorem keys_members :
    (record.members (.text id) time (.text message) exception).map (·.1) =
      ["timestamp", "level", "logger", "message"] ++ (if id = "" then [] else ["request_id"]) ++
        (if exception.isSome then ["exception"] else []) ++ ["function", "line"] ++
        (if record.extra = [] then [] else ["extra"]) := by
  simp only [members, List.map_append, Value.isNothing, String.isEmpty_iff, List.isEmpty_iff]
  congr 1
  · congr 1
    congr 1
    · split <;> rfl
    · cases exception <;> rfl
  · split <;> rfl

theorem nodup_members :
    ((record.members (.text id) time (.text message) exception).map (·.1)).Nodup := by
  rw [keys_members]
  split_ifs <;> decide

theorem extra_ne_nil_iff :
    record.extra ≠ [] ↔ ∃ entry ∈ record.attributes, entry.1 ∉ reservedAttributes := by
  constructor
  · intro some_extra
    obtain ⟨entry, h⟩ := List.exists_mem_of_ne_nil _ some_extra
    exact ⟨entry, mem_extra.1 h⟩
  · rintro ⟨entry, h⟩
    exact List.ne_nil_of_mem (mem_extra.2 h)

/-- The line of a record is a plain document. -/
theorem plain_members (regular : record.Regular) (carried : record.carried = .ok exception) :
    (Json.object (record.members (.text id) time (.text message) exception)).IsPlain := by
  have part {name : String} (shown : name ∈ shownAttributes) {default : Value}
      (other : default.IsPlain) : (Json.ofValue (record.get name default)).IsPlain :=
    Json.plain_ofValue (plain_get regular shown other)
  refine .object nodup_members ?_
  simp only [members, List.forall_mem_append, List.forall_mem_cons]
  refine ⟨⟨⟨⟨⟨.text _, part (by decide) (.text _), part (by decide) (.text _), .text _, nofun⟩,
    ?request⟩, ?failure⟩, part (by decide) (.text _), part (by decide) (.int _), nofun⟩, ?extra⟩
  case request =>
    split
    · nofun
    · exact List.forall_mem_singleton.2 (.text id)
  case failure =>
    cases exception with
    | none => nofun
    | some e =>
      obtain ⟨type, text⟩ := (carried_eq_ok regular carried).2 e rfl
      refine List.forall_mem_singleton.2 (.object (by simp) ?_)
      exact List.forall_mem_cons.2 ⟨type, List.forall_mem_singleton.2 text⟩
  case extra =>
    split
    · nofun
    · exact List.forall_mem_singleton.2 (Json.plain_ofValue (plain_extra regular))

/-- The line of a record shows the record. -/
theorem decoded_members (regular : record.Regular) (carried : record.carried = .ok exception) :
    record.Decoded id time message exception
      (Json.memberValues (record.members (.text id) time (.text message) exception)) := by
  have holds {key : String} {j : Json} {value : Value} (same : j.toValue = value)
      (h : (key, j) ∈ record.members (.text id) time (.text message) exception) :
      (key, value) ∈
        Json.memberValues (record.members (.text id) time (.text message) exception) :=
    same ▸ Json.mem_memberValues h
  have part {name : String} (shown : name ∈ shownAttributes) {default : Value}
      (other : default.IsPlain) :
      (Json.ofValue (record.get name default)).toValue = record.get name default :=
    Json.toValue_ofValue (plain_get regular shown other)
  exact {
    once := by
      rw [Json.keys_memberValues]
      exact nodup_members
    keys := fun key => by
      rw [Json.keys_memberValues, keys_members, ← (carried_eq_ok regular carried).1,
        ← extra_ne_nil_iff]
      by_cases unnamed : id = "" <;> cases exception <;> by_cases nothing : record.extra = [] <;>
        simp [unnamed, nothing, partsOfAll, or_left_comm, or_comm]
    time := holds (j := .text time) rfl (by simp [members])
    level := holds (part (by decide) (.text _)) (by simp [members])
    logger := holds (part (by decide) (.text _)) (by simp [members])
    message := holds (j := .text message) rfl (by simp [members])
    request := fun named => by
      refine holds (j := .text id) rfl ?_
      simp [members, Value.isNothing, named, Json.ofValue]
    failure := by
      rintro e rfl
      refine holds (j := .object [("type", e.type), ("message", e.message)]) rfl ?_
      simp [members]
    function := holds (part (by decide) (.text _)) (by simp [members])
    line := holds (part (by decide) (.int _)) (by simp [members])
    extra := fun entry h free => by
      have some_extra : record.extra ≠ [] := List.ne_nil_of_mem (mem_extra.2 ⟨h, free⟩)
      rw [← extra_eq]
      refine holds (Json.toValue_ofValue (plain_extra regular)) ?_
      simp [members, some_extra, Json.ofValue] }

/-- The line of a record is one line of ASCII, and reading it gives one object that shows the
record, whatever the record says and carries. The message of a record is what it says, if that takes
no arguments and nothing stands in the way. -/
theorem line_decodes (regular : record.Regular) (dated : record.Dated) (id : String) :
    (record.attributes.lookup "getMessage" = none →
      (record.get "args" (.list [])).isNothing = true →
      record.message = .ok (.text (record.get "msg" (.text "")).toText)) ∧
    ∀ message, record.message = .ok (.text message) →
      ∃ line time exception entries,
        record.line (.text id) = .ok line ∧ record.timestamp = .ok time ∧
        record.carried = .ok exception ∧ Json.Printed line.toList ∧
        (Json.parse? line).map Json.toValue = some (.map entries) ∧
        record.Decoded id time message exception entries := by
  refine ⟨message_unless_arguments, fun message said => ?_⟩
  obtain ⟨time, timed⟩ := exists_timestamp dated
  obtain ⟨exception, carried⟩ := regular.carries
  have plain : (Json.object (record.members (.text id) time (.text message) exception)).IsPlain :=
    plain_members regular carried
  have written : record.line (.text id) =
      .ok (Json.object (record.members (.text id) time (.text message) exception)).encode := by
    simp only [line, timed, said, carried, ok_bind, pure_eq]
  refine ⟨_, time, exception, _, written, timed, carried, ?_, ?_, decoded_members regular carried⟩
  · rw [Json.encode, String.toList_ofList]
    exact Json.printed_chars plain
  · rw [Json.parse?_encode plain, Option.map_some, Json.toValue]

/-- A record with something in every part of its line. -/
def fullRecord : Record where
  attributes := [("msg", .text "two\nlines"), ("created", .int 1),
    ("user", .map [("name", .text "\"é😀"), ("roles", .list [.null, .bool true, .int (-7)])])]
  exception := some ⟨.text "ValueError", .text "bad"⟩

theorem regular_fullRecord : fullRecord.Regular where
  distinct := by decide
  plain := by
    simp only [fullRecord, List.forall_mem_cons]
    refine ⟨fun _ => .text _, fun _ => .int _, fun _ => .map (by decide) ?_, nofun⟩
    simp only [List.forall_mem_cons]
    refine ⟨.text _, .list ?_, nofun⟩
    simp only [List.forall_mem_cons]
    exact ⟨.null, .bool true, .int _, nofun⟩
  carries := ⟨_, rfl⟩
  failure := by
    rintro _ ⟨⟩
    exact ⟨.text _, .text _⟩

theorem line_decodes_full : fullRecord.Regular ∧ fullRecord.Dated ∧
    fullRecord.message = .ok (.text "two\nlines") ∧
    ∃ line time exception entries,
      fullRecord.line (.text "r\n1") = .ok line ∧ fullRecord.timestamp = .ok time ∧
      fullRecord.carried = .ok exception ∧ Json.Printed line.toList ∧
      (Json.parse? line).map Json.toValue = some (.map entries) ∧
      fullRecord.Decoded "r\n1" time "two\nlines" exception entries := by
  have dated : fullRecord.Dated := ⟨1000000, rfl, by decide, by decide⟩
  have decodes := line_decodes regular_fullRecord dated "r\n1"
  have said : fullRecord.message = .ok (.text "two\nlines") := decodes.1 (by decide) (by decide)
  exact ⟨regular_fullRecord, dated, said, decodes.2 _ said⟩

/-- A record with an attribute in the place of what makes its message. -/
def obstructedRecord : Record where
  attributes := [("msg", .text "hello"), ("getMessage", .text "x")]

/-- A record with an argument that does not fit its message. -/
def unfitRecord : Record where
  attributes := [("msg", .text "%d"), ("args", .list [.text "x"])]

/-- A record of the first second behind the calendar. -/
def lateRecord : Record where
  attributes := [("msg", .text "hello"), ("created", .int 253402300800)]

theorem records_without_line :
    (obstructedRecord.Regular ∧ ∀ line, obstructedRecord.line (.text "") ≠ .ok line) ∧
      (unfitRecord.Regular ∧ ∀ line, unfitRecord.line (.text "") ≠ .ok line) ∧
      lateRecord.Regular ∧ ∀ line, lateRecord.line (.text "") ≠ .ok line := by
  have fails {record : Record} (h : (record.line (.text "")).toBool = false) (line : String) :
      record.line (.text "") ≠ .ok line := by
    intro made
    rw [made] at h
    cases h
  refine ⟨⟨.of_plain (.map (by decide) ?obstructed) rfl, fails (by decide +kernel)⟩,
    ⟨.of_plain (.map (by decide) ?unfit) rfl, fails (by decide +kernel)⟩,
    .of_plain (.map (by decide) ?late) rfl, fails (by decide +kernel)⟩
  all_goals simp only [List.forall_mem_cons]
  case obstructed => exact ⟨.text _, .text _, nofun⟩
  case unfit => exact ⟨.text _, .list (List.forall_mem_singleton.2 (.text _)), nofun⟩
  case late => exact ⟨.text _, .int _, nofun⟩

end RecordListing.Log.Record
