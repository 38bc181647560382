import RecordListing.Proofs.Web.Nesting
import RecordListing.Proofs.Web.Signs

/-!
# What redaction shows

In production the details of an error keep their shape: every map keeps its keys, and what is
reached through maps is as it was, a text with a sign of the inside excepted
(`shownDetails_redacts`). Keys and what is in a list are never looked at, and a query that runs over
several lines is no sign. So the words of a query are left in what is shown exactly where they stand
in one of these (`shownDetails_free_iff`).
-/

set_option autoImplicit false

namespace RecordListing

open Text

/-! ## Values -/

/-- The text that a value is. A member of an enumeration is its text. -/
def Value.string? : Value → Option String
  | .text s => some s
  | .member m => some m.value
  | _ => none

/-- The keys of a map, in their order. -/
def Value.keys? : Value → Option (List String)
  | .map entries => some (entries.map (·.1))
  | _ => none

theorem not_sensitive_redacted : isSensitive "[REDACTED]" = false := by decide +kernel

section
variable {value : Value} {entries : List (String × Value)} {s : String}

theorem redactValue_string (h : value.string? = some s) :
    redactValue value = if isSensitive s then redacted else value := by
  cases value <;> cases h <;> rfl

theorem redactValue_other (string : value.string? = none) (keys : value.keys? = none) :
    redactValue value = value := by
  cases value with
  | text s => cases string
  | member m => cases string
  | map entries => cases keys
  | _ => rfl

/-- A text that has been redacted stays as it is. -/
theorem redactValue_string_twice (h : value.string? = some s) :
    redactValue (redactValue value) = redactValue value := by
  rw [redactValue_string h]
  split
  · rw [redacted, redactValue_string rfl, not_sensitive_redacted]
    rfl
  · rename_i plain
    rw [redactValue_string h, if_neg plain]

theorem redactEntries_eq_map :
    redactEntries entries = entries.map fun entry => (entry.1, redactValue entry.2) := by
  induction entries with
  | nil => rfl
  | cons entry entries ih => rw [redactEntries, ih, List.map_cons]

theorem mem_redactEntries {key : String} {shown : Value} :
    (key, shown) ∈ redactEntries entries ↔
      ∃ value, (key, value) ∈ entries ∧ redactValue value = shown := by
  simp only [redactEntries_eq_map, List.mem_map, Prod.exists, Prod.mk.injEq]
  constructor
  · rintro ⟨_, value, hm, rfl, rfl⟩
    exact ⟨value, hm, rfl⟩
  · rintro ⟨value, hm, rfl⟩
    exact ⟨key, value, hm, rfl, rfl⟩

theorem lookup_redactEntries (key : String) :
    (redactEntries entries).lookup key = (entries.lookup key).map redactValue := by
  induction entries with
  | nil => rfl
  | cons entry entries ih =>
    obtain ⟨name, value⟩ := entry
    rw [redactEntries, lookup_cons_eq_ite, lookup_cons_eq_ite, ih]
    split <;> rfl

theorem innerEntries_redact (held : Option Value) :
    innerEntries (held.map redactValue) = redactEntries (innerEntries held) := by
  cases held with
  | none => rfl
  | some value =>
    rw [Option.map_some]
    cases value with
    | text s =>
      rw [redactValue]
      split <;> rfl
    | member m =>
      rw [redactValue]
      split <;> rfl
    | _ => rfl

theorem keys?_redactValue : (redactValue value).keys? = value.keys? := by
  cases value with
  | text s =>
    rw [redactValue]
    split <;> rfl
  | member m =>
    rw [redactValue]
    split <;> rfl
  | map entries =>
    rw [redactValue, Value.keys?, redactEntries_eq_map, List.map_map]
    rfl
  | _ => rfl

end

/-- What nested keys lead to is redacted. -/
theorem valueAt?_redactEntries (path : List String) (entries : List (String × Value)) :
    valueAt? path (redactEntries entries) = (valueAt? path entries).map redactValue := by
  induction path generalizing entries with
  | nil => rfl
  | cons part rest ih =>
    cases rest with
    | nil => exact lookup_redactEntries part
    | cons next rest =>
      rw [valueAt?_cons (List.cons_ne_nil next rest), valueAt?_cons (List.cons_ne_nil next rest),
        lookup_redactEntries, innerEntries_redact, ih]

mutual

/-- What has been redacted stays as it is. -/
theorem redactValue_twice : ∀ value, redactValue (redactValue value) = redactValue value
  | .text _ => redactValue_string_twice rfl
  | .member _ => redactValue_string_twice rfl
  | .map entries => by
    rw [redactValue, redactValue, redactEntries_twice entries]
  | .null | .bool _ | .int _ | .float _ | .decimal _ | .special _ | .uuid _ | .date _
  | .datetime _ | .list _ => rfl

theorem redactEntries_twice :
    ∀ entries, redactEntries (redactEntries entries) = redactEntries entries
  | [] => rfl
  | (key, value) :: entries => by
    rw [redactEntries, redactEntries, redactValue_twice value, redactEntries_twice entries]

end

theorem shownDetails_map (entries : List (String × Value)) :
    shownDetails true (.map entries) = .ok (.map (redactEntries entries)) := rfl

/-- In production the details are shown with the keys that they have, level by level. What nested
keys lead to is shown as it is, but for a text in which a sign of the inside occurs. Redacting a
second time changes nothing. Elsewhere details are shown as they are. -/
theorem shownDetails_redacts (entries : List (String × Value)) :
    ∃ shown, shownDetails true (.map entries) = .ok (.map shown) ∧
      shown.map (·.1) = entries.map (·.1) ∧
      (∀ path, (valueAt? path shown).bind Value.keys? = (valueAt? path entries).bind Value.keys?) ∧
      (∀ path value, valueAt? path entries = some value →
        (∀ s, value.string? = some s →
          (ShowsInside s → valueAt? path shown = some (.text "[REDACTED]")) ∧
          (¬ ShowsInside s → valueAt? path shown = some value)) ∧
        (value.string? = none → value.keys? = none → valueAt? path shown = some value)) ∧
      shownDetails true (.map shown) = .ok (.map shown) ∧
      ∀ details, shownDetails false details = .ok details := by
  refine ⟨redactEntries entries, rfl, ?_, fun path => ?_,
    fun path value held => ⟨fun s string => ?_, fun string keys => ?_⟩, ?_, fun _ => rfl⟩
  · rw [redactEntries_eq_map, List.map_map]
    rfl
  · rw [valueAt?_redactEntries, Option.bind_map]
    exact Option.bind_congr fun value _ => keys?_redactValue
  · rw [valueAt?_redactEntries, held, Option.map_some, redactValue_string string,
      ← isSensitive_iff]
    exact ⟨fun sensitive => by rw [if_pos sensitive]; rfl, fun plain => by rw [if_neg plain]⟩
  · rw [valueAt?_redactEntries, held, Option.map_some, redactValue_other string keys]
  · rw [shownDetails_map, redactEntries_twice]

/-! ## Queries that are left -/

/-- `SELECT`, and later in the text `FROM`. -/
def queryWords : Language Char :=
  spelled ['s', 'e', 'l', 'e', 'c', 't'] * many (fun _ => true) * spelled ['f', 'r', 'o', 'm']

/-- Whether a text stands anywhere in a value: as the value, in a list, as a key or under one. -/
inductive Value.Mentions : Value → String → Prop
  | string {value : Value} {s : String} (h : value.string? = some s) : Mentions value s
  | item {items : List Value} {item : Value} {s : String} (h : item ∈ items)
      (inside : Mentions item s) : Mentions (.list items) s
  | key {entries : List (String × Value)} {key : String} {value : Value}
      (h : (key, value) ∈ entries) : Mentions (.map entries) key
  | entry {entries : List (String × Value)} {key s : String} {value : Value}
      (h : (key, value) ∈ entries) (inside : Mentions value s) : Mentions (.map entries) s

/-- Whether a text is reached through maps only. -/
inductive Value.Reaches : Value → String → Prop
  | string {value : Value} {s : String} (h : value.string? = some s) : Reaches value s
  | entry {entries : List (String × Value)} {key s : String} {value : Value}
      (h : (key, value) ∈ entries) (inside : Reaches value s) : Reaches (.map entries) s

/-- Whether a text is a key or stands in a list. -/
inductive Value.Carries : Value → String → Prop
  | item {items : List Value} {item : Value} {s : String} (h : item ∈ items)
      (inside : item.Mentions s) : Carries (.list items) s
  | key {entries : List (String × Value)} {key : String} {value : Value}
      (h : (key, value) ∈ entries) : Carries (.map entries) key
  | entry {entries : List (String × Value)} {key s : String} {value : Value}
      (h : (key, value) ∈ entries) (inside : Carries value s) : Carries (.map entries) s

section
variable {value : Value} {entries : List (String × Value)} {s : String}

theorem mentions_iff : value.Mentions s ↔ value.Reaches s ∨ value.Carries s := by
  constructor
  · intro h
    induction h with
    | string h => exact .inl (.string h)
    | item h inside _ => exact .inr (.item h inside)
    | key h => exact .inr (.key h)
    | entry h _ ih => exact ih.imp (.entry h) (.entry h)
  · rintro (h | h)
    · induction h with
      | string h => exact .string h
      | entry h _ ih => exact .entry h ih
    · induction h with
      | item h inside => exact .item h inside
      | key h => exact .key h
      | entry h _ ih => exact .entry h ih

theorem string?_redactValue :
    (redactValue value).string? =
      value.string?.map fun t => if isSensitive t then "[REDACTED]" else t := by
  cases value with
  | text t =>
    rw [redactValue_string rfl]
    split <;> simp_all [Value.string?, redacted]
  | member m =>
    rw [redactValue_string rfl]
    split <;> simp_all [Value.string?, redacted]
  | _ => rfl

/-- A value that is a map after redaction was one before. -/
theorem redactValue_eq_map {shown : List (String × Value)} (h : redactValue value = .map shown) :
    ∃ entries, value = .map entries ∧ shown = redactEntries entries := by
  cases value with
  | map entries =>
    cases h
    exact ⟨entries, rfl, rfl⟩
  | text s =>
    rw [redactValue] at h
    split at h <;> cases h
  | member m =>
    rw [redactValue] at h
    split at h <;> cases h
  | _ => cases h

/-- A value that is a list after redaction was that list before. -/
theorem redactValue_eq_list {items : List Value} (h : redactValue value = .list items) :
    value = .list items := by
  cases value with
  | map entries => cases h
  | text s =>
    rw [redactValue] at h
    split at h <;> cases h
  | member m =>
    rw [redactValue] at h
    split at h <;> cases h
  | _ => exact h

/-- What is reached after redaction is what was reached before, redacted. -/
theorem reaches_redactValue :
    (redactValue value).Reaches s ↔
      ∃ t, value.Reaches t ∧ s = if isSensitive t then "[REDACTED]" else t := by
  constructor
  · generalize hv : redactValue value = shown
    intro h
    induction h generalizing value with
    | @string shown s h =>
      rw [← hv, string?_redactValue] at h
      obtain ⟨t, string, rfl⟩ := Option.map_eq_some_iff.1 h
      exact ⟨t, .string string, rfl⟩
    | @entry shown key s inner h _ ih =>
      obtain ⟨entries, rfl, rfl⟩ := redactValue_eq_map hv
      obtain ⟨value, hm, same⟩ := mem_redactEntries.1 h
      obtain ⟨t, reached, shown⟩ := ih same
      exact ⟨t, .entry hm reached, shown⟩
  · rintro ⟨t, h, rfl⟩
    induction h with
    | @string value t h =>
      rw [redactValue_string h]
      split
      · exact .string rfl
      · exact .string h
    | @entry entries key t value h _ ih => exact .entry (mem_redactEntries.2 ⟨value, h, rfl⟩) ih

/-- Keys and what is in lists are the same after redaction. -/
theorem carries_redactValue : (redactValue value).Carries s ↔ value.Carries s := by
  constructor
  · generalize hv : redactValue value = shown
    intro h
    induction h generalizing value with
    | item h inside =>
      rw [redactValue_eq_list hv]
      exact .item h inside
    | key h =>
      obtain ⟨entries, rfl, rfl⟩ := redactValue_eq_map hv
      obtain ⟨value, hm, -⟩ := mem_redactEntries.1 h
      exact .key hm
    | entry h _ ih =>
      obtain ⟨entries, rfl, rfl⟩ := redactValue_eq_map hv
      obtain ⟨value, hm, same⟩ := mem_redactEntries.1 h
      exact .entry hm (ih same)
  · intro h
    induction h with
    | item h inside => exact .item h inside
    | @key entries key value h => exact .key (mem_redactEntries.2 ⟨value, h, rfl⟩)
    | @entry entries key s value h _ ih => exact .entry (mem_redactEntries.2 ⟨value, h, rfl⟩) ih

theorem exists_s_of_queryWords (h : OccursIn queryWords s) :
    ∃ c ∈ s.toList, c.toLower = 's' ∨ c = 'ſ' := by
  obtain ⟨part, hp, inside⟩ := h
  obtain ⟨_, ⟨front, spells, gap, -, rfl⟩, last, -, rfl⟩ := Language.mem_mul.1 hp
  cases spells with
  | @cons _ c _ cs first _ =>
    exact ⟨c, inside.subset (by simp), first.imp_right And.right⟩

/-- The words of a query on one line are words of a query. -/
theorem queryWords_of_lineQuery (h : OccursIn lineQuery s) : OccursIn queryWords s := by
  refine h.mono fun part hp => ?_
  obtain ⟨front, ⟨first, hf, gap, hg, rfl⟩, last, hl, rfl⟩ := Language.mem_mul.1 hp
  exact Language.mem_mul.2
    ⟨_, Language.mem_mul.2 ⟨first, hf, gap, mem_many_iff.2 fun _ _ => rfl, rfl⟩, last, hl, rfl⟩

end

/-- What is shown in production has no query on one line in a text that is reached through maps
only. The words of a query are nowhere in it, on one line or on several, exactly if they are in no
key and in no list of the details, and where they are in another text a sign of the inside occurs in
it. -/
theorem shownDetails_free_iff (entries : List (String × Value)) :
    ∃ shown, shownDetails true (.map entries) = .ok (.map shown) ∧
      (∀ s, (Value.map shown).Reaches s → ¬ OccursIn lineQuery s) ∧
      ((∀ s, (Value.map shown).Mentions s → ¬ OccursIn queryWords s) ↔
        (∀ s, (Value.map entries).Carries s → ¬ OccursIn queryWords s) ∧
          ∀ s, (Value.map entries).Reaches s → OccursIn queryWords s → ShowsInside s) := by
  have whole : Value.map (redactEntries entries) = redactValue (.map entries) := rfl
  have words_redacted : ¬ OccursIn queryWords "[REDACTED]" := by
    intro words
    obtain ⟨c, hc, letter⟩ := exists_s_of_queryWords words
    have none_there : "[REDACTED]".toList.all (fun c => c.toLower != 's' && c != 'ſ') = true := by
      decide +kernel
    have other := List.all_eq_true.1 none_there c hc
    rw [Bool.and_eq_true, bne_iff_ne, bne_iff_ne] at other
    exact letter.elim other.1 other.2
  refine ⟨redactEntries entries, rfl, fun s reached line => ?_, ?_⟩
  · rw [whole, reaches_redactValue] at reached
    obtain ⟨t, -, rfl⟩ := reached
    split at line
    · exact words_redacted (queryWords_of_lineQuery line)
    · rename_i plain
      exact plain (isSensitive_iff.2 ⟨lineQuery, by simp [insideSigns], line⟩)
  · simp only [whole, mentions_iff, reaches_redactValue, carries_redactValue]
    constructor
    · intro free
      refine ⟨fun s carried => free s (.inr carried), fun s reached words => ?_⟩
      rw [← isSensitive_iff]
      by_contra plain
      exact free s (.inl ⟨s, reached, by rw [if_neg plain]⟩) words
    · rintro ⟨carried_free, reached_shows⟩ s (⟨t, reached, rfl⟩ | carried) words
      · split at words
        · exact words_redacted words
        · rename_i plain
          exact plain (isSensitive_iff.2 (reached_shows t reached words))
      · exact carried_free s carried words

/-- A query that runs over two lines is shown. -/
theorem broken_query_shown :
    let details : Value := .map [("sql", .text "SELECT a \nFROM b")]
    shownDetails true details = .ok details ∧
      details.Mentions "SELECT a \nFROM b" ∧ OccursIn queryWords "SELECT a \nFROM b" := by
  have plain : isSensitive "SELECT a \nFROM b" = false := by decide +kernel
  refine ⟨?_, .entry (List.mem_singleton.2 rfl) (.string rfl), ?_⟩
  · rw [shownDetails_map, redactEntries, redactValue_string rfl, plain]
    rfl
  · exact ⟨"SELECT a \nFROM".toList, Language.mem_mul.2
      ⟨_, Language.mem_mul.2 ⟨_, mem_spelled_toLower "SELECT".toList, " a \n".toList,
        mem_many_iff.2 fun _ _ => rfl, rfl⟩, _, mem_spelled_toLower "FROM".toList, rfl⟩,
      [], " b".toList, rfl⟩

end RecordListing
