import RecordListing.Json.OfValue
import RecordListing.Proofs.Json.Documents

/-!
# Plain values

A value made of nothing but absence, truth values, whole numbers, texts, lists and maps is its
document: the document is plain (`plain_ofValue`) and holds the value (`toValue_ofValue`). With
`Json.parse?_encode` the value is what is read from its written document.
-/

set_option autoImplicit false

namespace RecordListing

/-- Whether JSON has a form of its own for all of a value, and every map in it has each key once. -/
inductive Value.IsPlain : Value → Prop
  | null : IsPlain .null
  | bool (b : Bool) : IsPlain (.bool b)
  | int (n : Int) : IsPlain (.int n)
  | text (s : String) : IsPlain (.text s)
  | list {items : List Value} (each : ∀ item ∈ items, IsPlain item) : IsPlain (.list items)
  | map {entries : List (String × Value)} (distinct : (entries.map (·.1)).Nodup)
      (each : ∀ entry ∈ entries, IsPlain entry.2) : IsPlain (.map entries)

namespace Json

theorem ofItems_eq_map (items : List Value) : ofItems items = items.map ofValue := by
  induction items with
  | nil => rfl
  | cons item items ih => rw [ofItems, ih, List.map_cons]

theorem ofEntries_eq_map (entries : List (String × Value)) :
    ofEntries entries = entries.map fun entry => (entry.1, ofValue entry.2) := by
  induction entries with
  | nil => rfl
  | cons entry entries ih => rw [ofEntries, ih, List.map_cons]

theorem itemValues_eq_map (items : List Json) : itemValues items = items.map toValue := by
  induction items with
  | nil => rfl
  | cons item items ih => rw [itemValues, ih, List.map_cons]

theorem memberValues_eq_map (members : List (String × Json)) :
    memberValues members = members.map fun member => (member.1, toValue member.2) := by
  induction members with
  | nil => rfl
  | cons member members ih => rw [memberValues, ih, List.map_cons]

theorem keys_memberValues (members : List (String × Json)) :
    (memberValues members).map (·.1) = members.map (·.1) := by
  rw [memberValues_eq_map, List.map_map]
  rfl

theorem mem_memberValues {members : List (String × Json)} {key : String} {j : Json}
    (h : (key, j) ∈ members) : (key, j.toValue) ∈ memberValues members := by
  rw [memberValues_eq_map]
  exact List.mem_map_of_mem h

theorem keys_ofEntries (entries : List (String × Value)) :
    (ofEntries entries).map (·.1) = entries.map (·.1) := by
  rw [ofEntries_eq_map, List.map_map]
  rfl

/-- The document of a plain value is plain. -/
theorem plain_ofValue {value : Value} (plain : value.IsPlain) : (ofValue value).IsPlain := by
  induction plain with
  | null => exact .null
  | bool b => exact .bool b
  | int n => exact .int n
  | text s => exact .text s
  | list each ih =>
    rw [ofValue, ofItems_eq_map]
    exact .array (List.forall_mem_map.2 ih)
  | @map entries distinct each ih =>
    rw [ofValue]
    refine .object (by rwa [keys_ofEntries]) ?_
    rw [ofEntries_eq_map]
    exact List.forall_mem_map.2 ih

/-- The document of a plain value holds the value. -/
theorem toValue_ofValue {value : Value} (plain : value.IsPlain) :
    toValue (ofValue value) = value := by
  induction plain with
  | null => rfl
  | bool b => rfl
  | int n => rfl
  | text s => rfl
  | @list items each ih =>
    rw [ofValue, toValue, ofItems_eq_map, itemValues_eq_map, List.map_map]
    exact congrArg Value.list ((List.map_congr_left ih).trans (List.map_id items))
  | @map entries distinct each ih =>
    rw [ofValue, toValue, ofEntries_eq_map, memberValues_eq_map, List.map_map]
    have same : ∀ entry ∈ entries, (entry.1, toValue (ofValue entry.2)) = entry :=
      fun entry h => by rw [ih entry h]
    exact congrArg Value.map ((List.map_congr_left same).trans (List.map_id entries))

end Json

end RecordListing
