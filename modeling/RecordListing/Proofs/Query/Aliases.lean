import Mathlib.Data.List.Infix
import RecordListing.Query.JoinPlan

/-!
# Aliases

The alias of a run of relations is the name of the root with each relation after it, two underscores
in front. Where no relation has two underscores in a row, or one at its end, an alias can be taken
apart again, so that different runs have different aliases (`aliasOf_injective`).
-/

set_option autoImplicit false

namespace RecordListing

open Text

/-- Whether a name has no two underscores in a row and none at its end. Two underscores that follow
it in an alias then begin right where it ends. -/
structure IsPlainName (name : String) : Prop where
  inside : ¬ ['_', '_'] <:+: name.toList
  ending : ¬ ['_'] <:+ name.toList

instance (name : String) : Decidable (IsPlainName name) :=
  decidable_of_iff (¬ ['_', '_'] <:+: name.toList ∧ ¬ ['_'] <:+ name.toList)
    ⟨fun h => ⟨h.1, h.2⟩, fun h => ⟨h.inside, h.ending⟩⟩

theorem joined_eq_intercalate (sep : String) (segments : List String) :
    joined sep segments = sep.intercalate segments := by
  induction segments with
  | nil => rfl
  | cons segment rest ih =>
    cases rest with
    | nil => simp [joined]
    | cons next rest => simp [joined, ih, String.intercalate_cons_cons]

/-- What names add to an alias. -/
def aliasChars (names : List String) : List Char :=
  names.flatMap fun name => '_' :: '_' :: name.toList

theorem toList_aliasOf (root : Entity) (hops : List String) :
    (aliasOf root hops).toList = root.name.toList ++ aliasChars hops := by
  have joined_cons (name : String) :
      (joined "__" (name :: hops)).toList = name.toList ++ aliasChars hops := by
    induction hops generalizing name with
    | nil => simp [joined, aliasChars]
    | cons hop hops ih => simp [joined, ih, aliasChars]
  exact joined_cons root.name

/-- No name goes on where another one, with more names behind it, ends. -/
theorem IsPlainName.eq_nil {name : String} {front rest : List Char} {names : List String}
    (plain : IsPlainName name) (h : name.toList = front ++ rest) {back : List Char}
    (split : aliasChars names = rest ++ back) : rest = [] := by
  cases names with
  | nil => exact (List.append_eq_nil_iff.1 split.symm).1
  | cons other names =>
    have begins : aliasChars (other :: names) =
        '_' :: '_' :: (other.toList ++ aliasChars names) := rfl
    rw [begins] at split
    match rest with
    | [] => rfl
    | [c] =>
      have first : '_' = c := (List.cons.inj split).1
      exact absurd ⟨front, by rw [h, first]⟩ plain.ending
    | c :: d :: rest =>
      have first : '_' = c := (List.cons.inj split).1
      have second : '_' = d := (List.cons.inj (List.cons.inj split).2).1
      exact absurd ⟨front, rest, by simp [h, ← first, ← second]⟩ plain.inside

theorem aliasChars_injective {names others : List String} (plain : ∀ name ∈ names, IsPlainName name)
    (plain' : ∀ name ∈ others, IsPlainName name) (h : aliasChars names = aliasChars others) :
    names = others := by
  induction names generalizing others with
  | nil =>
    cases others with
    | nil => rfl
    | cons other others => cases h
  | cons name names ih =>
    cases others with
    | nil => cases h
    | cons other others =>
      obtain ⟨first, rest⟩ := List.forall_mem_cons.1 plain
      obtain ⟨first', rest'⟩ := List.forall_mem_cons.1 plain'
      have split : name.toList ++ aliasChars names = other.toList ++ aliasChars others :=
        (List.cons.inj (List.cons.inj h).2).2
      have same : name.toList = other.toList := by
        rcases List.append_eq_append_iff.1 split with ⟨more, own, back⟩ | ⟨more, own, back⟩
        · rw [own, first'.eq_nil own back, List.append_nil]
        · rw [own, first.eq_nil own back, List.append_nil]
      rw [same] at split
      rw [String.toList_inj.1 same, ih rest rest' (List.append_cancel_left split)]

/-- Runs of plainly named relations that have the same alias are the same. -/
theorem aliasOf_injective {root : Entity} {hops others : List String}
    (plain : ∀ hop ∈ hops, IsPlainName hop) (plain' : ∀ hop ∈ others, IsPlainName hop)
    (h : aliasOf root hops = aliasOf root others) : hops = others := by
  rw [← String.toList_inj, toList_aliasOf, toList_aliasOf] at h
  exact aliasChars_injective plain plain' (List.append_cancel_left h)

end RecordListing
