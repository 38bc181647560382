import Mathlib.Data.List.Pairwise
import RecordListing.Query.Filter
import RecordListing.Proofs.Entries

/-!
# Keys of filter maps

A filter map without nesting has every key once (`nodup_flattenFilters`), and a key that ends in an
operator is known from the field and the operator (`splitKey_eq`). So the terms of a filter map give
a field one lower and one upper bound at most (`boundsOnce_parseFilters`).
-/

set_option autoImplicit false

namespace RecordListing

open Text

theorem nodup_flattenFilters (filters : List (String × Value)) :
    ((flattenFilters filters).map (·.1)).Nodup :=
  nodup_withoutRepeats _

/-! ## Keys -/

theorem cutLast_eq_some {sep : Char} {cs head tail : List Char}
    (h : cutLast sep cs = some (head, tail)) : cs = head ++ sep :: tail := by
  induction cs generalizing head with
  | nil => cases h
  | cons c cs ih =>
    simp only [cutLast] at h
    split at h
    · rename_i parts hp
      cases h
      rw [ih hp, List.cons_append]
    · split at h
      · rename_i hc
        cases h
        rw [hc]
        rfl
      · cases h

theorem Operator.ofToken?_eq_some {token : List Char} {operator : Operator}
    (h : ofToken? token = some operator) : operator.name.toList = token ∧ operator ≠ .eq := by
  refine ⟨by simpa using List.find?_some h, ?_⟩
  rintro rfl
  exact absurd (List.mem_of_find?_eq_some h) (by decide)

/-- A key that ends in an operator is the field, a dot and the name of the operator. -/
theorem splitKey_eq {key : String} (h : (splitKey key).2 ≠ .eq) :
    key.toList = (splitKey key).1.toList ++ '.' :: (splitKey key).2.name.toList := by
  unfold splitKey at h ⊢
  split
  · rename_i head tail hc
    simp only [hc] at h
    split
    · rename_i operator ho
      simp only [ho] at h
      split
      · rename_i he
        simp [he] at h
      · rw [cutLast_eq_some hc, (Operator.ofToken?_eq_some ho).1, String.toList_ofList]
    · rename_i ho
      simp [ho] at h
  · rename_i hc
    simp [hc] at h

theorem cutLast_eq_none {sep : Char} {cs : List Char} (h : sep ∉ cs) : cutLast sep cs = none := by
  induction cs with
  | nil => rfl
  | cons c cs ih =>
    obtain ⟨hc, hcs⟩ := not_or.1 (mt List.mem_cons.2 h)
    simp [cutLast, ih hcs, Ne.symm hc]

theorem cutLast_append {sep : Char} {tail : List Char} (h : sep ∉ tail) (head : List Char) :
    cutLast sep (head ++ sep :: tail) = some (head, tail) := by
  induction head with
  | nil => simp [cutLast, cutLast_eq_none h]
  | cons c head ih => simp [cutLast, ih]

/-- The key of a field with an operator after it. -/
def Operator.key (operator : Operator) (path : String) : String := path ++ "." ++ operator.name

/-- A field with an operator after it is taken apart into the two. -/
theorem splitKey_key {path : String} {operator : Operator} (named : path ≠ "")
    (op : operator ∈ Operator.written) : splitKey (operator.key path) = (path, operator) := by
  obtain ⟨no_dot, found⟩ : '.' ∉ operator.name.toList ∧
      Operator.ofToken? operator.name.toList = some operator := by
    revert operator
    decide
  have chars : (operator.key path).toList = path.toList ++ '.' :: operator.name.toList := by
    simp [Operator.key]
  have filled : path.toList.isEmpty = false := by simpa using named
  simp only [splitKey, chars, cutLast_append no_dot, found, filled, Bool.false_eq_true, if_false,
    String.ofList_toList]

theorem splitKey_injective {a b : String} (ha : (splitKey a).2 ≠ .eq)
    (h : splitKey a = splitKey b) : a = b := by
  have hb : (splitKey b).2 ≠ .eq := h ▸ ha
  rw [← String.toList_inj, splitKey_eq ha, splitKey_eq hb, h]

/-! ## Terms -/

/-- Whether no field has a lower bound twice, nor an upper one. -/
def BoundsOnce (terms : List FilterTerm) : Prop :=
  terms.Pairwise fun a b => a.field = b.field → a.operator = b.operator → a.operator.isBound = false

theorem ofEntry_eq {sentinel : Option String} {key path : String} {operator : Operator}
    {value : Value} (parts : splitKey key = (path, operator))
    (plain : isSentinel sentinel value = false) :
    FilterTerm.ofEntry sentinel key value = ⟨path, operator, value⟩ := by
  simp [FilterTerm.ofEntry, parts, plain]

theorem ofEntry_bound {sentinel : Option String} {key : String} {value : Value}
    (h : (FilterTerm.ofEntry sentinel key value).operator.isBound = true) :
    FilterTerm.ofEntry sentinel key value = ⟨(splitKey key).1, (splitKey key).2, value⟩ := by
  simp only [FilterTerm.ofEntry] at h ⊢
  split at h
  · cases h
  · rename_i hs
    simp [hs]

theorem boundsOnce_parseFilters (sentinel : Option String) (filters : List (String × Value)) :
    BoundsOnce (parseFilters sentinel filters) := by
  refine List.Pairwise.filter _ (List.pairwise_map.2 ?_)
  have apart := List.pairwise_map.1 (nodup_flattenFilters filters)
  refine apart.imp fun {a b} ne fields operators => ?_
  by_contra bound
  rw [Bool.not_eq_false] at bound
  have ha := ofEntry_bound bound
  have hb := ofEntry_bound (operators ▸ bound)
  rw [ha] at bound
  rw [ha, hb] at fields operators
  refine ne (splitKey_injective (fun e => ?_) (Prod.ext fields operators))
  rw [e] at bound
  cases bound

/-- A bound stands beside no other term with its operator on its field. -/
theorem BoundsOnce.alone {before after : List FilterTerm} {term : FilterTerm}
    (h : BoundsOnce (before ++ term :: after)) (bound : term.operator.isBound = true) :
    ∀ other ∈ before ++ after, other.field = term.field → other.operator ≠ term.operator := by
  obtain ⟨-, later, earlier⟩ := List.pairwise_append.1 h
  obtain ⟨later, -⟩ := List.pairwise_cons.1 later
  intro other ho field operator
  rcases List.mem_append.1 ho with ho | ho
  · have apart := earlier other ho term List.mem_cons_self field operator
    rw [operator, bound] at apart
    cases apart
  · have apart := later other ho field.symm operator.symm
    rw [bound] at apart
    cases apart

/-- Another term with the bound of a term is the term itself. -/
theorem BoundsOnce.eq {terms : List FilterTerm} (h : BoundsOnce terms) {a b : FilterTerm}
    (ha : a ∈ terms) (hb : b ∈ terms) (field : a.field = b.field)
    (operator : a.operator = b.operator) (bound : a.operator.isBound = true) : a = b := by
  have symm : Std.Symm fun a b : FilterTerm =>
      a.field = b.field → a.operator = b.operator → a.operator.isBound = false :=
    ⟨fun _ _ h f o => o ▸ h f.symm o.symm⟩
  by_contra ne
  have apart := List.Pairwise.forall h ha hb ne field operator
  rw [bound] at apart
  cases apart

end RecordListing
