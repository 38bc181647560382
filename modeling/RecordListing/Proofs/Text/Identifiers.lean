import Mathlib.Algebra.Group.Nat.Defs
import RecordListing.Uuid
import RecordListing.Proofs.Outcome
import RecordListing.Proofs.Text.Pieces

/-!
# Written identifiers

A number of as many hexadecimal digits as it is written with is read back from them
(`readHexDigits?_hexDigits`), and so is an identifier from its text (`Uuid.read?_text`).
-/

set_option autoImplicit false

namespace RecordListing

open Text Outcome

/-! ## Hexadecimal digits -/

theorem length_hexDigits (width n : Nat) : (hexDigits width n).length = width := by
  induction width generalizing n with
  | zero => rfl
  | succ width ih => simp [hexDigits, ih]

/-- What holds of every hexadecimal digit holds of the digits of a number. -/
theorem forall_mem_hexDigits {p : Char → Prop} (h : ∀ d : Fin 16, p (hexDigit d)) (width n : Nat) :
    ∀ c ∈ hexDigits width n, p c := by
  induction width generalizing n with
  | zero => exact nofun
  | succ width ih =>
    rw [hexDigits, List.forall_mem_append, List.forall_mem_singleton]
    exact ⟨ih (n / 16), h ⟨n % 16, Nat.mod_lt _ (by decide)⟩⟩

theorem hexValue?_hexDigit : ∀ d : Fin 16, hexValue? (hexDigit d) = some d.1 := by
  decide

/-- The digits of a number have it as their value. -/
theorem hexDigits_values {width n : Nat} (h : n < 16 ^ width) :
    ∃ values, (hexDigits width n).mapM hexValue? = some values ∧
      values.foldl (fun n d => n * 16 + d) 0 = n := by
  induction width generalizing n with
  | zero =>
    rw [Nat.pow_zero, Nat.lt_one_iff] at h
    subst h
    exact ⟨[], rfl, rfl⟩
  | succ width ih =>
    obtain ⟨values, read, value⟩ := ih (show n / 16 < 16 ^ width by
      exact Nat.div_lt_of_lt_mul (by rwa [Nat.pow_succ'] at h))
    have last : hexValue? (hexDigit (n % 16)) = some (n % 16) :=
      hexValue?_hexDigit ⟨n % 16, Nat.mod_lt _ (by decide)⟩
    refine ⟨values ++ [n % 16], by simp [hexDigits, List.mapM_append, read, last], ?_⟩
    rw [List.foldl_append, value, List.foldl_cons, List.foldl_nil]
    omega

/-- Hexadecimal digits are read back as the number that they were made of. -/
theorem readHexDigits?_hexDigits {width n : Nat} (some_digit : 0 < width) (h : n < 16 ^ width) :
    readHexDigits? (hexDigits width n) = some n := by
  obtain ⟨values, read, value⟩ := hexDigits_values h
  have plain : ∀ c ∈ hexDigits width n, c ≠ '_' := forall_mem_hexDigits (by decide) width n
  have unmarked : '_' ∉ hexDigits width n := fun hm => plain _ hm rfl
  have filled : hexDigits width n ≠ [] := by
    rw [← List.length_pos_iff, length_hexDigits]
    exact some_digit
  simp [readHexDigits?, cutAt_eq_singleton unmarked, filled, read, value]

/-! ## Identifiers -/

namespace Uuid

variable (id : Uuid)

theorem text_toList : id.text.toList =
    id.compactChars.take 8 ++ '-' :: ((id.compactChars.drop 8).take 4 ++
      '-' :: ((id.compactChars.drop 12).take 4 ++ '-' :: ((id.compactChars.drop 16).take 4 ++
        '-' :: id.compactChars.drop 20))) := by
  simp [text]

/-- What holds of hexadecimal digits and of hyphens holds of the text of an identifier. -/
theorem forall_mem_text {p : Char → Prop} (digit : ∀ d : Fin 16, p (hexDigit d)) (hyphen : p '-') :
    ∀ c ∈ id.text.toList, p c := by
  have digits : ∀ c ∈ id.compactChars, p c := forall_mem_hexDigits digit 32 id.bits.toNat
  have taken (skip count : Nat) : ∀ c ∈ (id.compactChars.drop skip).take count, p c :=
    fun c hc => digits c (List.mem_of_mem_drop (List.mem_of_mem_take hc))
  rw [text_toList]
  simp only [List.forall_mem_append, List.forall_mem_cons]
  exact ⟨taken 0 8, hyphen, taken 8 4, hyphen, taken 12 4, hyphen, taken 16 4, hyphen,
    fun c hc => digits c (List.mem_of_mem_drop hc)⟩

theorem trimmed_text : trimmed id.text.toList = id.text.toList :=
  stripped_eq_self (id.forall_mem_text (by decide +kernel) (by decide +kernel))

/-- Without the hyphens there is nothing left but the digits. -/
theorem filter_text : id.text.toList.filter (· != '-') = id.compactChars := by
  have digits : ∀ c ∈ id.compactChars, (c != '-') = true :=
    forall_mem_hexDigits (by decide) 32 id.bits.toNat
  have kept (skip : Nat) {cs : List Char} (part : cs ⊆ id.compactChars.drop skip) :
      cs.filter (· != '-') = cs :=
    List.filter_eq_self.2 fun c hc => digits c (List.mem_of_mem_drop (part hc))
  have cut (skip count : Nat) (rest : List Char) :
      ((id.compactChars.drop skip).take count ++ '-' :: rest).filter (· != '-') =
        (id.compactChars.drop skip).take count ++ rest.filter (· != '-') := by
    rw [List.filter_append, kept skip (List.take_subset _ _)]
    rfl
  have join (skip count : Nat) : (id.compactChars.drop skip).take count ++
      id.compactChars.drop (skip + count) = id.compactChars.drop skip := by
    rw [← List.drop_drop, List.take_append_drop]
  rw [text_toList]
  refine (cut 0 8 _).trans ?_
  rw [cut 8 4, cut 12 4, cut 16 4, kept 20 (List.Subset.refl _), join 16 4, join 12 4, join 8 4]
  exact join 0 8

/-- The text of an identifier has nothing to leave out but hyphens. -/
theorem essence_text : essence id.text.toList = id.compactChars := by
  have other : ∀ c ∈ id.text.toList, c ≠ 'u' := id.forall_mem_text (by decide) (by decide)
  have no_scheme : 'u' ∉ id.text.toList := fun hm => other _ hm rfl
  have no_brace : stripped isBrace id.text.toList = id.text.toList :=
    stripped_eq_self (id.forall_mem_text (by decide) (by decide))
  have bare : without "uuid:".toList (without "urn:".toList id.text.toList) = id.text.toList := by
    have urn : without "urn:".toList id.text.toList = id.text.toList := without_eq_self no_scheme
    rw [urn]
    exact without_eq_self no_scheme
  simp only [essence, bare]
  rw [← stripped, no_brace, filter_text]

/-- The text of an identifier is read back as the identifier. -/
theorem read?_text : read? id.text.toList = some id := by
  have digit {p : Char → Prop} (h : ∀ d : Fin 16, p (hexDigit d)) : ∀ c ∈ id.compactChars, p c :=
    forall_mem_hexDigits h 32 id.bits.toNat
  have bare : stripped isSpace id.compactChars = id.compactChars :=
    stripped_eq_self (digit (by decide +kernel))
  have other : ∀ c ∈ id.compactChars, c ≠ '+' ∧ c ≠ 'x' ∧ c ≠ 'X' := digit (by decide)
  have no_plus : withoutPlus id.compactChars = id.compactChars := by
    unfold withoutPlus
    split
    · rename_i chars
      exact absurd rfl (other '+' (by simp [chars])).1
    · rfl
  have no_mark : withoutHexMark id.compactChars = id.compactChars := by
    unfold withoutHexMark
    split
    · rename_i chars
      exact absurd rfl (other 'x' (by simp [chars])).2.1
    · rename_i chars
      exact absurd rfl (other 'X' (by simp [chars])).2.2
    · rename_i chars
      exact absurd rfl (other 'x' (by simp [chars])).2.1
    · rename_i chars
      exact absurd rfl (other 'X' (by simp [chars])).2.2
    · rfl
  have length : id.compactChars.length = 32 := length_hexDigits 32 _
  have number : readHexDigits? id.compactChars = some id.bits.toNat :=
    readHexDigits?_hexDigits (by decide) id.bits.isLt
  simp only [read?, essence_text, if_pos length, bare, no_plus, no_mark, number, Option.map_some,
    ofNumber, BitVec.ofNat_toNat]
  rfl

end Uuid

end RecordListing
