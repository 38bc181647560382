import RecordListing.Json.Reader
import RecordListing.Proofs.Text.Identifiers

/-!
# Written strings

A string is written with visible characters of ASCII and blanks alone (`printed_stringChars`), and
is read back from its code units, whatever characters it has (`readString?_written`). A character
beyond the basic plane is written as two units, which are put together again.
-/

set_option autoImplicit false

namespace RecordListing.Json

open RecordListing.Text RecordListing.Outcome

/-- Whether all characters are visible ones of ASCII, or blanks between them: there is no line break
among them. -/
def Printed (cs : List Char) : Prop := ∀ c ∈ cs, 0x20 ≤ c.toNat ∧ c.toNat ≤ 0x7E

instance (cs : List Char) : Decidable (Printed cs) := List.decidableBAll _ cs

theorem Printed.append {cs ds : List Char} (h : Printed cs) (h' : Printed ds) :
    Printed (cs ++ ds) := List.forall_mem_append.2 ⟨h, h'⟩

theorem Printed.cons {c : Char} {cs : List Char} (h : 0x20 ≤ c.toNat ∧ c.toNat ≤ 0x7E)
    (h' : Printed cs) : Printed (c :: cs) := List.forall_mem_cons.2 ⟨h, h'⟩

/-! ## Code units -/

/-- The code units of a character. -/
def charUnits (c : Char) : List Nat :=
  if c.toNat < 0x10000 then [c.toNat]
  else [0xD800 + (c.toNat - 0x10000) / 0x400, 0xDC00 + (c.toNat - 0x10000) % 0x400]

theorem not_surrogate (c : Char) : c.toNat < 0xD800 ∨ 0xDFFF < c.toNat ∧ c.toNat < 0x110000 :=
  c.valid

/-- The units of a character are put together to it. -/
theorem mergeUnits_charUnits (c : Char) (units : List Nat) :
    mergeUnits none (charUnits c ++ units) = c :: mergeUnits none units := by
  have valid := not_surrogate c
  by_cases basic : c.toNat < 0x10000
  · have no_half : isHighUnit c.toNat = false ∧ isLowUnit c.toNat = false := by
      simp only [isHighUnit, isLowUnit, Bool.and_eq_false_iff, decide_eq_false_iff_not]
      omega
    simp [charUnits, basic, mergeUnits, no_half, unitChar]
  · generalize h : c.toNat - 0x10000 = rest
    have high : isHighUnit (0xD800 + rest / 0x400) = true := by
      simp only [isHighUnit, Bool.and_eq_true, decide_eq_true_eq]
      omega
    have low : isLowUnit (0xDC00 + rest % 0x400) = true := by
      simp only [isLowUnit, Bool.and_eq_true, decide_eq_true_eq]
      omega
    have whole : 0x10000 + (0xD800 + rest / 0x400 - 0xD800) * 0x400 +
        (0xDC00 + rest % 0x400 - 0xDC00) = c.toNat := by omega
    simp only [charUnits, if_neg basic, h, List.cons_append, List.nil_append, mergeUnits, high, low,
      if_true, whole, Char.ofNat_toNat]

theorem mergeUnits_flatMap (cs : List Char) : mergeUnits none (cs.flatMap charUnits) = cs := by
  induction cs with
  | nil => rfl
  | cons c cs ih => rw [List.flatMap_cons, mergeUnits_charUnits, ih]

/-! ## Escapes -/

theorem unitValue?_hexDigits {unit : Nat} (h : unit < 0x10000) :
    unitValue? (hexDigits 4 unit) = some unit := by
  obtain ⟨values, read, value⟩ := @hexDigits_values 4 _ h
  have ascii : ∀ c ∈ hexDigits 4 unit, c.toNat < 0x80 := forall_mem_hexDigits (by decide) 4 unit
  have read : (hexDigits 4 unit).mapM (fun c => if c.toNat < 0x80 then hexValue? c else none) =
      some values := by
    have both := (List.forall₂_and_left _ _).2 ⟨ascii, mapM_eq_some_iff.1 read⟩
    exact mapM_eq_some_iff.2 (both.imp fun c n h => by rw [if_pos h.1, h.2])
  rw [unitValue?, read, Option.map_some, value]

section
variable {unit : Nat} {rest : List Char}

/-- A unit by its number is read as the unit. -/
theorem readUnits?_unitEscape (h : unit < 0x10000) :
    readUnits? (unitEscape unit ++ rest) =
      (readUnits? rest).map fun found => (unit :: found.1, found.2) := by
  have four : (hexDigits 4 unit).length = 4 := length_hexDigits 4 unit
  have read := unitValue?_hexDigits h
  rw [unitEscape]
  match hexDigits 4 unit, four, read with
  | [a, b, c, d], _, read =>
    simp only [List.cons_append, List.nil_append, readUnits?, read]
    cases readUnits? rest <;> rfl

/-- A character by its units is read as these. -/
theorem readUnits?_unitEscapes (c : Char) :
    readUnits? (unitEscapes c.toNat ++ rest) =
      (readUnits? rest).map fun found => (charUnits c ++ found.1, found.2) := by
  have valid := not_surrogate c
  rw [unitEscapes, charUnits]
  by_cases basic : c.toNat < 0x10000
  · rw [if_pos basic, if_pos basic, readUnits?_unitEscape basic]
    rfl
  · simp only [if_neg basic, List.append_assoc]
    rw [readUnits?_unitEscape (by omega), readUnits?_unitEscape (by omega), Option.map_map]
    rfl

/-- A character that is written as itself is read as itself. -/
theorem readUnits?_plain {c : Char} (quote : c ≠ '"') (slash : c ≠ '\\')
    (visible : 0x20 ≤ c.toNat) :
    readUnits? (c :: rest) = (readUnits? rest).map fun found => (c.toNat :: found.1, found.2) := by
  have passed : ¬ (c.toNat < 0x20 ∨ c = '\\') := by
    rintro (low | rfl)
    · omega
    · exact slash rfl
  rw [readUnits?]
  · rw [if_neg passed]
  · exact fun h => quote h
  · exact fun _ _ _ _ _ h => absurd h slash
  · exact fun _ _ h => absurd h slash

/-- What is written for a character is read as its units. -/
theorem readUnits?_escaped (c : Char) :
    readUnits? (escaped c ++ rest) =
      (readUnits? rest).map fun found => (charUnits c ++ found.1, found.2) := by
  have letter (mark : Char) (known : escapeValue? mark = some c.toNat) (other : mark ≠ 'u')
      (basic : c.toNat < 0x10000) : readUnits? ('\\' :: mark :: rest) =
        (readUnits? rest).map fun found => (charUnits c ++ found.1, found.2) := by
    rw [readUnits?, known, charUnits, if_pos basic]
    · cases readUnits? rest <;> rfl
    · rintro _ _ _ _ _ ⟨⟩
      exact absurd rfl other
  unfold escaped
  split_ifs with quote slash line ret tab feed back visible
  · subst quote
    exact letter '"' (by decide) (by decide) (by decide)
  · subst slash
    exact letter '\\' (by decide) (by decide) (by decide)
  · subst line
    exact letter 'n' (by decide) (by decide) (by decide)
  · subst ret
    exact letter 'r' (by decide) (by decide) (by decide)
  · subst tab
    exact letter 't' (by decide) (by decide) (by decide)
  · exact letter 'f' (by rw [feed]; decide) (by decide) (by omega)
  · exact letter 'b' (by rw [back]; decide) (by decide) (by omega)
  · rw [charUnits, if_pos (by omega)]
    exact readUnits?_plain quote slash visible.1
  · exact readUnits?_unitEscapes c

/-- The characters of a string, and the quote behind them, are read as their units. -/
theorem readUnits?_written (cs : List Char) :
    readUnits? (cs.flatMap escaped ++ '"' :: rest) = some (cs.flatMap charUnits, rest) := by
  induction cs with
  | nil => rfl
  | cons c cs ih =>
    rw [List.flatMap_cons, List.append_assoc, readUnits?_escaped, ih, Option.map_some,
      List.flatMap_cons]

/-- A string is read back from what is written behind its opening quote. -/
theorem readString?_written (s : String) :
    readString? (s.toList.flatMap escaped ++ '"' :: rest) = some (s, rest) := by
  simp only [readString?, readUnits?_written, Option.map_some, mergeUnits_flatMap,
    String.ofList_toList]

end

/-! ## What is printed -/

theorem printed_unitEscape (unit : Nat) : Printed (unitEscape unit) :=
  .cons (by decide) (.cons (by decide) (forall_mem_hexDigits (by decide) 4 unit))

theorem printed_escaped (c : Char) : Printed (escaped c) := by
  unfold escaped
  split_ifs with quote slash line ret tab feed back visible
  · exact .cons (by decide) (.cons (by decide) nofun)
  · exact .cons (by decide) (.cons (by decide) nofun)
  · exact .cons (by decide) (.cons (by decide) nofun)
  · exact .cons (by decide) (.cons (by decide) nofun)
  · exact .cons (by decide) (.cons (by decide) nofun)
  · exact .cons (by decide) (.cons (by decide) nofun)
  · exact .cons (by decide) (.cons (by decide) nofun)
  · exact .cons visible nofun
  · unfold unitEscapes
    split
    · exact printed_unitEscape _
    · exact (printed_unitEscape _).append (printed_unitEscape _)

theorem printed_stringChars (s : String) : Printed (stringChars s) := by
  refine .cons (by decide) (Printed.append ?_ (.cons (by decide) nofun))
  intro c hc
  obtain ⟨d, -, hd⟩ := List.mem_flatMap.1 hc
  exact printed_escaped d c hd

end RecordListing.Json
