import RecordListing.Proofs.Entries
import RecordListing.Proofs.Json.Strings
import RecordListing.Proofs.Text.Digits

/-!
# Written documents

The text of a document that holds no real numbers, and no key of an object twice, is one line of
ASCII (`printed_chars`) and is read back as the document (`parse?_encode`). Every part is read up to
the comma or bracket behind it (`readsBack`).
-/

set_option autoImplicit false

namespace RecordListing.Json

open RecordListing.Text

/-- Whether a document holds no real numbers and no halves of characters, and every object in it
each key once. -/
inductive IsPlain : Json → Prop
  | null : IsPlain .null
  | bool (b : Bool) : IsPlain (.bool b)
  | int (n : Int) : IsPlain (.int n)
  | text (s : String) : IsPlain (.text s)
  | array {items : List Json} (each : ∀ item ∈ items, IsPlain item) : IsPlain (.array items)
  | object {members : List (String × Json)} (distinct : (members.map (·.1)).Nodup)
      (each : ∀ member ∈ members, IsPlain member.2) : IsPlain (.object members)

theorem itemChars_eq_map (items : List Json) : itemChars items = items.map chars := by
  induction items with
  | nil => rfl
  | cons item items ih => rw [itemChars, ih, List.map_cons]

/-- What is written for a member of an object. -/
def memberText (member : String × Json) : List Char :=
  stringChars member.1 ++ ':' :: ' ' :: chars member.2

theorem memberChars_eq_map (members : List (String × Json)) :
    memberChars members = members.map memberText := by
  induction members with
  | nil => rfl
  | cons member members ih => rw [memberChars, ih, List.map_cons, memberText]

/-! ## Blanks and ends -/

/-- What may follow a value inside a document or behind it. -/
def Ends (rest : List Char) : Prop := ∀ c ∈ rest.head?, c = ',' ∨ c = ']' ∨ c = '\x7d'

section
variable {c : Char} {cs rest : List Char} {fuel : Nat}

theorem skipGaps_cons (h : isGap c = false) : skipGaps (c :: cs) = c :: cs :=
  List.dropWhile_cons_of_neg (by simp [h])

theorem readValue?_blank : readValue? fuel (' ' :: cs) = readValue? fuel cs := by
  cases fuel <;> rfl

theorem readItems?_blank : readItems? fuel (' ' :: cs) = readItems? fuel cs := by
  cases fuel with
  | zero => rfl
  | succ fuel => simp only [readItems?, readValue?_blank]

theorem readMembers?_blank : readMembers? fuel (' ' :: cs) = readMembers? fuel cs := by
  cases fuel <;> rfl

/-- What begins with no quote and no bracket is a name or a number. -/
theorem readValue?_atom (gap : isGap c = false) (quote : c ≠ '"') (bracket : c ≠ '[')
    (brace : c ≠ '\x7b') : readValue? (fuel + 1) (c :: cs) = readAtom? (c :: cs) := by
  rw [readValue?, skipGaps_cons gap]
  split
  · rename_i h
    exact absurd (List.cons.inj h).1 quote
  · rename_i h
    exact absurd (List.cons.inj h).1 bracket
  · rename_i h
    exact absurd (List.cons.inj h).1 brace
  · rfl

/-! ## Numbers -/

theorem isPlainDigit_of_mem_toDigits {n : Nat} (h : c ∈ Nat.toDigits 10 n) :
    isPlainDigit c = true := by
  have digit := Nat.isDigit_of_mem_toDigits (by decide) (by decide) h
  simpa [Char.isDigit, isPlainDigit, Char.le_def] using digit

/-- The digits of a number other than zero begin with no zero. -/
theorem toDigits_eq_cons (n : Nat) :
    ∃ first digits, Nat.toDigits 10 n = first :: digits ∧ (first = '0' → n = 0) := by
  induction n using Nat.strongRecOn with
  | ind n ih =>
    by_cases small : n < 10
    · have zero : ∀ d : Fin 10, Nat.digitChar d = '0' → d = 0 := by decide
      exact ⟨_, _, Nat.toDigits_of_lt_base small, fun h => congrArg Fin.val (zero ⟨n, small⟩ h)⟩
    · obtain ⟨first, digits, shape, zero⟩ := ih (n / 10) (by omega)
      refine ⟨first, digits ++ [Nat.digitChar (n % 10)], ?_, fun h => ?_⟩
      · rw [Nat.toDigits_eq_if (by decide), if_neg small, shape, List.cons_append]
      · have := zero h
        omega

theorem takeWhole_toDigits (ends : Ends rest) (n : Nat) :
    takeWhole (Nat.toDigits 10 n ++ rest) = (Nat.toDigits 10 n, rest) := by
  obtain ⟨first, digits, shape, zero⟩ := toDigits_eq_cons n
  by_cases alone : first = '0'
  · rw [zero alone]
    rfl
  · have all : ∀ c ∈ Nat.toDigits 10 n, isPlainDigit c = true :=
      fun c hc => isPlainDigit_of_mem_toDigits hc
    have stop : ∀ c ∈ rest.head?, isPlainDigit c = false := by
      intro c hc
      rcases ends c hc with rfl | rfl | rfl <;> decide
    have taken : takeWhole (Nat.toDigits 10 n ++ rest) =
        ((Nat.toDigits 10 n ++ rest).takeWhile isPlainDigit,
          (Nat.toDigits 10 n ++ rest).dropWhile isPlainDigit) := by
      rw [shape, List.cons_append, takeWhole]
      exact fun _ h => absurd (List.cons.inj h).1 alone
    rw [taken, List.takeWhile_append_of_pos all, List.dropWhile_append_of_pos all]
    cases rest with
    | nil => simp
    | cons c rest => simp [stop c rfl]

theorem takeFraction_ends (ends : Ends rest) : takeFraction rest = ([], rest) := by
  unfold takeFraction
  split
  · simp [Ends] at ends
  · rfl

theorem takePower_ends (ends : Ends rest) : takePower rest = ([], rest) := by
  cases rest with
  | nil => rfl
  | cons c rest =>
    have no_power : ¬ (c = 'e' ∨ c = 'E') := by
      rcases ends c rfl with rfl | rfl | rfl <;> decide
    rw [takePower, if_neg no_power]

theorem readSize?_toDigits (ends : Ends rest) (negative : Bool) (n : Nat) :
    readSize? negative (Nat.toDigits 10 n ++ rest) =
      some (.int (if negative then -(n : Int) else n), rest) := by
  obtain ⟨values, read, value⟩ := toDigits_values n
  simp [readSize?, takeWhole_toDigits ends, takeFraction_ends ends, takePower_ends ends,
    takeDigits_all read, value]

/-- What begins like a number is none of the names. -/
theorem readAtom?_number (digit : isPlainDigit c = true) :
    readAtom? (c :: cs) = readSize? false (c :: cs) ∧
      readAtom? ('-' :: c :: cs) = readSize? true (c :: cs) := by
  have other : c ≠ 'n' ∧ c ≠ 't' ∧ c ≠ 'f' ∧ c ≠ 'N' ∧ c ≠ 'I' ∧ c ≠ '-' := by
    refine ⟨?_, ?_, ?_, ?_, ?_, ?_⟩ <;> rintro rfl <;> revert digit <;> decide
  obtain ⟨n, t, f, big_n, big_i, minus⟩ := other
  constructor
  · simp [readAtom?, names, after?, n.symm, t.symm, f.symm, big_n.symm, big_i.symm, minus.symm,
      minus]
  · simp [readAtom?, names, after?, big_i.symm]

theorem readAtom?_int (ends : Ends rest) (n : Int) :
    readAtom? ((toString n).toList ++ rest) = some (.int n, rest) := by
  obtain ⟨first, digits, shape, -⟩ := toDigits_eq_cons n.natAbs
  have digit : isPlainDigit first = true :=
    isPlainDigit_of_mem_toDigits (shape ▸ List.mem_cons_self)
  have read (negative : Bool) := readSize?_toDigits ends negative n.natAbs
  simp only [shape, List.cons_append] at read
  rw [toList_toString_int, shape]
  by_cases negative : n < 0
  · have size : -(n.natAbs : Int) = n := by omega
    simp only [if_pos negative, List.cons_append, List.nil_append, (readAtom?_number digit).2, read,
      if_true, size]
  · have size : (n.natAbs : Int) = n := by omega
    simp only [if_neg negative, List.cons_append, List.nil_append, (readAtom?_number digit).1, read,
      Bool.false_eq_true, if_false, size]

theorem readAtom?_name :
    readAtom? (chars .null ++ rest) = some (.null, rest) ∧
      ∀ b, readAtom? (chars (.bool b) ++ rest) = some (.bool b, rest) := by
  refine ⟨by simp [chars, readAtom?, names, after?], fun b => ?_⟩
  cases b <;> simp [chars, readAtom?, names, after?]

end

/-! ## Values -/

/-- Whether a document is read from its text, whatever may follow it. -/
def ReadsBack (j : Json) : Prop :=
  ∀ fuel rest, 2 * j.chars.length ≤ fuel → Ends rest →
    readValue? fuel (j.chars ++ rest) = some (j, rest)

theorem toString_int_eq_cons (n : Int) :
    ∃ c cs, (toString n).toList = c :: cs ∧ (c = '-' ∨ isPlainDigit c = true) := by
  obtain ⟨first, digits, shape, -⟩ := toDigits_eq_cons n.natAbs
  rw [toList_toString_int, shape]
  split
  · exact ⟨'-', _, rfl, .inl rfl⟩
  · exact ⟨first, _, rfl, .inr (isPlainDigit_of_mem_toDigits (shape ▸ List.mem_cons_self))⟩

/-- Whether a character is neither a gap nor a quote nor a bracket. -/
def StartsAtom (c : Char) : Prop :=
  isGap c = false ∧ c ≠ '"' ∧ c ≠ '[' ∧ c ≠ ']' ∧ c ≠ '\x7b'

theorem startsAtom_number {c : Char} (h : c = '-' ∨ isPlainDigit c = true) : StartsAtom c := by
  rcases h with rfl | digit
  · exact ⟨by decide, by decide, by decide, by decide, by decide⟩
  · refine ⟨?_, ?_, ?_, ?_, ?_⟩
    · rw [Bool.eq_false_iff]
      intro gap
      simp only [isGap, Bool.or_eq_true, beq_iff_eq] at gap
      rcases gap with ((rfl | rfl) | rfl) | rfl <;> revert digit <;> decide
    all_goals rintro rfl; revert digit; decide

theorem readsBack_atom {j : Json} (starts : ∃ c cs, j.chars = c :: cs ∧ StartsAtom c)
    (read : ∀ rest, Ends rest → readAtom? (j.chars ++ rest) = some (j, rest)) : ReadsBack j := by
  obtain ⟨c, cs, shape, gap, quote, bracket, -, brace⟩ := starts
  intro fuel rest enough ends
  cases fuel with
  | zero => simp [shape] at enough
  | succ fuel =>
    have read := read rest ends
    rw [shape, List.cons_append] at read ⊢
    rw [readValue?_atom gap quote bracket brace, read]

theorem atom_starts : (∃ c cs, chars .null = c :: cs ∧ StartsAtom c) ∧
    (∀ b, ∃ c cs, chars (.bool b) = c :: cs ∧ StartsAtom c) ∧
    ∀ n, ∃ c cs, chars (.int n) = c :: cs ∧ StartsAtom c := by
  refine ⟨⟨'n', _, by simp only [chars]; rfl, by decide, by decide, by decide, by decide,
    by decide⟩, fun b => ?_, fun n => ?_⟩
  · cases b
    · exact ⟨'f', _, by simp only [chars]; rfl, by decide, by decide, by decide, by decide,
        by decide⟩
    · exact ⟨'t', _, by simp only [chars]; rfl, by decide, by decide, by decide, by decide,
        by decide⟩
  · obtain ⟨c, cs, shape, number⟩ := toString_int_eq_cons n
    exact ⟨c, cs, by rw [chars, shape], startsAtom_number number⟩

/-- The text of a document begins with no gap and no closing bracket. -/
theorem exists_chars {j : Json} (plain : j.IsPlain) :
    ∃ c cs, j.chars = c :: cs ∧ isGap c = false ∧ c ≠ ']' := by
  have atom (starts : ∃ c cs, j.chars = c :: cs ∧ StartsAtom c) :
      ∃ c cs, j.chars = c :: cs ∧ isGap c = false ∧ c ≠ ']' := by
    obtain ⟨c, cs, shape, gap, -, -, bracket, -⟩ := starts
    exact ⟨c, cs, shape, gap, bracket⟩
  cases plain with
  | null => exact atom atom_starts.1
  | bool b => exact atom (atom_starts.2.1 b)
  | int n => exact atom (atom_starts.2.2 n)
  | text s => exact ⟨'"', _, by simp only [chars]; rfl, by decide, by decide⟩
  | array each => exact ⟨'[', _, by simp only [chars]; rfl, by decide, by decide⟩
  | object distinct each => exact ⟨'\x7b', _, by simp only [chars]; rfl, by decide, by decide⟩

theorem readsBack_text (s : String) : ReadsBack (.text s) := by
  intro fuel rest enough ends
  cases fuel with
  | zero => simp [chars, stringChars] at enough
  | succ fuel =>
    have quote : isGap '"' = false := by decide
    simp only [chars, stringChars, List.cons_append, List.append_assoc, List.nil_append, readValue?,
      skipGaps_cons quote, readString?_written, Option.map_some]

/-! ## Arrays and objects -/

/-- The items of an array are read up to its closing bracket. -/
theorem readItems?_chars {item : Json} {items : List Json}
    (each : ∀ i ∈ item :: items, ReadsBack i) (fuel : Nat) (rest : List Char)
    (enough : 2 * (commaSeparated ((item :: items).map chars)).length + 1 ≤ fuel) :
    readItems? fuel (commaSeparated ((item :: items).map chars) ++ ']' :: rest) =
      some (item :: items, rest) := by
  have bracket : isGap ']' = false := by decide
  have comma : isGap ',' = false := by decide
  induction items generalizing item fuel with
  | nil =>
    cases fuel with
    | zero => omega
    | succ fuel =>
      have read := each item List.mem_cons_self fuel (']' :: rest)
        (by simpa [commaSeparated] using enough) (by rintro _ ⟨⟩; simp)
      simp only [List.map_cons, List.map_nil, commaSeparated, readItems?, read,
        skipGaps_cons bracket]
  | cons next items ih =>
    cases fuel with
    | zero => omega
    | succ fuel =>
      simp only [List.map_cons, commaSeparated, List.length_append, List.length_cons] at enough
      have read := each item List.mem_cons_self fuel
        (',' :: ' ' :: (commaSeparated ((next :: items).map chars) ++ ']' :: rest))
        (by omega) (by rintro _ ⟨⟩; simp)
      have others := ih (fun i hi => each i (List.mem_cons_of_mem _ hi)) fuel
        (by simp only [List.map_cons]; omega)
      simp only [List.map_cons, commaSeparated, List.append_assoc, List.cons_append, readItems?]
        at read others ⊢
      simp only [read, skipGaps_cons comma, readItems?_blank, others, Option.map_some]

/-- The members of an object are read up to its closing brace. -/
theorem readMembers?_chars {member : String × Json} {members : List (String × Json)}
    (each : ∀ m ∈ member :: members, ReadsBack m.2) (fuel : Nat) (rest : List Char)
    (enough : 2 * (commaSeparated ((member :: members).map memberText)).length + 1 ≤ fuel) :
    readMembers? fuel (commaSeparated ((member :: members).map memberText) ++ '\x7d' :: rest) =
      some (member :: members, rest) := by
  have quote : isGap '"' = false := by decide
  have colon : isGap ':' = false := by decide
  have brace : isGap '\x7d' = false := by decide
  have comma : isGap ',' = false := by decide
  induction members generalizing member fuel with
  | nil =>
    cases fuel with
    | zero => omega
    | succ fuel =>
      simp only [List.map_cons, List.map_nil, commaSeparated, memberText, List.length_append,
        List.length_cons] at enough
      have read := each member List.mem_cons_self fuel ('\x7d' :: rest) (by omega)
        (by rintro _ ⟨⟩; simp)
      simp only [List.map_cons, List.map_nil, commaSeparated, memberText, stringChars, readMembers?,
        List.append_assoc, List.cons_append, List.nil_append, skipGaps_cons quote,
        readString?_written, skipGaps_cons colon, readValue?_blank, read, skipGaps_cons brace]
  | cons next members ih =>
    cases fuel with
    | zero => omega
    | succ fuel =>
      simp only [List.map_cons, commaSeparated, memberText, List.length_append, List.length_cons]
        at enough
      have read := each member List.mem_cons_self fuel
        (',' :: ' ' :: (commaSeparated ((next :: members).map memberText) ++ '\x7d' :: rest))
        (by omega) (by rintro _ ⟨⟩; simp)
      have others := ih (fun m hm => each m (List.mem_cons_of_mem _ hm)) fuel
        (by simp only [List.map_cons, memberText]; omega)
      rw [List.map_cons, List.map_cons, commaSeparated, ← List.map_cons (f := memberText)]
      simp only [memberText.eq_1 member, stringChars, List.append_assoc, List.cons_append,
        List.nil_append, readMembers?, skipGaps_cons quote, readString?_written,
        skipGaps_cons colon, readValue?_blank, read, skipGaps_cons comma, readMembers?_blank,
        others, Option.map_some]

/-- The pieces with commas between them begin like the first. -/
theorem commaSeparated_eq_cons {piece : List Char} {c : Char} {cs : List Char}
    (begins : piece = c :: cs) (pieces : List (List Char)) :
    ∃ rest, commaSeparated (piece :: pieces) = c :: rest := by
  subst begins
  cases pieces with
  | nil => exact ⟨cs, rfl⟩
  | cons next pieces => exact ⟨_, rfl⟩

theorem readsBack_array {items : List Json} (plain : ∀ item ∈ items, item.IsPlain)
    (each : ∀ item ∈ items, ReadsBack item) : ReadsBack (.array items) := by
  intro fuel rest enough ends
  have bracket : isGap '[' = false := by decide
  have closing : isGap ']' = false := by decide
  simp only [chars, itemChars_eq_map, List.length_cons, List.length_append, List.length_nil]
    at enough
  cases fuel with
  | zero => omega
  | succ fuel =>
    cases items with
    | nil =>
      simp only [chars, itemChars_eq_map, List.map_nil, commaSeparated, List.nil_append,
        List.cons_append, readValue?, skipGaps_cons bracket, skipGaps_cons closing]
    | cons item items =>
      have read := readItems?_chars each fuel rest (by omega)
      obtain ⟨c, cs, shape, gap, open_⟩ := exists_chars (plain item List.mem_cons_self)
      obtain ⟨after, start⟩ := commaSeparated_eq_cons shape (items.map chars)
      simp only [chars, itemChars_eq_map, List.map_cons, start, List.cons_append, List.append_assoc,
        List.nil_append, readValue?, skipGaps_cons bracket, skipGaps_cons gap] at read ⊢
      split
      · rename_i h
        exact absurd (List.cons.inj h).1 open_
      · rw [read, Option.map_some]

theorem readsBack_object {members : List (String × Json)} (distinct : (members.map (·.1)).Nodup)
    (each : ∀ member ∈ members, ReadsBack member.2) : ReadsBack (.object members) := by
  intro fuel rest enough ends
  have opening : isGap '\x7b' = false := by decide
  have closing : isGap '\x7d' = false := by decide
  have quote : isGap '"' = false := by decide
  simp only [chars, memberChars_eq_map, List.length_cons, List.length_append, List.length_nil]
    at enough
  cases fuel with
  | zero => omega
  | succ fuel =>
    cases members with
    | nil =>
      simp only [chars, memberChars_eq_map, List.map_nil, commaSeparated, List.nil_append,
        List.cons_append, readValue?, skipGaps_cons opening, skipGaps_cons closing]
    | cons member members =>
      have read := readMembers?_chars each fuel rest (by omega)
      obtain ⟨after, start⟩ :
          ∃ after, commaSeparated (memberText member :: members.map memberText) = '"' :: after :=
        commaSeparated_eq_cons rfl _
      simp only [chars, memberChars_eq_map, List.map_cons, start, List.cons_append,
        List.append_assoc, List.nil_append, readValue?, skipGaps_cons opening,
        skipGaps_cons quote] at read ⊢
      split
      · rename_i h
        exact absurd (List.cons.inj h).1 (by decide)
      · rw [read, Option.map_some, withoutRepeats_eq_self distinct]

/-- A document is read back from its text. -/
theorem readsBack {j : Json} (plain : j.IsPlain) : ReadsBack j := by
  induction plain with
  | null => exact readsBack_atom atom_starts.1 fun _ _ => readAtom?_name.1
  | bool b => exact readsBack_atom (atom_starts.2.1 b) fun _ _ => readAtom?_name.2 b
  | int n => exact readsBack_atom (atom_starts.2.2 n) fun _ ends => readAtom?_int ends n
  | text s => exact readsBack_text s
  | array each ih => exact readsBack_array each ih
  | object distinct each ih => exact readsBack_object distinct ih

/-- The document is what its text writes. -/
theorem parse?_encode {j : Json} (plain : j.IsPlain) : parse? j.encode = some j := by
  have read := readsBack plain (2 * j.chars.length + 2) [] (by omega) nofun
  rw [List.append_nil] at read
  rw [parse?, encode, String.toList_ofList, ofChars?, read]
  rfl

/-! ## What is printed -/

theorem printed_commaSeparated {pieces : List (List Char)}
    (each : ∀ piece ∈ pieces, Printed piece) : Printed (commaSeparated pieces) := by
  induction pieces with
  | nil => exact nofun
  | cons piece pieces ih =>
    obtain ⟨first, others⟩ := List.forall_mem_cons.1 each
    cases pieces with
    | nil => exact first
    | cons next pieces =>
      exact first.append (.cons (by decide) (.cons (by decide) (ih others)))

/-- A document is written with visible characters of ASCII and blanks alone. -/
theorem printed_chars {j : Json} (plain : j.IsPlain) : Printed j.chars := by
  induction plain with
  | null => exact (by decide : Printed "null".toList)
  | bool b => cases b <;> decide
  | int n =>
    rw [chars, toList_toString_int]
    refine .append (by split <;> decide) fun c hc => ?_
    have digit := isPlainDigit_of_mem_toDigits hc
    simp only [isPlainDigit, Bool.and_eq_true, decide_eq_true_eq, Char.le_def,
      UInt32.le_iff_toNat_le] at digit
    exact ⟨Nat.le_trans (by decide) digit.1, Nat.le_trans digit.2 (by decide)⟩
  | text s => simpa only [chars] using printed_stringChars s
  | array each ih =>
    rw [chars, itemChars_eq_map]
    exact .cons (by decide) ((printed_commaSeparated (List.forall_mem_map.2 ih)).append
      (.cons (by decide) nofun))
  | object distinct each ih =>
    rw [chars, memberChars_eq_map]
    refine .cons (by decide) (.append (printed_commaSeparated (List.forall_mem_map.2 ?_))
      (.cons (by decide) nofun))
    intro member hm
    exact (printed_stringChars member.1).append
      (.cons (by decide) (.cons (by decide) (ih member hm)))

end RecordListing.Json
