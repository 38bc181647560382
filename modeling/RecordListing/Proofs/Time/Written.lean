import RecordListing.Proofs.Text.Padded
import RecordListing.Proofs.Text.Pieces

/-!
# Written days and times

A day is read back from its text (`Date.read_text`), and a point in time from its own, down to the
microsecond (`Timestamp.read?_isoText`). What is not read back is an offset of less than a second:
it is taken for universal time.
-/

set_option autoImplicit false

namespace RecordListing

open Text

/-! ## Days -/

theorem read_digits {width n : Nat} (h : n < 10 ^ width) :
    takeNumber? width (fixedDigits width n) = some (n, []) := by
  simpa using takeNumber?_fixedDigits h []

theorem isDateShaped_eq {cs : List Char} (h : isDateShaped cs = true) :
    ∃ a b c d e f g i, cs = [a, b, c, d, '-', e, f, '-', g, i] ∧
      ∀ x ∈ [a, b, c, d, e, f, g, i], isDecimalDigit x = true := by
  unfold isDateShaped at h
  split at h
  · rename_i a b c d e f g i
    exact ⟨a, b, c, d, e, f, g, i, rfl, List.all_eq_true.1 h⟩
  · cases h

theorem takeNumber?_rest {count n : Nat} {cs rest : List Char}
    (h : takeNumber? count cs = some (n, rest)) : rest = cs.drop count := by
  simp only [takeNumber?] at h
  split at h
  · cases h
  · obtain ⟨ds, -, he⟩ := Option.map_eq_some_iff.1 h
    exact (Prod.mk.inj he).2.symm

namespace Date

theorem read_eq_ok {cs : List Char} {d : Date} (h : Date.read cs = .ok d) :
    ∃ year month day, readDateParts? cs = some (year, month, day) ∧
      Date.ofParts? year month day = some d := by
  unfold Date.read at h
  split at h
  · rename_i year month day hp
    refine ⟨year, month, day, hp, ?_⟩
    unfold Date.ofParts at h
    split at h
    · rename_i hd
      cases h
      exact hd
    · cases h
  · cases h

theorem bounds (d : Date) :
    d.year < 10 ^ 4 ∧ 1 ≤ d.month ∧ d.month ≤ 12 ∧ 1 ≤ d.day ∧ d.day ≤ 31 := by
  obtain ⟨-, year, month, month', day, day'⟩ := d.valid
  have longest : daysIn d.year d.month ≤ 31 := by
    unfold daysIn
    split
    · split <;> decide
    · split <;> decide
  omega

/-- The characters of a day: year, month and day between hyphens. -/
theorem text_toList (d : Date) :
    d.text.toList = fixedDigits 4 d.year ++ '-' :: (fixedDigits 2 d.month ++
      '-' :: fixedDigits 2 d.day) := by
  obtain ⟨year, -, month, -, day⟩ := d.bounds
  simp only [Date.text, String.toList_append, padded_toList (show 0 < 4 by decide) year,
    padded_toList (show 0 < 2 by decide) (show d.month < 10 ^ 2 by omega),
    padded_toList (show 0 < 2 by decide) (show d.day < 10 ^ 2 by omega)]
  simp

/-- What holds of digits and of hyphens holds of the text of a day. -/
theorem forall_mem_text {p : Char → Prop} (digit : ∀ d : Fin 10, p (Nat.digitChar d))
    (hyphen : p '-') (d : Date) : ∀ c ∈ d.text.toList, p c := by
  have digits := forall_mem_fixedDigits digit
  simp only [text_toList, List.forall_mem_append, List.forall_mem_cons]
  exact ⟨digits 4 d.year, hyphen, digits 2 d.month, hyphen, digits 2 d.day⟩

theorem trimmed_text (d : Date) : trimmed d.text.toList = d.text.toList :=
  stripped_eq_self (d.forall_mem_text (by decide +kernel) (by decide +kernel))

theorem isDateShaped_text (d : Date) : isDateShaped d.text.toList = true := by
  have ys := isDecimalDigit_fixedDigits 4 d.year
  have ms := isDecimalDigit_fixedDigits 2 d.month
  have ds := isDecimalDigit_fixedDigits 2 d.day
  obtain ⟨y₁, y₂, y₃, y₄, hy⟩ : ∃ a b c e, fixedDigits 4 d.year = [a, b, c, e] :=
    ⟨_, _, _, _, rfl⟩
  obtain ⟨m₁, m₂, hm⟩ : ∃ a b, fixedDigits 2 d.month = [a, b] := ⟨_, _, rfl⟩
  obtain ⟨d₁, d₂, hd⟩ : ∃ a b, fixedDigits 2 d.day = [a, b] := ⟨_, _, rfl⟩
  rw [text_toList]
  rw [hy] at ys ⊢
  rw [hm] at ms ⊢
  rw [hd] at ds ⊢
  simp_all [isDateShaped]

/-- The text of a day is read back as the day. -/
theorem read_text (d : Date) : Date.read d.text.toList = .ok d := by
  obtain ⟨year, month, month', day, day'⟩ := d.bounds
  have parts : readDateParts? d.text.toList = some (d.year, d.month, d.day) := by
    simp only [readDateParts?, text_toList, takeNumber?_fixedDigits year,
      takeNumber?_fixedDigits (show d.month < 10 ^ 2 by omega),
      read_digits (show d.day < 10 ^ 2 by omega)]
  have found : Date.ofParts? d.year d.month d.day = some d := dif_pos d.valid
  rw [Date.read, parts]
  simp only [Date.ofParts, found]

/-- What stands in the form of a date is the day, whatever follows. -/
theorem front_of_shaped {cs : List Char} {d : Date} (shaped : isDateShaped cs = true)
    (h : Date.read cs = .ok d) (rest : List Char) :
    dayLength (cs ++ rest) = 10 ∧ readDay? ((cs ++ rest).take 10) = some d ∧
      (cs ++ rest).drop 10 = rest := by
  obtain ⟨year, month, day, hp, hd⟩ := Date.read_eq_ok h
  obtain ⟨a, b, c, e, f, g, i, j, rfl, digits⟩ := isDateShaped_eq shaped
  have no_week : f ≠ 'W' := by
    rintro rfl
    exact absurd (digits 'W' (by simp)) (by decide)
  refine ⟨by simp [dayLength, no_week], ?_, rfl⟩
  show readDay? [a, b, c, e, '-', f, g, '-', i, j] = some d
  cases hn : takeNumber? 4 [a, b, c, e, '-', f, g, '-', i, j] with
  | none => simp [readDateParts?, hn] at hp
  | some taken =>
    obtain ⟨n, rest⟩ := taken
    obtain rfl := takeNumber?_rest hn
    simp only [List.drop_succ_cons, List.drop_zero] at hn
    simp [readDay?, hn, no_week, hp, hd]

theorem length_of_shaped {cs : List Char} (h : isDateShaped cs = true) : cs.length = 10 := by
  obtain ⟨a, b, c, e, f, g, i, j, rfl, -⟩ := isDateShaped_eq h
  rfl

end Date

section
variable {cs : List Char} {d : Date} (shaped : isDateShaped cs = true) (h : Date.read cs = .ok d)
include shaped h

/-- A text in the form of a date is the first instant of the day that it names. -/
theorem Timestamp.read?_date : Timestamp.read? cs = some (.startOf d) := by
  have front := Date.front_of_shaped shaped h []
  rw [List.append_nil] at front
  obtain ⟨length, day, rest⟩ := front
  have long := Date.length_of_shaped shaped
  simp [Timestamp.read?, length, day, rest, long]

/-- A time of day follows after any one character. -/
theorem Timestamp.read?_time (mark : Char) {time : List Char} {clock : Clock}
    {offset : Option Offset} (read : readTime? time = some (clock, offset)) :
    Timestamp.read? (cs ++ mark :: time) = some ⟨d, clock, offset⟩ := by
  obtain ⟨length, day, rest⟩ := Date.front_of_shaped shaped h (mark :: time)
  have long := Date.length_of_shaped shaped
  have enough : ¬ (cs ++ mark :: time).length < 7 := by
    rw [List.length_append]
    omega
  rw [Timestamp.read?, if_neg enough, length, day, rest]
  simp [read]

end

/-! ## Times of day -/

/-- The characters of a fraction of a second, of which there are none for a whole one. -/
def fractionChars (micros : Nat) : List Char :=
  if micros = 0 then [] else '.' :: fixedDigits 6 micros

/-- The characters of hours, minutes and seconds between colons. -/
def clockChars (hour minute second micros : Nat) : List Char :=
  fixedDigits 2 hour ++ ':' :: (fixedDigits 2 minute ++
    ':' :: (fixedDigits 2 second ++ fractionChars micros))

section
variable {followed : Bool} {left n : Nat} {colons : Option Bool} {units : List Nat}

theorem readUnits?_colon (h : n < 10 ^ 2) (first : colons.getD true = true) {rest : List Char}
    (more : rest ≠ []) :
    readUnits? followed (left + 1) colons units (fixedDigits 2 n ++ ':' :: rest) =
      readUnits? followed left (some true) (units ++ [n]) rest := by
  cases rest with
  | nil => exact absurd rfl more
  | cons c rest =>
    cases colons with
    | none => simp [readUnits?, takeNumber?_fixedDigits h]
    | some colons =>
      rw [Option.getD_some] at first
      simp [readUnits?, takeNumber?_fixedDigits h, first]

theorem readUnits?_last (h : n < 10 ^ 2) : readUnits? followed (left + 1) colons units
    (fixedDigits 2 n) = some (.ofUnits (units ++ [n]) 0 followed) := by
  simp [readUnits?, read_digits h]

theorem readFraction?_digits {micros : Nat} (h : micros < 10 ^ 6) :
    readFraction? followed units (fixedDigits 6 micros) =
      some (.ofUnits units micros followed) := by
  simp [readFraction?, read_digits h, tenTo, isLeftOver]

theorem readUnits?_fraction (h : n < 10 ^ 2) {micros : Nat} (hm : micros < 10 ^ 6) :
    readUnits? followed (left + 1) (some true) units (fixedDigits 2 n ++ fractionChars micros) =
      some (.ofUnits (units ++ [n]) micros followed) := by
  rw [fractionChars]
  by_cases whole : micros = 0
  · subst whole
    rw [if_pos rfl, List.append_nil]
    exact readUnits?_last h
  · rw [if_neg whole]
    obtain ⟨u, us, hu⟩ : ∃ u us, fixedDigits 6 micros = u :: us := ⟨_, _, rfl⟩
    have fraction : readFraction? followed (units ++ [n]) (u :: us) =
        some (.ofUnits (units ++ [n]) micros followed) := by
      rw [← hu]
      exact readFraction?_digits hm
    simp [readUnits?, takeNumber?_fixedDigits h, hu, fraction]

/-- Hours, minutes and seconds between colons are read with their fraction. -/
theorem readUnits?_clock {hour minute second micros : Nat} (hh : hour < 10 ^ 2)
    (hm : minute < 10 ^ 2) (hs : second < 10 ^ 2) (hu : micros < 10 ^ 6) :
    readUnits? followed 3 none [] (clockChars hour minute second micros) =
      some ⟨hour, minute, second, micros, followed⟩ := by
  rw [clockChars, readUnits?_colon hh rfl (by simp [fixedDigits]),
    readUnits?_colon hm rfl (by simp [fixedDigits]), readUnits?_fraction hs hu]
  rfl

/-- Hours and minutes are read without seconds. -/
theorem readUnits?_minutes {hour minute : Nat} (hh : hour < 10 ^ 2) (hm : minute < 10 ^ 2) :
    readUnits? followed 3 none [] (fixedDigits 2 hour ++ ':' :: fixedDigits 2 minute) =
      some ⟨hour, minute, 0, 0, followed⟩ := by
  rw [readUnits?_colon hh rfl (by simp [fixedDigits]), readUnits?_last hm]
  rfl

end

/-- What holds of digits, of colons and of points holds of the characters of a time of day. -/
theorem forall_mem_clockChars {p : Char → Prop} (digit : ∀ d : Fin 10, p (Nat.digitChar d))
    (colon : p ':') (point : p '.') (hour minute second micros : Nat) :
    ∀ c ∈ clockChars hour minute second micros, p c := by
  have digits := forall_mem_fixedDigits digit
  have fraction : ∀ c ∈ fractionChars micros, p c := by
    rw [fractionChars]
    split
    · exact nofun
    · exact List.forall_mem_cons.2 ⟨point, digits 6 micros⟩
  simp only [clockChars, List.forall_mem_append, List.forall_mem_cons]
  exact ⟨digits 2 hour, colon, digits 2 minute, colon, digits 2 second, fraction⟩

theorem fractionChars_eq {micros : Nat} (h : micros < 10 ^ 6) :
    (if micros = 0 then "" else "." ++ padded 6 micros).toList = fractionChars micros := by
  rw [fractionChars]
  split
  · rfl
  · rw [String.toList_append, padded_toList (by decide) h]
    rfl

theorem Clock.text_toList (clock : Clock) :
    clock.text.toList = clockChars clock.hour clock.minute clock.second clock.micros := by
  obtain ⟨hour, minute, second, micros, hh, hm, hs, hu⟩ := clock
  simp only [Clock.text, String.toList_append, fractionChars_eq hu,
    padded_toList (show 0 < 2 by decide) (show hour < 10 ^ 2 by omega),
    padded_toList (show 0 < 2 by decide) (show minute < 10 ^ 2 by omega),
    padded_toList (show 0 < 2 by decide) (show second < 10 ^ 2 by omega), clockChars]
  simp

/-! ## Offsets -/

/-- The offset that is read from the text of an offset: one of less than a second is taken for
universal time. -/
def Offset.reread (offset : Offset) : Offset :=
  if offset.micros.natAbs < 1000000 then .universal else offset

/-- The characters of an offset after its sign: hours and minutes, and then seconds and a fraction
where there are any. -/
def offsetChars (size : Nat) : List Char :=
  if size / 1000000 % 60 = 0 ∧ size % 1000000 = 0 then
    fixedDigits 2 (size / 3600000000) ++ ':' :: fixedDigits 2 (size / 60000000 % 60)
  else
    clockChars (size / 3600000000) (size / 60000000 % 60) (size / 1000000 % 60) (size % 1000000)

theorem Offset.text_toList (offset : Offset) : offset.text.toList =
    (if offset.micros < 0 then '-' else '+') :: offsetChars offset.micros.natAbs := by
  obtain ⟨micros, low, high⟩ := offset
  have small : micros.natAbs < 86400000000 := by omega
  have sign : (if micros < 0 then "-" else "+").toList = [if micros < 0 then '-' else '+'] := by
    split <;> rfl
  simp only [Offset.text, String.toList_append, sign]
  generalize micros.natAbs = size at small ⊢
  rw [padded_toList (show 0 < 2 by decide) (show size / 3600000000 < 10 ^ 2 by omega),
    padded_toList (show 0 < 2 by decide) (show size / 60000000 % 60 < 10 ^ 2 by omega),
    fractionChars_eq (show size % 1000000 < 10 ^ 6 by omega), offsetChars]
  by_cases minutes : size / 1000000 % 60 = 0 ∧ size % 1000000 = 0
  · rw [if_pos minutes, if_pos minutes, fractionChars, if_pos minutes.2]
    simp
  · rw [if_neg minutes, if_neg minutes, String.toList_append, clockChars,
      padded_toList (show 0 < 2 by decide) (show size / 1000000 % 60 < 10 ^ 2 by omega)]
    simp

/-- The characters of an offset are read as the offset. -/
theorem readOffset?_offsetChars (offset : Offset) :
    readOffset? (decide (offset.micros < 0)) (offsetChars offset.micros.natAbs) =
      some offset.reread := by
  obtain ⟨micros, low, high⟩ := offset
  have small : micros.natAbs < 86400000000 := by omega
  have units : readUnits? false 3 none [] (offsetChars micros.natAbs) =
      some ⟨micros.natAbs / 3600000000, micros.natAbs / 60000000 % 60,
        micros.natAbs / 1000000 % 60, micros.natAbs % 1000000, false⟩ := by
    rw [offsetChars]
    split
    · rename_i minutes
      rw [readUnits?_minutes (by omega) (by omega), minutes.1, minutes.2]
    · exact readUnits?_clock (by omega) (by omega) (by omega) (by omega)
  have seconds : micros.natAbs / 3600000000 * 3600 + micros.natAbs / 60000000 % 60 * 60 +
      micros.natAbs / 1000000 % 60 = micros.natAbs / 1000000 := by omega
  have none_left : micros.natAbs / 1000000 = 0 ↔ micros.natAbs < 1000000 := by omega
  rw [readOffset?, units]
  simp only [seconds, Offset.reread, none_left]
  by_cases tiny : micros.natAbs < 1000000
  · simp [tiny]
  · have size : (if decide (micros < 0) then -((micros.natAbs / 1000000 : Nat) * 1000000 +
        (micros.natAbs % 1000000 : Nat) : Int) else (micros.natAbs / 1000000 : Nat) * 1000000 +
        (micros.natAbs % 1000000 : Nat)) = micros := by
      simp only [decide_eq_true_eq]
      split <;> omega
    simp only [tiny, if_false, Bool.false_eq_true, size]
    exact dif_pos ⟨low, high⟩

/-! ## Points in time -/

/-- The time of day and the offset behind it are read from their characters. -/
theorem readTime?_written (clock : Clock) (offset : Option Offset) :
    readTime? (clock.text.toList ++ ((offset.map Offset.text).getD "").toList) =
      some (clock, offset.map Offset.reread) := by
  obtain ⟨hour, minute, second, micros⟩ := clock.valid
  have read (followed : Bool) : readUnits? followed 3 none [] clock.text.toList =
      some ⟨clock.hour, clock.minute, clock.second, clock.micros, followed⟩ := by
    rw [Clock.text_toList]
    exact readUnits?_clock (by omega) (by omega) (by omega) (by omega)
  have valid : Clock.ofParts? clock.hour clock.minute clock.second clock.micros = some clock :=
    dif_pos clock.valid
  have unmarked : ∀ c ∈ clock.text.toList, (!isOffsetMark c) = true := by
    rw [Clock.text_toList]
    exact forall_mem_clockChars (by decide) (by decide) (by decide) _ _ _ _
  have cut (rest : List Char) (start : ∀ c ∈ rest.head?, isOffsetMark c = true) :
      (clock.text.toList ++ rest).takeWhile (fun c => !isOffsetMark c) = clock.text.toList ∧
        (clock.text.toList ++ rest).dropWhile (fun c => !isOffsetMark c) = rest := by
    rw [List.takeWhile_append_of_pos unmarked, List.dropWhile_append_of_pos unmarked]
    cases rest with
    | nil => simp
    | cons c rest => simp [start c rfl]
  cases offset with
  | none =>
    obtain ⟨front, mark⟩ := cut [] (by simp)
    have nothing : ((none.map Offset.text).getD "").toList = [] := rfl
    rw [nothing, readTime?, front, mark, read]
    simp [valid]
  | some offset =>
    obtain ⟨sign, chars, marked, no_letter, minus⟩ : ∃ sign,
        (((some offset).map Offset.text).getD "").toList =
          sign :: offsetChars offset.micros.natAbs ∧
        isOffsetMark sign = true ∧ sign ≠ 'Z' ∧ (sign == '-') = decide (offset.micros < 0) := by
      refine ⟨_, offset.text_toList, ?_⟩
      split <;> simp [*, isOffsetMark]
    obtain ⟨front, mark⟩ := cut (sign :: offsetChars offset.micros.natAbs) (by simp [marked])
    rw [chars, readTime?, front, mark, read]
    simp only [valid]
    rw [minus, readOffset?_offsetChars]
    rfl

theorem Timestamp.isoText_toList (t : Timestamp) : t.isoText.toList =
    t.date.text.toList ++ 'T' :: (t.clock.text.toList ++
      ((t.offset.map Offset.text).getD "").toList) := by
  simp [isoText, textWith]

/-- What holds of digits and of the marks between them holds of the text of a point in time. -/
theorem Timestamp.forall_mem_isoText {p : Char → Prop} (digit : ∀ d : Fin 10, p (Nat.digitChar d))
    (hyphen : p '-') (letter : p 'T') (colon : p ':') (point : p '.') (plus : p '+')
    (t : Timestamp) : ∀ c ∈ t.isoText.toList, p c := by
  have digits := forall_mem_fixedDigits digit
  have clock := forall_mem_clockChars digit colon point
  have offset (offset : Offset) : ∀ c ∈ offset.text.toList, p c := by
    rw [Offset.text_toList, List.forall_mem_cons, offsetChars]
    constructor
    · split
      · exact hyphen
      · exact plus
    · split
      · rw [List.forall_mem_append, List.forall_mem_cons]
        exact ⟨digits 2 _, colon, digits 2 _⟩
      · exact clock _ _ _ _
  rw [isoText_toList, List.forall_mem_append, List.forall_mem_cons, List.forall_mem_append,
    Clock.text_toList]
  refine ⟨t.date.forall_mem_text digit hyphen, letter, clock _ _ _ _, ?_⟩
  cases t.offset with
  | none => exact nofun
  | some o => exact offset o

theorem Timestamp.trimmed_isoText (t : Timestamp) : trimmed t.isoText.toList = t.isoText.toList :=
  stripped_eq_self (t.forall_mem_isoText (by decide +kernel) (by decide +kernel)
    (by decide +kernel) (by decide +kernel) (by decide +kernel) (by decide +kernel))

theorem Timestamp.orUniversal_eq_self {t : Timestamp} (h : t.offset.isSome = true) :
    t.orUniversal = t := by
  obtain ⟨date, clock, offset⟩ := t
  cases offset with
  | none => cases h
  | some offset => rfl

/-- The point in time that is read from the text of one. -/
def Timestamp.reread (t : Timestamp) : Timestamp := { t with offset := t.offset.map Offset.reread }

/-- A point in time is read back from its text. -/
theorem Timestamp.read?_isoText (t : Timestamp) : read? t.isoText.toList = some t.reread := by
  rw [isoText_toList]
  exact read?_time t.date.isDateShaped_text t.date.read_text 'T' (readTime?_written _ _)

end RecordListing
