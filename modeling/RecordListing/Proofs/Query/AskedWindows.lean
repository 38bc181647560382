import Mathlib.Data.List.TakeWhile
import RecordListing.Query.Page
import RecordListing.Proofs.Number.Literals

/-!
# Windows that are asked for

The window of a request has the page and the limit that its parameters ask for (`Value.Asks`), and a
parameter that asks for none is refused by its name. This is so exactly where no parameter is
written with more digits than are read (`readWindow_asked_iff`); any other fails in another way
(`page_beyond_digits`).
-/

set_option autoImplicit false

namespace RecordListing

open Outcome Text

/-! ## Whole numbers -/

/-- What may stand behind a whole number: nothing, or a point and zeros. -/
inductive IsZeroFraction : List Char → Prop
  | absent : IsZeroFraction []
  | written (zeros : Nat) : IsZeroFraction ('.' :: List.replicate zeros '0')

/-- A whole number with a sign, digits of these values, and perhaps a fraction of zeros. -/
inductive WritesWhole (negative : Bool) (values : List Nat) : List Char → Prop
  | mk {sign digits fraction : List Char} (signed : IsSign negative sign) (some_digit : digits ≠ [])
      (read : digits.mapM digitValue? = some values) (zeros : IsZeroFraction fraction) :
      WritesWhole negative values (sign ++ (digits ++ fraction))

/-- The number of this sign and these digits. -/
def signedValue (negative : Bool) (values : List Nat) : Int :=
  if negative then -(ofDigitValues values : Int) else ofDigitValues values

section
variable {cs : List Char} {negative : Bool} {values : List Nat}

theorem WritesWhole.read (h : WritesWhole negative values cs) :
    wholeDigits? cs = some (negative, values) := by
  obtain ⟨signed, some_digit, read, zeros⟩ := h
  rename_i sign digits fraction
  have taken : takeSign (sign ++ (digits ++ fraction)) = (negative, digits ++ fraction) :=
    signed.take_digits (isDecimalDigit_of_values read) some_digit
  have stop : ∀ c ∈ fraction.head?, digitValue? c = none := by
    cases zeros with
    | absent => nofun
    | written => rintro _ ⟨⟩; decide
  simp only [wholeDigits?, taken, takeDigits_values read stop]
  cases zeros with
  | absent => simp [values_ne_nil read some_digit]
  | written zeros => simp [values_ne_nil read some_digit]

/-- Digits with a sign are read from the texts that they are written as and from no others. -/
theorem wholeDigits?_eq_some_iff :
    wholeDigits? cs = some (negative, values) ↔ WritesWhole negative values cs := by
  refine ⟨fun h => ?_, WritesWhole.read⟩
  obtain ⟨sign, signed, split⟩ := exists_takeSign cs
  simp only [wholeDigits?] at h
  generalize takeSign cs = taken at signed split h
  obtain ⟨digits, run, read, -⟩ := exists_takeDigits taken.2
  generalize takeDigits taken.2 = found at run read h
  obtain ⟨found, fraction⟩ := found
  obtain ⟨complete, same⟩ := Option.ite_none_left_eq_some.1 h
  cases same
  rw [Bool.or_eq_true, not_or, List.isEmpty_iff] at complete
  obtain ⟨some_value, ends⟩ := complete
  have some_digit : digits ≠ [] := by
    rintro rfl
    rw [List.mapM_nil] at read
    exact some_value (Option.some.inj read).symm
  have zeros : IsZeroFraction fraction := by
    cases fraction with
    | nil => exact .absent
    | cons point zeros =>
      obtain ⟨rfl, all_zeros⟩ : point = '.' ∧ ∀ c ∈ zeros, c = '0' := by simpa using ends
      rw [List.eq_replicate_iff.2 ⟨rfl, all_zeros⟩]
      exact .written _
  rw [split, run]
  exact .mk signed some_digit read zeros

end

/-! ## Parameters -/

namespace Value

/-- Whether a parameter is read from its text: it is there, and is neither a switch nor a number. -/
def isWritten : Value → Bool
  | .null | .bool _ | .int _ => false
  | _ => true

/-- Whether a parameter asks for a number, `usual` being the one that it stands for when it is left
out. -/
inductive Asks (usual : Int) : Value → Int → Prop
  | absent : Asks usual .null usual
  | blank {s : String} (blank : isAllBlank s = true) : Asks usual (.text s) usual
  | number {n : Int} (positive : 1 ≤ n) : Asks usual (.int n) n
  | written {value : Value} {negative : Bool} {values : List Nat} (written : value.isWritten = true)
      (writes : WritesWhole negative values (trimmed value.toText.toList))
      (positive : 1 ≤ signedValue negative values) : Asks usual value (signedValue negative values)

/-- Whether a parameter is a number that is written with more digits than are read. -/
def TooLong (value : Value) : Prop :=
  value.isWritten = true ∧ ∃ negative values,
    WritesWhole negative values (trimmed value.toText.toList) ∧ Crash.digitLimit < values.length

end Value

theorem not_writesWhole_nil {negative : Bool} {values : List Nat} :
    ¬ WritesWhole negative values [] := fun h => nomatch h.read

/-- Nothing is left of blanks. -/
theorem trimmed_blank {s : String} (h : isAllBlank s = true) : trimmed s.toList = [] := by
  have dropped : s.toList.dropWhile isBlank = [] :=
    by
    simpa [isAllBlank] using h
  rw [trimmed, stripped, dropped]
  rfl

section
variable {refused : Refusal} {parameter : String} {value : Value} {cs : List Char}
  {negative : Bool} {values : List Nat}

theorem readPositiveOr_of_writes (h : WritesWhole negative values cs) :
    readPositiveOr refused cs =
      if Crash.digitLimit < values.length then crashWith (.tooManyDigits values.length)
      else positiveOr refused (signedValue negative values) := by
  simp only [readPositiveOr, h.read, signedValue]

theorem readPositiveOr_of_not_writes (h : ∀ negative values, ¬ WritesWhole negative values cs) :
    readPositiveOr refused cs = refuse refused := by
  have unread : wholeDigits? cs = none := by
    cases read : wholeDigits? cs with
    | none => rfl
    | some found => exact absurd (wholeDigits?_eq_some_iff.1 read) (h found.1 found.2)
  rw [readPositiveOr, unread]

/-- A parameter that is written, and not with blanks alone, is read from its text. -/
theorem readPositive?_written (written : value.isWritten = true)
    (not_blank : ∀ s, value = .text s → isAllBlank s = false) :
    readPositive? parameter value =
      readPositiveOr (.invalidPagination parameter value) (trimmed value.toText.toList) := by
  cases value with
  | null => cases written
  | bool b => cases written
  | int n => cases written
  | text s =>
    simp only [readPositive?, not_blank s rfl, Bool.false_eq_true, if_false]
    rfl
  | _ => rfl

theorem not_blank_of_writes (h : WritesWhole negative values (trimmed value.toText.toList)) :
    ∀ s, value = .text s → isAllBlank s = false := by
  rintro s rfl
  rw [Bool.eq_false_iff]
  intro blank
  rw [Value.toText, trimmed_blank blank] at h
  exact not_writesWhole_nil h

theorem readPositive?_tooLong (h : value.TooLong) :
    ∃ count, readPositive? parameter value = crashWith (.tooManyDigits count) := by
  obtain ⟨written, negative, values, writes, long⟩ := h
  rw [readPositive?_written written (not_blank_of_writes writes), readPositiveOr_of_writes writes,
    if_pos long]
  exact ⟨_, rfl⟩

/-- Whether a parameter is read as the number that it asks for, or refused if it asks for none. -/
def ReadsAsAsked (parameter : String) (value : Value) : Prop :=
  (∃ n? : Option { n : Nat // 1 ≤ n }, readPositive? parameter value = .ok n? ∧
    ∀ usual n, value.Asks usual n ↔ n = (n?.map fun n => (n.1 : Int)).getD usual) ∨
  readPositive? parameter value = refuse (.invalidPagination parameter value) ∧
    ∀ usual n, ¬ value.Asks usual n

theorem reads_of_positiveOr {number : Int}
    (read : readPositive? parameter value =
      positiveOr (.invalidPagination parameter value) number)
    (asks : ∀ usual n, value.Asks usual n ↔ 1 ≤ number ∧ n = number) :
    ReadsAsAsked parameter value := by
  unfold positiveOr at read
  split at read
  · rename_i positive
    refine .inl ⟨_, read, fun usual n => ?_⟩
    have same : ((number.toNat : Nat) : Int) = number := Int.toNat_of_nonneg (by omega)
    simp [asks, positive, same]
  · rename_i not_positive
    exact .inr ⟨read, fun usual n h => not_positive ((asks usual n).1 h).1⟩

/-- What a written parameter asks for stands in its text. -/
theorem asks_written_iff (writes : WritesWhole negative values (trimmed value.toText.toList))
    (written : value.isWritten = true) (usual n : Int) :
    value.Asks usual n ↔ 1 ≤ signedValue negative values ∧ n = signedValue negative values := by
  constructor
  · intro asks
    cases asks with
    | absent => cases written
    | blank blank => exact absurd (not_blank_of_writes writes _ rfl) (by simp [blank])
    | number => cases written
    | written _ writes' positive =>
      obtain ⟨rfl, rfl⟩ : _ = negative ∧ _ = values := by
        simpa using writes'.read.symm.trans writes.read
      exact ⟨positive, rfl⟩
  · rintro ⟨positive, rfl⟩
    exact .written written writes positive

/-- A parameter that is not written with too many digits is read as it asks. -/
theorem reads_of_short (short : ¬ value.TooLong) : ReadsAsAsked parameter value := by
  by_cases written : value.isWritten = true
  · by_cases writes : ∃ negative values,
        WritesWhole negative values (trimmed value.toText.toList)
    · obtain ⟨negative, values, writes⟩ := writes
      have fits : ¬ Crash.digitLimit < values.length :=
        fun long => short ⟨written, negative, values, writes, long⟩
      refine reads_of_positiveOr ?_ (asks_written_iff writes written)
      rw [readPositive?_written written (not_blank_of_writes writes),
        readPositiveOr_of_writes writes, if_neg fits]
    · by_cases blank : ∃ s, value = .text s ∧ isAllBlank s = true
      · obtain ⟨s, rfl, blank⟩ := blank
        refine .inl ⟨none, by simp [readPositive?, blank], fun usual n => ⟨?_, ?_⟩⟩
        · rintro (_ | _ | _ | ⟨-, some_digits, -⟩)
          · rfl
          · exact absurd ⟨_, _, some_digits⟩ writes
        · rintro rfl
          exact .blank blank
      · refine .inr ⟨?_, ?_⟩
        · rw [readPositive?_written written fun s hs => by
            simpa using fun all_blank => blank ⟨s, hs, all_blank⟩]
          exact readPositiveOr_of_not_writes fun negative values h => writes ⟨_, _, h⟩
        · rintro usual n (_ | all_blank | _ | ⟨-, some_digits, -⟩)
          · cases written
          · exact blank ⟨_, rfl, all_blank⟩
          · cases written
          · exact writes ⟨_, _, some_digits⟩
  · cases value with
    | null =>
      refine .inl ⟨none, rfl, fun usual n => ⟨?_, ?_⟩⟩
      · rintro (_ | _ | _ | ⟨⟨⟩⟩)
        rfl
      · rintro rfl
        exact .absent
    | bool b => exact .inr ⟨rfl, by rintro usual n (_ | _ | _ | ⟨⟨⟩⟩)⟩
    | int number =>
      refine reads_of_positiveOr rfl fun usual n => ⟨?_, ?_⟩
      · rintro (_ | _ | positive | ⟨⟨⟩⟩)
        exact ⟨positive, rfl⟩
      · rintro ⟨positive, rfl⟩
        exact .number positive
    | _ => exact absurd rfl written

end

/-! ## Windows -/

/-- Whether a request for a window comes to the page and the limit that the two parameters ask for,
or else to the refusal of the first one that asks for none. -/
def WindowAsked (page limit : Value) (usual : Int) (outcome : Outcome Window) : Prop :=
  (∀ p l, page.Asks 1 p → limit.Asks usual l →
    ∃ window, outcome = .ok window ∧ window.page = p ∧ window.limit = l) ∧
  ((∀ p, ¬ page.Asks 1 p) → outcome = refuse (.invalidPagination "page" page)) ∧
  ((∃ p, page.Asks 1 p) → (∀ l, ¬ limit.Asks usual l) →
    outcome = refuse (.invalidPagination "limit" limit))

/-- Whether a window shows a place among the sorted records, counted from zero. -/
def Window.HasPlace (window : Window) (place : Int) : Prop :=
  window.offset ≤ place ∧ place < window.offset + window.limit

section
variable {page limit : Value} {usual : Int}

theorem not_windowAsked_crash {crash : Crash} :
    ¬ WindowAsked page limit usual (crashWith crash) := by
  rintro ⟨shown, no_page, no_limit⟩
  by_cases asks : ∃ p, page.Asks 1 p
  · by_cases asks' : ∃ l, limit.Asks usual l
    · obtain ⟨p, hp⟩ := asks
      obtain ⟨l, hl⟩ := asks'
      obtain ⟨window, h, -⟩ := shown p l hp hl
      cases h
    · cases no_limit asks (not_exists.1 asks')
  · cases no_page (not_exists.1 asks)

theorem readWindow_some (page limit : Value) (usual : Int) :
    readWindow page limit (some usual) = do
      let page? ← readPositive? "page" page
      let limit? ← readPositive? "limit" limit
      let page := page?.getD ⟨1, Nat.le_refl 1⟩
      return ⟨page, (limit?.map fun n => (n.1 : Int)).getD usual, page.2⟩ := by
  simp only [readWindow]
  refine congrArg _ (funext fun page? => congrArg _ (funext fun limit? => ?_))
  cases limit? <;> rfl

theorem windowAsked_iff :
    WindowAsked page limit usual (readWindow page limit (some usual)) ↔
      ¬ page.TooLong ∧ ((∃ p, page.Asks 1 p) → ¬ limit.TooLong) := by
  rw [readWindow_some]
  by_cases long : page.TooLong
  · obtain ⟨count, read⟩ := @readPositive?_tooLong "page" page long
    rw [read]
    exact iff_of_false not_windowAsked_crash fun h => h.1 long
  rcases @reads_of_short "page" page long with ⟨page?, read, asks⟩ | ⟨read, asks⟩
  · have asked : ∃ p, page.Asks 1 p := ⟨_, (asks 1 _).2 rfl⟩
    rw [read, ok_bind]
    by_cases long' : limit.TooLong
    · obtain ⟨count, read'⟩ := @readPositive?_tooLong "limit" limit long'
      rw [read']
      exact iff_of_false not_windowAsked_crash fun h => h.2 asked long'
    · refine iff_of_true ?_ ⟨long, fun _ => long'⟩
      rcases @reads_of_short "limit" limit long' with ⟨limit?, read', asks'⟩ | ⟨read', asks'⟩
      · refine ⟨fun p l hp hl => ?_, fun none_asked => ?_, fun _ none_asked => ?_⟩
        · rw [asks] at hp
          rw [asks'] at hl
          rw [read', hl, hp]
          refine ⟨_, rfl, ?_, rfl⟩
          cases page? <;> rfl
        · exact absurd asked (not_exists.2 none_asked)
        · exact absurd ((asks' usual _).2 rfl) (none_asked _)
      · rw [read']
        exact ⟨fun p l _ hl => absurd hl (asks' usual l),
          fun none_asked => absurd asked (not_exists.2 none_asked), fun _ _ => rfl⟩
  · rw [read]
    refine iff_of_true ⟨fun p l hp => absurd hp (asks 1 p), fun _ => rfl, fun asked => ?_⟩
      ⟨long, fun asked => ?_⟩
    all_goals exact absurd asked (not_exists.2 (asks 1))

end

namespace Window

variable {window next : Window}

theorem offset_eq (window : Window) : window.offset = (window.page - 1 : Int) * window.limit := by
  rw [offset, Int.ofNat_sub window.page_pos, Int.ofNat_one]

/-- The next page begins where the page ends. -/
theorem offset_next (page : next.page = window.page + 1) (limit : next.limit = window.limit) :
    next.offset = window.offset + window.limit := by
  have pages : (next.page : Int) = window.page + 1 := by rw [page, Int.natCast_add, Int.ofNat_one]
  rw [offset_eq, offset_eq, limit, pages, Int.add_sub_cancel, Int.sub_mul, Int.one_mul,
    Int.sub_add_cancel]

/-- A page and the next one show one stretch of the records. -/
theorem cut_append_next {α : Type} (positive : 1 ≤ window.limit)
    (page : next.page = window.page + 1) (limit : next.limit = window.limit) (items : List α) :
    window.cut items ++ next.cut items =
      (items.drop window.offset.toNat).take (2 * window.limit.toNat) := by
  have not_negative : ¬ window.limit < 0 := by omega
  have begins : 0 ≤ window.offset := Int.mul_nonneg (Int.natCast_nonneg _) (by omega)
  have behind : next.offset.toNat = window.offset.toNat + window.limit.toNat := by
    rw [offset_next page limit, Int.toNat_add begins (by omega)]
  simp only [cut, limit, not_negative, if_false, behind, ← List.drop_drop]
  rw [Nat.two_mul, List.take_add]

end Window

/-- A window is as its parameters ask, or the first one that asks for nothing is refused, exactly
where no parameter is written with more digits than are read. A page shows at least one place, and
the next page the places behind it. -/
theorem readWindow_asked_iff {usual : Int} (some_limit : 1 ≤ usual) (page limit : Value) :
    (WindowAsked page limit usual (readWindow page limit (some usual)) ↔
      ¬ page.TooLong ∧ ((∃ p, page.Asks 1 p) → ¬ limit.TooLong)) ∧
    ∀ window, readWindow page limit (some usual) = .ok window →
      1 ≤ window.page ∧ 1 ≤ window.limit ∧
      window.offset = (window.page - 1 : Int) * window.limit ∧
      ∀ next : Window, next.page = window.page + 1 → next.limit = window.limit →
        next.offset = window.offset + window.limit ∧
        (∀ place, window.HasPlace place → ¬ next.HasPlace place) ∧
        ∀ (α : Type) (items : List α), window.cut items ++ next.cut items =
          (items.drop window.offset.toNat).take (2 * window.limit.toNat) := by
  refine ⟨windowAsked_iff, fun window read => ?_⟩
  have positive : 1 ≤ window.limit := by
    simp only [readWindow_some, bind_eq_ok_iff, pure_eq, Except.ok.injEq] at read
    obtain ⟨page?, -, limit?, -, rfl⟩ := read
    cases limit? with
    | none => exact some_limit
    | some n => exact Int.ofNat_le.2 n.2
  refine ⟨window.page_pos, positive, window.offset_eq, fun next page limit => ?_⟩
  have begins := Window.offset_next page limit
  refine ⟨begins, fun place here there => ?_, fun α => Window.cut_append_next positive page limit⟩
  obtain ⟨-, before⟩ := here
  obtain ⟨behind, -⟩ := there
  omega

/-- Digits do not outnumber the characters that they are among. -/
theorem Value.not_tooLong {value : Value}
    (short : (trimmed value.toText.toList).length ≤ Crash.digitLimit) : ¬ value.TooLong := by
  rintro ⟨-, negative, values, writes, long⟩
  generalize trimmed value.toText.toList = cs at short writes
  obtain ⟨signed, some_digit, read, zeros⟩ := writes
  rw [List.length_append, List.length_append, ← length_values read] at short
  omega

theorem readWindow_asked_iff_third :
    (1 : Int) ≤ 10 ∧ readWindow (.text " 3.0 ") (.text "20") (some 10) = .ok ⟨3, 20, by decide⟩ ∧
      WindowAsked (.text " 3.0 ") (.text "20") 10
        (readWindow (.text " 3.0 ") (.text "20") (some 10)) ∧
      ∀ place, Window.HasPlace ⟨3, 20, by decide⟩ place →
        ¬ Window.HasPlace ⟨4, 20, by decide⟩ place := by
  have read : readWindow (.text " 3.0 ") (.text "20") (some 10) = .ok ⟨3, 20, by decide⟩ := by
    obtain ⟨window, read, same⟩ := @exists_ok_of_any _ _
      (readWindow (.text " 3.0 ") (.text "20") (some 10))
      (fun window => window = ⟨3, 20, by decide⟩) (by decide +kernel)
    rw [read, of_decide_eq_true same]
  have asked := readWindow_asked_iff (by decide : (1 : Int) ≤ 10) (.text " 3.0 ") (.text "20")
  obtain ⟨-, -, -, pages⟩ := asked.2 _ read
  refine ⟨by decide, read, asked.1.2 ⟨?_, fun _ => ?_⟩, (pages ⟨4, 20, by decide⟩ rfl rfl).2.1⟩
  · exact Value.not_tooLong (by decide +kernel)
  · exact Value.not_tooLong (by decide +kernel)

/-- A page that is written with zeros in front is not read once its digits are too many. -/
theorem page_beyond_digits :
    ¬ WindowAsked (.text (String.ofList (List.replicate 4300 '0' ++ ['1']))) (.int 10) 10
      (readWindow (.text (String.ofList (List.replicate 4300 '0' ++ ['1']))) (.int 10)
        (some 10)) := by
  intro asked
  have digits : (List.replicate 4300 '0' ++ ['1']).mapM digitValue? =
      some (List.replicate 4300 0 ++ [1]) :=
    mapM_append_values (zeros_values 4300) (by decide)
  have some_digit : List.replicate 4300 '0' ++ ['1'] ≠ [] :=
    List.append_ne_nil_of_right_ne_nil _ (List.cons_ne_nil _ _)
  refine (windowAsked_iff.1 asked).1 ⟨rfl, false, List.replicate 4300 0 ++ [1], ?_, ?_⟩
  · have bare := stripped_eq_self fun c hc =>
      isBlank_of_isDecimalDigit (isDecimalDigit_of_values digits c hc)
    have written := WritesWhole.mk .absent some_digit digits .absent
    rw [List.append_nil, List.nil_append] at written
    rwa [Value.toText, String.toList_ofList, trimmed, bare]
  · rw [List.length_append, List.length_replicate, List.length_singleton]
    decide

end RecordListing
