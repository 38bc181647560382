import Mathlib.Data.List.Forall2
import RecordListing.Failure

/-!
# Outcomes taken apart

What it takes for a chain of steps that may fail to succeed or to fail, what it comes to either way
(`Ends`), and what two such chains have in common if both succeed (`Agree`).
-/

set_option autoImplicit false

namespace RecordListing.Outcome

variable {ε α β : Type}

@[simp] theorem pure_eq (a : α) : (pure a : Except ε α) = .ok a := rfl

@[simp] theorem ok_bind (a : α) (f : α → Except ε β) : (Except.ok a >>= f) = f a := rfl

@[simp] theorem error_bind (e : ε) (f : α → Except ε β) : (Except.error e >>= f) = .error e := rfl

@[simp] theorem map_ok (f : α → β) (a : α) : (Except.ok a : Except ε α).map f = .ok (f a) := rfl

@[simp] theorem map_error (f : α → β) (e : ε) :
    (Except.error e : Except ε α).map f = .error e := rfl

theorem bind_eq_ok_iff {x : Except ε α} {f : α → Except ε β} {b : β} :
    (x >>= f) = .ok b ↔ ∃ a, x = .ok a ∧ f a = .ok b := by
  cases x <;> simp

theorem map_eq_ok_iff {x : Except ε α} {f : α → β} {b : β} :
    x.map f = .ok b ↔ ∃ a, x = .ok a ∧ f a = b := by
  cases x <;> simp

theorem exists_map_eq_ok_iff {x : Except ε α} {f : α → β} :
    (∃ b, x.map f = .ok b) ↔ ∃ a, x = .ok a := by
  cases x <;> simp

theorem map_eq_error_iff {x : Except ε α} {f : α → β} {e : ε} :
    x.map f = .error e ↔ x = .error e := by
  cases x <;> simp

theorem eq_ok_of_toBool {x : Except ε Unit} (h : x.toBool = true) : x = .ok () := by
  cases x with
  | error e => cases h
  | ok u => rfl

theorem forM_eq_ok_iff {f : α → Except ε Unit} {items : List α} :
    items.forM f = .ok () ↔ ∀ item ∈ items, f item = .ok () := by
  induction items with
  | nil => simp
  | cons item items ih =>
    have step : (item :: items).forM f = (f item >>= fun _ => items.forM f) := rfl
    rw [step, bind_eq_ok_iff, List.forall_mem_cons, ih]
    exact ⟨fun ⟨_, first, rest⟩ => ⟨first, rest⟩, fun ⟨first, rest⟩ => ⟨(), first, rest⟩⟩

/-- A step taken for each item comes to the results of all of them, if each has one. -/
theorem mapM_eq_ok_iff {f : α → Except ε β} (missing : β) {items : List α} {results : List β} :
    items.mapM f = .ok results ↔
      (∀ item ∈ items, ∃ result, f item = .ok result) ∧
        results = items.map fun item => (f item).toOption.getD missing := by
  induction items generalizing results with
  | nil => simp [eq_comm]
  | cons item items ih =>
    simp only [List.mapM_cons, bind_eq_ok_iff, pure_eq, ih, List.forall_mem_cons, List.map_cons]
    constructor
    · rintro ⟨result, hr, rest, ⟨each, rfl⟩, h⟩
      cases h
      exact ⟨⟨⟨result, hr⟩, each⟩, by rw [hr]; rfl⟩
    · rintro ⟨⟨⟨result, hr⟩, each⟩, rfl⟩
      exact ⟨result, hr, _, ⟨each, rfl⟩, by rw [hr]; rfl⟩

theorem mapM_eq_map {f : α → Except ε β} {g : α → β} {items : List α}
    (h : ∀ item ∈ items, f item = .ok (g item)) : items.mapM f = .ok (items.map g) := by
  induction items with
  | nil => rfl
  | cons item items ih =>
    have rest := ih fun i hi => h i (List.mem_cons_of_mem _ hi)
    simp only [List.mapM_cons, h item List.mem_cons_self, rest, ok_bind, pure_eq, List.map_cons]

theorem mapM_congr {f g : α → Except ε β} {items : List α}
    (h : ∀ item ∈ items, f item = g item) : items.mapM f = items.mapM g := by
  induction items with
  | nil => rfl
  | cons item items ih =>
    rw [List.mapM_cons, List.mapM_cons, h item List.mem_cons_self,
      ih fun i hi => h i (List.mem_cons_of_mem _ hi)]

theorem mapM_eq_ok_iff_forall₂ {f : α → Except ε β} {items : List α}
    {results : List β} :
    items.mapM f = .ok results ↔
      List.Forall₂ (fun item result => f item = .ok result) items results := by
  induction items generalizing results with
  | nil => simp [eq_comm]
  | cons item items ih =>
    simp only [List.mapM_cons, bind_eq_ok_iff, pure_eq, ih, List.forall₂_cons_left_iff]
    constructor
    · rintro ⟨first, hf, rest, hr, h⟩
      cases h
      exact ⟨first, rest, hf, hr, rfl⟩
    · rintro ⟨first, rest, hf, hr, rfl⟩
      exact ⟨first, hf, rest, hr, rfl⟩

theorem exists_mapM_eq_ok_iff {f : α → Except ε β} {items : List α} :
    (∃ results, items.mapM f = .ok results) ↔ ∀ item ∈ items, ∃ result, f item = .ok result := by
  induction items with
  | nil => simp
  | cons item items ih =>
    simp only [List.mapM_cons, bind_eq_ok_iff, pure_eq, List.forall_mem_cons, ← ih]
    constructor
    · rintro ⟨_, first, hf, rest, hr, -⟩
      exact ⟨⟨first, hf⟩, rest, hr⟩
    · rintro ⟨⟨first, hf⟩, rest, hr⟩
      exact ⟨_, first, hf, rest, hr, rfl⟩

/-- A step that may come to nothing, taken for each item, comes to something if it does each
time. -/
theorem mapM_eq_some_iff {f : α → Option β} {items : List α} {results : List β} :
    items.mapM f = some results ↔
      List.Forall₂ (fun item result => f item = some result) items results := by
  induction items generalizing results with
  | nil => simp [eq_comm]
  | cons item items ih =>
    simp only [List.mapM_cons, Option.bind_eq_bind, Option.bind_eq_some_iff, Option.pure_def,
      Option.some.injEq, ih, List.forall₂_cons_left_iff]
    constructor
    · rintro ⟨first, hf, rest, hr, rfl⟩
      exact ⟨first, rest, hf, hr, rfl⟩
    · rintro ⟨first, rest, hf, hr, rfl⟩
      exact ⟨first, hf, rest, hr, rfl⟩

theorem exists_mapM_eq_some_iff {f : α → Option β} {items : List α} :
    (∃ results, items.mapM f = some results) ↔ ∀ item ∈ items, (f item).isSome = true := by
  simp only [mapM_eq_some_iff]
  induction items with
  | nil => simp
  | cons item items ih =>
    rw [List.forall_mem_cons, ← ih, Option.isSome_iff_exists]
    constructor
    · rintro ⟨_, hr⟩
      cases hr with
      | cons first rest => exact ⟨⟨_, first⟩, _, rest⟩
    · rintro ⟨⟨_, first⟩, _, rest⟩
      exact ⟨_, .cons first rest⟩

/-- A test of a result is passed by a result that there is. -/
theorem exists_ok_of_any {x : Except ε α} {test : α → Bool} (h : x.toOption.any test = true) :
    ∃ a, x = .ok a ∧ test a = true := by
  cases x with
  | error e => cases h
  | ok a => exact ⟨a, rfl, h⟩

/-! ## What an outcome comes to -/

/-- Whether an outcome is a good result, or else an allowed failure. -/
def Ends (allowed : ε → Prop) (good : α → Prop) : Except ε α → Prop
  | .ok a => good a
  | .error e => allowed e

namespace Ends

variable {allowed : ε → Prop} {good : α → Prop} {fine : β → Prop}

theorem error {x : Except ε α} (h : Ends allowed good x) {e : ε} (he : x = .error e) :
    allowed e := by
  subst he
  exact h

theorem ok {x : Except ε α} (h : Ends allowed good x) {a : α} (ha : x = .ok a) : good a := by
  subst ha
  exact h

theorem imp {other : α → Prop} {x : Except ε α} (h : Ends allowed good x)
    (hg : ∀ a, good a → other a) : Ends allowed other x := by
  cases x with
  | error e => exact h
  | ok a => exact hg a h

theorem bind {x : Except ε α} {f : α → Except ε β} (hx : Ends allowed good x)
    (hf : ∀ a, x = .ok a → good a → Ends allowed fine (f a)) : Ends allowed fine (x >>= f) := by
  cases x with
  | error e => exact hx
  | ok a => exact hf a rfl hx

theorem map {x : Except ε α} {f : α → β} (hx : Ends allowed (fun a => fine (f a)) x) :
    Ends allowed fine (x.map f) := by
  cases x <;> exact hx

theorem mapM {f : α → Except ε β} {items : List α}
    (h : ∀ item ∈ items, Ends allowed fine (f item)) :
    Ends allowed (fun bs => ∀ b ∈ bs, fine b) (items.mapM f) := by
  induction items with
  | nil => exact fun b hb => nomatch hb
  | cons item items ih =>
    rw [List.mapM_cons]
    refine (h item List.mem_cons_self).bind fun b _ hb =>
      (ih fun i hi => h i (List.mem_cons_of_mem _ hi)).bind fun bs _ hbs => ?_
    exact List.forall_mem_cons.2 ⟨hb, hbs⟩

theorem mapM_any {f : α → Except ε β} {items : List α}
    (h : ∀ item ∈ items, Ends allowed (fun _ => True) (f item)) :
    Ends allowed (fun _ => True) (items.mapM f) :=
  (mapM h).imp fun _ _ => trivial

theorem forM {f : α → Except ε Unit} {items : List α}
    (h : ∀ item ∈ items, Ends allowed (fun _ => True) (f item)) :
    Ends allowed (fun _ => True) (items.forM f) := by
  induction items with
  | nil => trivial
  | cons item items ih =>
    have rest := ih fun i hi => h i (List.mem_cons_of_mem _ hi)
    exact (h item List.mem_cons_self).bind fun _ _ _ => rest

/-- What a chain of steps yields is what its last step yields. -/
theorem after {x : Except ε α} {f : α → Except ε β}
    (h : ∀ a, x = .ok a → Ends (fun _ => True) fine (f a)) :
    Ends (fun _ => True) fine (x >>= f) := by
  cases x with
  | error e => trivial
  | ok a => exact h a rfl

end Ends

/-- Whether two outcomes, if both are results, have the same of what `f` keeps of a result. -/
def Agree {γ : Type} (f : α → γ) (x y : Except ε α) : Prop :=
  ∀ a b, x = .ok a → y = .ok b → f a = f b

namespace Agree

variable {γ δ : Type} {f : α → γ} {g : β → δ}

theorem refl (f : α → γ) (x : Except ε α) : Agree f x x := by
  intro a b ha hb
  cases ha.symm.trans hb
  rfl

theorem ok {a b : α} (h : f a = f b) : Agree f (.ok a : Except ε α) (.ok b) := by
  rintro _ _ ⟨⟩ ⟨⟩
  exact h

theorem error_left {e : ε} {y : Except ε α} : Agree f (.error e) y := nofun

theorem error_right {e : ε} {x : Except ε α} : Agree f x (.error e) := nofun

theorem bind {x y : Except ε α} {k l : α → Except ε β} (h : Agree f x y)
    (hk : ∀ a b, x = .ok a → y = .ok b → f a = f b → Agree g (k a) (l b)) :
    Agree g (x >>= k) (y >>= l) := by
  intro c d hc hd
  obtain ⟨a, ha, hc⟩ := bind_eq_ok_iff.1 hc
  obtain ⟨b, hb, hd⟩ := bind_eq_ok_iff.1 hd
  exact hk a b ha hb (h a b ha hb) c d hc hd

theorem map {x y : Except ε α} {k : α → β} (h : Agree (fun a => g (k a)) x y) :
    Agree g (x.map k) (y.map k) := by
  intro c d hc hd
  obtain ⟨a, ha, rfl⟩ := map_eq_ok_iff.1 hc
  obtain ⟨b, hb, rfl⟩ := map_eq_ok_iff.1 hd
  exact h a b ha hb

end Agree

/-- Whether the result of an outcome, if there is one, is good. -/
abbrev Yields (good : α → Prop) (x : Except ε α) : Prop := Ends (fun _ => True) good x

end RecordListing.Outcome
