import Mathlib.Data.List.Forall2
import Mathlib.Logic.Function.Basic

/-!
# Programs that may throw

When a sequence of two programs returns, and a program for each element of a list, and what a program gives after its
result, or its exception, was mapped.
-/

namespace PgDuckdb.Lib

section
variable {ε α β : Type} {x : Except ε α} {b : β}

/-- A result that was mapped is one that there was. -/
theorem map_eq_ok {f : α → β} : x.map f = .ok b ↔ ∃ a, x = .ok a ∧ b = f a := by
  cases x with
  | error e =>
    constructor
    · intro h
      cases h
    · rintro ⟨a, h, -⟩
      cases h
  | ok a =>
    constructor
    · intro h
      cases h
      exact ⟨a, rfl, rfl⟩
    · rintro ⟨a', h, rfl⟩
      cases h
      rfl

/-- A sequence returns where both programs do. -/
theorem bind_eq_ok {f : α → Except ε β} : (x >>= f) = .ok b ↔ ∃ a, x = .ok a ∧ f a = .ok b := by
  cases x with
  | error e =>
    constructor
    · intro h
      cases h
    · rintro ⟨a, h, -⟩
      cases h
  | ok a =>
    constructor
    · intro h
      exact ⟨a, rfl, h⟩
    · rintro ⟨a', h, hb⟩
      cases h
      exact hb

/-- A sequence throws where the first program does, or returns and the second one throws. -/
theorem bind_eq_error {f : α → Except ε β} {e : ε} :
    (x >>= f) = .error e ↔ x = .error e ∨ ∃ a, x = .ok a ∧ f a = .error e := by
  cases x with
  | error e' =>
    constructor
    · intro h
      cases h
      exact .inl rfl
    · rintro (h | ⟨a, h, -⟩)
      · cases h
        rfl
      · cases h
  | ok a =>
    constructor
    · intro h
      exact .inr ⟨a, rfl, h⟩
    · rintro (h | ⟨a', h, he⟩)
      · cases h
      · cases h
        exact he

/-- Both programs have to return. -/
theorem seq_eq_ok {p q : Except ε Unit} : (p >>= fun _ => q) = .ok () ↔ p = .ok () ∧ q = .ok () := by
  rw [bind_eq_ok]
  constructor
  · rintro ⟨_, hp, hq⟩
    exact ⟨hp, hq⟩
  · rintro ⟨hp, hq⟩
    exact ⟨(), hp, hq⟩

/-- A program for each element of a list returns where it does for all of them. -/
theorem mapM_eq_ok {f : α → Except ε β} {l : List α} {bs : List β} :
    l.mapM f = .ok bs ↔ List.Forall₂ (fun a b => f a = .ok b) l bs := by
  induction l generalizing bs with
  | nil =>
    rw [List.mapM_nil, List.forall₂_nil_left_iff]
    exact ⟨fun h => (Except.ok.inj h).symm, fun h => congrArg Except.ok h.symm⟩
  | cons a l ih =>
    rw [List.mapM_cons, bind_eq_ok, List.forall₂_cons_left_iff]
    simp only [bind_eq_ok, ih]
    constructor
    · rintro ⟨b, hb, bs', hbs', heq⟩
      exact ⟨b, bs', hb, hbs', (Except.ok.inj heq).symm⟩
    · rintro ⟨b, bs', hb, hbs', rfl⟩
      exact ⟨b, hb, bs', hbs', rfl⟩

/-- An exception is that of one element. -/
theorem exists_of_mapM_error {f : α → Except ε β} {l : List α} {e : ε} (h : l.mapM f = .error e) :
    ∃ a ∈ l, f a = .error e := by
  induction l with
  | nil =>
    rw [List.mapM_nil] at h
    cases h
  | cons a l ih =>
    rw [List.mapM_cons] at h
    rcases bind_eq_error.1 h with ha | ⟨b, -, h⟩
    · exact ⟨a, List.mem_cons_self, ha⟩
    · rcases bind_eq_error.1 h with hl | ⟨bs, -, h⟩
      · obtain ⟨a', ha', he⟩ := ih hl
        exact ⟨a', List.mem_cons_of_mem _ ha', he⟩
      · cases h

/-- What is related to an element on the right. -/
theorem forall₂_mem_right {α β : Type} {R : α → β → Prop} {l : List α} {l' : List β} {b : β}
    (h : List.Forall₂ R l l') (hb : b ∈ l') : ∃ a, R a b := by
  induction h with
  | nil => cases hb
  | cons hr _ ih =>
    rcases List.mem_cons.1 hb with rfl | hb
    · exact ⟨_, hr⟩
    · exact ih hb

/-- What a list that gives results is made of gives one. -/
theorem exists_ok_of_mapM {f : α → Except ε β} {l : List α} {bs : List β} {a : α} (h : l.mapM f = .ok bs)
    (ha : a ∈ l) : ∃ b, f a = .ok b :=
  forall₂_mem_right (mapM_eq_ok.1 h).flip ha

/-- Results that one function takes for the same are the same to a function that sees no more. -/
theorem map_eq_map {γ : Type} {f : α → β} {g : α → γ} {x y : Except ε α} (h : ∀ a b, g a = g b → f a = f b)
    (hxy : x.map g = y.map g) : x.map f = y.map f := by
  cases x with
  | error e =>
    cases y with
    | error e' =>
      cases hxy
      rfl
    | ok b => cases hxy
  | ok a =>
    cases y with
    | error e' => cases hxy
    | ok b => exact congrArg Except.ok (h a b (Except.ok.inj hxy))

/-- A map that tells values apart tells results apart. -/
theorem map_inj {γ : Type} {F : α → γ} (hF : Function.Injective F) {y : Except ε α} (h : x.map F = y.map F) :
    x = y := by
  cases x with
  | error e =>
    cases y with
    | error e' =>
      cases h
      rfl
    | ok b => cases h
  | ok a =>
    cases y with
    | error e => cases h
    | ok b => exact congrArg Except.ok (hF (Except.ok.inj h))

/-- A map that tells errors apart tells results apart. -/
theorem mapError_inj {ε' : Type} {F : ε → ε'} (hF : Function.Injective F) {y : Except ε α}
    (h : x.mapError F = y.mapError F) : x = y := by
  cases x with
  | error e =>
    cases y with
    | error e' => exact congrArg Except.error (hF (Except.error.inj h))
    | ok b => cases h
  | ok a =>
    cases y with
    | error e => cases h
    | ok b =>
      cases h
      rfl

end

end PgDuckdb.Lib
