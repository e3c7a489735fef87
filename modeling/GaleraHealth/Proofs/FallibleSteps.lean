/-!
# Steps that may fail

A row of steps stops at the first that fails. Here the result of such a row is taken apart into
those of its steps.

* `exists_of_bind_eq_ok`, `exists_bind_eq_ok`, `bind_eq_ok_iff`, `bind_eq_error_iff`: a step and
  what follows it.
* `throw_guard_eq_ok_iff`, `throw_guard_eq_error_iff`: a test that throws and what follows it.
* `ite_ok_eq_ok_iff`, `ite_ok_eq_error_iff`: a test alone.
* `map_eq_ok_iff`, `mapError_eq_ok_iff`, `mapError_eq_error`: a result that is turned into another.
-/

namespace GaleraHealth

section Binds

variable {ε α β : Type} {e : ε}

/-- Two steps succeed exactly when the first does and the second does with its result. -/
theorem exists_of_bind_eq_ok {x : Except ε α} {f : α → Except ε β} {b : β} :
    (x >>= f) = .ok b ↔ ∃ a, x = .ok a ∧ f a = .ok b := by
  cases x with
  | error e =>
    constructor
    · intro h
      cases h
    · intro ⟨a, h, _⟩
      cases h
  | ok a =>
    constructor
    · intro h
      exact ⟨a, rfl, h⟩
    · intro ⟨a', h, hf⟩
      rw [Except.ok.inj h]
      exact hf

theorem exists_bind_eq_ok {x : Except ε α} {f : α → Except ε β} :
    (∃ b, (x >>= f) = .ok b) ↔ ∃ a, x = .ok a ∧ ∃ b, f a = .ok b := by
  simp only [exists_of_bind_eq_ok]
  constructor
  · intro ⟨b, a, ha, hb⟩
    exact ⟨a, ha, b, hb⟩
  · intro ⟨a, ha, b, hb⟩
    exact ⟨b, a, ha, hb⟩

variable {f : Unit → Except ε β} {b : β}

/-- A step without a result and what follows it succeed exactly when both do. -/
theorem bind_eq_ok_iff {x : Except ε Unit} :
    (x >>= f) = .ok b ↔ x = .ok () ∧ f () = .ok b := by
  rw [exists_of_bind_eq_ok]
  constructor
  · intro ⟨_, h⟩
    exact h
  · intro h
    exact ⟨(), h⟩

/-- A step and what follows it fail exactly when the step fails, or it succeeds and the rest
fails. -/
theorem bind_eq_error_iff {x : Except ε Unit} :
    (x >>= f) = .error e ↔ x = .error e ∨ x = .ok () ∧ f () = .error e := by
  cases x with
  | error e' =>
    constructor
    · intro h
      cases h
      exact .inl rfl
    · rintro (h | ⟨h, -⟩)
      · cases h
        rfl
      · cases h
  | ok u =>
    constructor
    · intro h
      exact .inr ⟨rfl, h⟩
    · rintro (h | ⟨-, h⟩)
      · cases h
      · exact h

/-- A test that throws and what follows it succeed exactly when the test fails and the rest
succeeds. -/
theorem throw_guard_eq_ok_iff {t : Bool} {x : Except ε β} :
    (if t = true then throw e >>= f else x) = .ok b ↔ t = false ∧ x = .ok b := by
  cases t with
  | true =>
    constructor
    · intro h
      cases h
    · rintro ⟨h, -⟩
      cases h
  | false => exact ⟨fun h => ⟨rfl, h⟩, fun h => h.2⟩

/-- A test that throws and what follows it fail with the fault of the test if it holds, and with
that of the rest if it does not. -/
theorem throw_guard_eq_error_iff {t : Bool} {e' : ε} {x : Except ε β} :
    (if t = true then throw e >>= f else x) = .error e' ↔
      t = true ∧ e = e' ∨ t = false ∧ x = .error e' := by
  cases t with
  | true =>
    constructor
    · intro h
      cases h
      exact .inl ⟨rfl, rfl⟩
    · rintro (⟨-, rfl⟩ | ⟨h, -⟩)
      · rfl
      · cases h
  | false =>
    constructor
    · intro h
      exact .inr ⟨rfl, h⟩
    · rintro (⟨h, -⟩ | ⟨-, h⟩)
      · cases h
      · exact h

theorem ite_ok_eq_ok_iff {P : Prop} [Decidable P] :
    (if P then .ok () else .error e : Except ε Unit) = .ok () ↔ P := by
  by_cases h : P <;> simp [h]

theorem ite_ok_eq_error_iff {P : Prop} [Decidable P] {e' : ε} :
    (if P then .ok () else .error e : Except ε Unit) = .error e' ↔ ¬ P ∧ e = e' := by
  by_cases h : P <;> simp [h]

end Binds

section Maps

variable {ε δ α β : Type}

theorem map_eq_ok_iff {f : α → β} {x : Except ε α} {b : β} :
    x.map f = .ok b ↔ ∃ a, x = .ok a ∧ f a = b := by
  cases x with
  | error e =>
    constructor
    · intro h
      cases h
    · intro ⟨a, h, _⟩
      cases h
  | ok a =>
    constructor
    · intro h
      exact ⟨a, rfl, Except.ok.inj h⟩
    · intro ⟨a', h, hb⟩
      rw [← hb, ← Except.ok.inj h]
      rfl

theorem mapError_eq_ok_iff {g : ε → δ} {x : Except ε α} {a : α} :
    x.mapError g = .ok a ↔ x = .ok a := by
  cases x with
  | error e =>
    constructor
    · intro h
      cases h
    · intro h
      cases h
  | ok a' =>
    constructor
    · intro h
      rw [Except.ok.inj h]
    · intro h
      rw [Except.ok.inj h]
      rfl

theorem mapError_eq_error {g : ε → δ} {x : Except ε α} {e : δ} (h : x.mapError g = .error e) :
    ∃ e', x = .error e' ∧ g e' = e := by
  cases x with
  | ok a => cases h
  | error e' => exact ⟨e', rfl, Except.error.inj h⟩

end Maps

end GaleraHealth
