/-!
# Steps that may fail

When a computation in `Except` succeeds, so did each of its steps. An error that is another one put
differently comes from that one.
-/

namespace Except

variable {ε ε' α β : Type}

/-- Two steps succeed if the first one does and the second one does with its result. -/
theorem bind_eq_ok {x : Except ε α} {f : α → Except ε β} {b : β} :
    x >>= f = .ok b ↔ ∃ a, x = .ok a ∧ f a = .ok b := by
  cases x with
  | error e => simp [bind, Except.bind]
  | ok a => simp [bind, Except.bind]

theorem map_eq_ok {x : Except ε α} {f : α → β} {b : β} :
    x.map f = .ok b ↔ ∃ a, x = .ok a ∧ f a = b := by
  cases x with
  | error e => simp [Except.map]
  | ok a => simp [Except.map]

/-- To change the error leaves the results alone. -/
theorem mapError_eq_ok {x : Except ε α} {f : ε → ε'} {a : α} :
    x.mapError f = .ok a ↔ x = .ok a := by
  cases x with
  | error e =>
    constructor
    · intro h
      cases h
    · intro h
      cases h
  | ok b =>
    constructor
    · intro h
      cases h
      rfl
    · intro h
      cases h
      rfl

theorem mapError_eq_error {x : Except ε α} {f : ε → ε'} {e' : ε'} :
    x.mapError f = .error e' ↔ ∃ e, x = .error e ∧ f e = e' := by
  cases x with
  | error e =>
    constructor
    · intro h
      cases h
      exact ⟨e, rfl, rfl⟩
    · rintro ⟨e, ⟨⟩, rfl⟩
      rfl
  | ok a =>
    constructor
    · intro h
      cases h
    · rintro ⟨e, ⟨⟩, -⟩

/-- What is read from a list, where each element says by itself what it was read from. -/
theorem mapM_eq_ok_iff {f : α → Except ε β} {g : β → α} {p : β → Prop}
    (hf : ∀ {x y}, f x = .ok y ↔ x = g y ∧ p y) {xs : List α} {ys : List β} :
    xs.mapM f = .ok ys ↔ xs = ys.map g ∧ ∀ y ∈ ys, p y := by
  induction xs generalizing ys with
  | nil => cases ys <;> simp [pure, Except.pure]
  | cons x xs ih =>
    rw [List.mapM_cons]
    constructor
    · intro h
      obtain ⟨y, hy, h⟩ := bind_eq_ok.mp h
      obtain ⟨rest, hrest, h⟩ := bind_eq_ok.mp h
      cases h
      obtain ⟨hx, hy⟩ := hf.mp hy
      obtain ⟨hxs, hrest⟩ := ih.mp hrest
      exact ⟨by rw [hx, hxs, List.map_cons], List.forall_mem_cons.mpr ⟨hy, hrest⟩⟩
    · rintro ⟨hxs, hp⟩
      cases ys with
      | nil => cases hxs
      | cons y rest =>
        obtain ⟨hx, hxs⟩ := List.cons.inj hxs
        obtain ⟨hy, hrest⟩ := List.forall_mem_cons.mp hp
        rw [hf.mpr ⟨hx, hy⟩, ih.mpr ⟨hxs, hrest⟩]
        rfl

theorem throw_ne_ok {e : ε} {a : α} : (throw e : Except ε α) ≠ .ok a := by
  intro h
  cases h

theorem toOption_eq_some_iff {x : Except ε α} {a : α} : x.toOption = some a ↔ x = .ok a := by
  cases x with
  | error e => simp [Except.toOption]
  | ok b => simp [Except.toOption]

/-- The error of a computation that fails. -/
def error? : Except ε α → Option ε
  | .error e => some e
  | .ok _ => none

theorem error?_eq_some_iff {x : Except ε α} {e : ε} : x.error? = some e ↔ x = .error e := by
  cases x with
  | error e' => simp [error?]
  | ok a => simp [error?]

/-- There is no error where there is a result. -/
theorem error?_eq_none_iff {x : Except ε α} : x.error? = none ↔ ∃ a, x = .ok a := by
  cases x with
  | error e => simp [error?]
  | ok a => simp [error?]

/-- Of two steps in a row, the first that fails has the error. -/
theorem error?_bind {x : Except ε Unit} {y : Unit → Except ε α} :
    (x >>= y).error? = x.error?.or (y ()).error? := by
  cases x with
  | error e => rfl
  | ok a => rfl

theorem error?_map {x : Except ε α} {f : α → β} : (x.map f).error? = x.error? := by
  cases x with
  | error e => rfl
  | ok a => rfl

theorem error?_mapError {x : Except ε α} {f : ε → ε'} :
    (x.mapError f).error? = x.error?.map f := by
  cases x with
  | error e => rfl
  | ok a => rfl

end Except
