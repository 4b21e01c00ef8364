set_option autoImplicit false

/-! # Checks

Operations of contracts are rows of checks followed by writes. `require` is a single check; the
lemmas say when a row of steps succeeds. -/

namespace Stablecoin

variable {ε ε' α β : Type}

/-- Passes when `p` holds and fails with `e` otherwise. -/
def require (p : Prop) [Decidable p] (e : ε) : Except ε Unit :=
  if p then .ok () else .error e

@[simp] theorem require_eq_ok_iff {p : Prop} [Decidable p] {e : ε} {u : Unit} :
    require p e = .ok u ↔ p := by
  unfold require
  split <;> simp_all

@[simp] theorem require_eq_error_iff {p : Prop} [Decidable p] {e e' : ε} :
    require p e = .error e' ↔ ¬ p ∧ e = e' := by
  unfold require
  split <;> simp_all

theorem require_of {p : Prop} [Decidable p] (e : ε) (h : p) : require p e = .ok () :=
  require_eq_ok_iff.2 h

/-- Whether a step succeeds with a value can be told, whatever the errors are. -/
instance decidableEqOk [DecidableEq α] (x : Except ε α) (a : α) : Decidable (x = .ok a) :=
  match x with
  | .ok b => decidable_of_iff (b = a) ⟨congrArg _, Except.ok.inj⟩
  | .error _ => isFalse nofun

/-- Two steps in a row succeed when the second succeeds on what the first gave. -/
theorem bind_eq_ok_iff {x : Except ε α} {f : α → Except ε β} {b : β} :
    (x >>= f) = .ok b ↔ ∃ a, x = .ok a ∧ f a = .ok b := by
  cases x <;> simp [bind, Except.bind]

/-- Two steps in a row fail when the first fails, or the second on what the first gave. -/
theorem bind_eq_error_iff {x : Except ε α} {f : α → Except ε β} {e : ε} :
    (x >>= f) = .error e ↔ x = .error e ∨ ∃ a, x = .ok a ∧ f a = .error e := by
  cases x <;> simp [bind, Except.bind]

/-- A step that only hands on a value succeeds with that value. -/
@[simp] theorem pure_eq_ok_iff {a b : α} : (pure a : Except ε α) = .ok b ↔ a = b := by
  simp [pure, Except.pure]

/-- Such a step never fails. -/
theorem pure_ne_error {a : α} {e : ε} : (pure a : Except ε α) ≠ .error e := nofun

/-- A step whose value is changed succeeds when the step does. -/
theorem map_eq_ok_iff {x : Except ε α} {f : α → β} {b : β} :
    x.map f = .ok b ↔ ∃ a, x = .ok a ∧ f a = b := by
  cases x <;> simp [Except.map]

/-- It fails when the step does. -/
theorem fmap_eq_error_iff {x : Except ε α} {f : α → β} {e : ε} :
    f <$> x = .error e ↔ x = .error e := by
  cases x <;> simp [Functor.map, Except.map]

@[simp] theorem ok_bind (a : α) (f : α → Except ε β) : (Except.ok a >>= f) = f a := rfl

@[simp] theorem error_bind (e : ε) (f : α → Except ε β) : (Except.error e >>= f) = .error e := rfl

@[simp] theorem mapError_ok (f : ε → ε') (a : α) : (Except.ok a).mapError f = .ok a := rfl

@[simp] theorem mapError_error (f : ε → ε') (e : ε) :
    (Except.error e : Except ε α).mapError f = .error (f e) := rfl

@[simp] theorem mapError_eq_ok_iff {f : ε → ε'} {x : Except ε α} {a : α} :
    x.mapError f = .ok a ↔ x = .ok a := by
  cases x <;> simp

@[simp] theorem mapError_eq_error_iff {f : ε → ε'} {x : Except ε α} {e : ε'} :
    x.mapError f = .error e ↔ ∃ e', x = .error e' ∧ f e' = e := by
  cases x <;> simp

/-- A change of the value and one of the error do not meet. -/
theorem map_mapError {x : Except ε α} {f : α → β} {g : ε → ε'} :
    f <$> x.mapError g = (f <$> x).mapError g := by
  cases x <;> rfl

/-! ## Two results side by side -/

/-- Two steps both succeed, with related values, or both fail for the same reason. -/
inductive InStep {ε α β : Type} (R : α → β → Prop) : Except ε α → Except ε β → Prop where
  | ok {a : α} {b : β} (related : R a b) : InStep R (.ok a) (.ok b)
  | error {e : ε} : InStep R (.error e) (.error e)

namespace InStep

variable {ε α β γ δ : Type} {R : α → β → Prop} {S : γ → δ → Prop}

theorem bind {x : Except ε α} {x' : Except ε β} {f : α → Except ε γ} {g : β → Except ε δ}
    (h : InStep R x x') (later : ∀ a b, R a b → InStep S (f a) (g b)) :
    InStep S (x >>= f) (x' >>= g) := by
  cases h with
  | ok related => exact later _ _ related
  | error => exact .error

/-- The first step may be the same on both sides. -/
theorem bind_same {x : Except ε α} {f : α → Except ε γ} {g : α → Except ε δ}
    (later : ∀ a, InStep S (f a) (g a)) : InStep S (x >>= f) (x >>= g) := by
  cases x with
  | ok a => exact later a
  | error e => exact .error

theorem mapError {ε' : Type} {x : Except ε α} {x' : Except ε β} (f : ε → ε') (h : InStep R x x') :
    InStep R (x.mapError f) (x'.mapError f) := by
  cases h with
  | ok related => exact .ok related
  | error => exact .error

theorem map {x : Except ε α} {x' : Except ε β} {f : α → γ} {g : β → δ} (h : InStep R x x')
    (later : ∀ a b, R a b → S (f a) (g b)) : InStep S (x.map f) (x'.map g) := by
  cases h with
  | ok related => exact .ok (later _ _ related)
  | error => exact .error

theorem mono {S : α → β → Prop} {x : Except ε α} {x' : Except ε β} (h : InStep R x x')
    (weaker : ∀ a b, R a b → S a b) : InStep S x x' := by
  cases h with
  | ok related => exact .ok (weaker _ _ related)
  | error => exact .error

/-- What is known of the first value may be added. -/
theorem and {P : α → Prop} {x : Except ε α} {x' : Except ε β} (h : InStep R x x')
    (known : ∀ a, x = .ok a → P a) : InStep (fun a b => P a ∧ R a b) x x' := by
  cases h with
  | ok related => exact .ok ⟨known _ rfl, related⟩
  | error => exact .error

/-- A step is in step with itself, -/
theorem same {R : α → α → Prop} (x : Except ε α) (refl : ∀ a, R a a) : InStep R x x := by
  cases x with
  | ok a => exact .ok (refl a)
  | error e => exact .error

/-- and with itself when its value is changed. -/
theorem fmap_right {R : α → β → Prop} (x : Except ε α) {f : α → β} (h : ∀ a, R a (f a)) :
    InStep R x (f <$> x) := by
  cases x with
  | ok a => exact .ok (h a)
  | error e => exact .error

/-- Of values that are related by what they have in common, that is the same on both sides. -/
theorem fmap_eq {f : α → γ} {g : β → γ} {x : Except ε α} {x' : Except ε β}
    (h : InStep R x x') (same : ∀ a b, R a b → g b = f a) : g <$> x' = f <$> x := by
  cases h with
  | ok related => exact congrArg Except.ok (same _ _ related)
  | error => rfl

end InStep

end Stablecoin
