/-!
# Results of computations

What a computation that may fail has run through, as far as its result tells.
-/

namespace SessionReplay

variable {ε ε' α β : Type}

instance decidableEqExcept [DecidableEq ε] [DecidableEq α] : DecidableEq (Except ε α)
  | .error x, .error y => decidable_of_iff (x = y) ⟨congrArg Except.error, Except.error.inj⟩
  | .ok a, .ok b => decidable_of_iff (a = b) ⟨congrArg Except.ok, Except.ok.inj⟩
  | .error _, .ok _ => isFalse nofun
  | .ok _, .error _ => isFalse nofun

theorem exists_of_bind_eq_ok {x : Except ε α} {f : α → Except ε β} {b : β}
    (h : x >>= f = .ok b) : ∃ a, x = .ok a ∧ f a = .ok b := by
  cases x with
  | error => exact absurd h (by simp [bind, Except.bind])
  | ok a => exact ⟨a, rfl, h⟩

/-- A result does not depend on how faults are wrapped. -/
theorem of_mapError_eq_ok {x : Except ε α} {wrap : ε → ε'} {a : α} (h : x.mapError wrap = .ok a) :
    x = .ok a := by
  cases x with
  | error fault =>
    have hfault : Except.error (wrap fault) = Except.ok a := h
    exact absurd hfault (by simp)
  | ok result => exact congrArg Except.ok (Except.ok.inj h)

/-- Two computations that fail with the same fault, or whose results are related. -/
inductive SameOutcome {α' : Type} (R : α → α' → Prop) : Except ε α → Except ε α' → Prop
  | error (fault : ε) : SameOutcome R (.error fault) (.error fault)
  | ok {a : α} {a' : α'} : R a a' → SameOutcome R (.ok a) (.ok a')

namespace SameOutcome

variable {α' β' : Type} {R : α → α' → Prop} {S : β → β' → Prop}

theorem refl {R : α → α → Prop} (h : ∀ a, R a a) (x : Except ε α) : SameOutcome R x x := by
  cases x with
  | error fault => exact .error fault
  | ok a => exact .ok (h a)

/-- What goes on from related results in the same way has the same outcome. -/
theorem bind {x : Except ε α} {y : Except ε α'} {f : α → Except ε β} {g : α' → Except ε β'}
    (h : SameOutcome R x y) (hfg : ∀ {a a'}, R a a' → SameOutcome S (f a) (g a')) :
    SameOutcome S (x >>= f) (y >>= g) := by
  cases h with
  | error fault => exact .error fault
  | ok hresult => exact hfg hresult

theorem mono {R' : α → α' → Prop} {x : Except ε α} {y : Except ε α'} (h : SameOutcome R x y)
    (himp : ∀ {a a'}, R a a' → R' a a') : SameOutcome R' x y := by
  cases h with
  | error fault => exact .error fault
  | ok hresult => exact .ok (himp hresult)

end SameOutcome

end SessionReplay
