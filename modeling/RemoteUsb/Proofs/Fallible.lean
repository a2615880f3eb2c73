/-! Steps that may fail, done one after the other: the first that fails is the end of them. -/

namespace RemoteUsb

variable {ε α β : Type} {x : Except ε α} {next : α → Except ε β}

theorem bind_eq_ok {b : β} : x >>= next = .ok b ↔ ∃ a, x = .ok a ∧ next a = .ok b := by
  cases x <;> simp [bind, Except.bind]

theorem bind_eq_error {e : ε} :
    x >>= next = .error e ↔ x = .error e ∨ ∃ a, x = .ok a ∧ next a = .error e := by
  cases x <;> simp [bind, Except.bind]

end RemoteUsb
