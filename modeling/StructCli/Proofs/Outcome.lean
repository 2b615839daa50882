import StructCli.Report

/-! # Outcomes

The outcome of two computations in a row is the failure of the first that fails, or the value of
the second.
-/

namespace StructCli

section Except

variable {ε α β : Type} {r : Except ε α} {f : α → Except ε β} {e : ε} {b : β}

@[simp] theorem ok_bind (a : α) (f : α → Except ε β) : (Except.ok a >>= f) = f a := rfl

@[simp] theorem error_bind (e : ε) (f : α → Except ε β) :
    (Except.error e >>= f) = .error e := rfl

theorem bind_eq_ok_iff : (r >>= f) = .ok b ↔ ∃ a, r = .ok a ∧ f a = .ok b := by
  cases r <;> simp

theorem bind_eq_error_iff :
    (r >>= f) = .error e ↔ r = .error e ∨ ∃ a, r = .ok a ∧ f a = .error e := by
  cases r <;> simp

end Except

namespace Report

variable {α β : Type}

@[simp] theorem outcome_pure (a : α) : (pure a : Report α).outcome = .ok a := rfl

@[simp] theorem outcome_fail (e : Failure) : (fail e : Report α).outcome = .error e := rfl

@[simp] theorem outcome_note (n : Notice) : (note n).outcome = .ok () := rfl

theorem bind_of_ok {r : Report α} {a : α} (h : r.outcome = .ok a) (f : α → Report β) :
    r >>= f = ⟨r.notices ++ (f a).notices, (f a).outcome⟩ := by
  change Report.bind r f = _
  rw [Report.bind, h]

theorem bind_of_error {r : Report α} {e : Failure} (h : r.outcome = .error e) (f : α → Report β) :
    r >>= f = ⟨r.notices, .error e⟩ := by
  change Report.bind r f = _
  rw [Report.bind, h]

@[simp] theorem outcome_bind (r : Report α) (f : α → Report β) :
    (r >>= f).outcome = r.outcome >>= fun a => (f a).outcome := by
  cases h : r.outcome with
  | error e => rw [bind_of_error h]; rfl
  | ok a => rw [bind_of_ok h]; rfl

instance : LawfulMonad Report := LawfulMonad.mk' Report
  (by
    intro α r
    cases h : r.outcome with
    | ok a => exact (bind_of_ok h _).trans (by simp [← h])
    | error e => exact (bind_of_error h _).trans (by simp [← h]))
  (by
    intro α β a f
    exact bind_of_ok rfl f)
  (by
    intro α β γ r f g
    cases h : r.outcome with
    | error e => rw [bind_of_error h, bind_of_error rfl, bind_of_error h]
    | ok a =>
      rw [bind_of_ok h, bind_of_ok h]
      cases hf : (f a).outcome with
      | error e => rw [bind_of_error rfl, bind_of_error hf]
      | ok b => rw [bind_of_ok rfl, bind_of_ok hf, List.append_assoc])

@[simp] theorem outcome_map (f : α → β) (r : Report α) :
    (f <$> r).outcome = f <$> r.outcome := by
  rw [← bind_pure_comp, outcome_bind]
  cases r.outcome <;> rfl

@[simp] theorem notices_map (f : α → β) (r : Report α) : (f <$> r).notices = r.notices := by
  rw [← bind_pure_comp]
  cases h : r.outcome with
  | error e => rw [bind_of_error h]
  | ok a => rw [bind_of_ok h]; exact List.append_nil _

end Report

end StructCli
