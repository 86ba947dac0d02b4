import HeaderProbe.Outcome
import Mathlib.Data.List.Basic

namespace HeaderProbe.Outcome

variable {α β : Type}

theorem bind_of_ok {o : Outcome α} {a : α} (h : o.value = .ok a) (f : α → Outcome β) :
    o >>= f = ⟨o.output ++ (f a).output, o.log ++ (f a).log, (f a).value⟩ := by
  change Outcome.bind o f = _
  simp only [Outcome.bind, h]

theorem bind_of_error {o : Outcome α} {e : ProbeError} (h : o.value = .error e)
    (f : α → Outcome β) : o >>= f = ⟨o.output, o.log, .error e⟩ := by
  change Outcome.bind o f = _
  simp only [Outcome.bind, h]

theorem value_bind (o : Outcome α) (f : α → Outcome β) :
    (o >>= f).value = o.value.bind fun a => (f a).value := by
  cases h : o.value with
  | ok a => rw [bind_of_ok h]; rfl
  | error e => rw [bind_of_error h]; rfl

theorem bind_congr {o : Outcome α} {f g : α → Outcome β} (h : ∀ a, o.value = .ok a → f a = g a) :
    o >>= f = o >>= g := by
  cases hv : o.value with
  | ok a => rw [bind_of_ok hv, bind_of_ok hv, h a hv]
  | error e => rw [bind_of_error hv, bind_of_error hv]

theorem eq_ok_of_toOption {ε : Type} {r : Except ε α} {a : α} (h : r.toOption = some a) :
    r = .ok a := by
  cases r with
  | error e => cases h
  | ok b =>
    cases h
    rfl

theorem exists_ok_of_any {ε : Type} {r : Except ε α} {p : α → Bool}
    (h : r.toOption.any p = true) : ∃ a, r = .ok a ∧ p a = true := by
  cases r with
  | error e => cases h
  | ok a => exact ⟨a, rfl, h⟩

@[simp] theorem value_pure (a : α) : (Pure.pure a : Outcome α).value = .ok a :=
  rfl

@[simp] theorem value_ofExcept (r : Except ProbeError α) : (Outcome.ofExcept r).value = r := by
  cases r <;> rfl

@[simp] theorem value_record (l : Level) (m : Text) : (Outcome.record l m).value = .ok () :=
  rfl

theorem output_bind (o : Outcome α) (f : α → Outcome β) :
    (o >>= f).output = o.output ++
      match o.value with
      | .ok a => (f a).output
      | .error _ => [] := by
  cases h : o.value with
  | ok a => rw [bind_of_ok h]
  | error e => rw [bind_of_error h, List.append_nil]

@[simp] theorem output_pure (a : α) : (Pure.pure a : Outcome α).output = [] :=
  rfl

@[simp] theorem output_ofExcept (r : Except ProbeError α) : (Outcome.ofExcept r).output = [] := by
  cases r <;> rfl

@[simp] theorem output_record (l : Level) (m : Text) : (Outcome.record l m).output = [] :=
  rfl

end HeaderProbe.Outcome
