import HeaderProbe.Error
import HeaderProbe.Log

namespace HeaderProbe

structure Outcome (α : Type) where
  output : Text
  log : List LogRecord
  value : Except ProbeError α

namespace Outcome

def pure {α : Type} (a : α) : Outcome α :=
  ⟨[], [], .ok a⟩

def bind {α β : Type} (o : Outcome α) (f : α → Outcome β) : Outcome β :=
  match o.value with
  | .ok a => ⟨o.output ++ (f a).output, o.log ++ (f a).log, (f a).value⟩
  | .error e => ⟨o.output, o.log, .error e⟩

instance : Monad Outcome where
  pure := Outcome.pure
  bind := Outcome.bind

def fail {α : Type} (e : ProbeError) : Outcome α :=
  ⟨[], [], .error e⟩

def write (t : Text) : Outcome Unit :=
  ⟨t, [], .ok ()⟩

def record (level : Level) (message : Text) : Outcome Unit :=
  ⟨[], [⟨level, message⟩], .ok ()⟩

def ofExcept {α : Type} : Except ProbeError α → Outcome α
  | .ok a => pure a
  | .error e => fail e

def error? {α : Type} (o : Outcome α) : Option ProbeError :=
  match o.value with
  | .ok _ => none
  | .error e => some e

end Outcome

end HeaderProbe
