import SIUnits.Log.Record

/-! Computations that keep a log and may fail. The records written before a failure stay. -/
namespace SIUnits

structure Traced (ε α : Type) where
  records : List Log.Record
  result : Except ε α

namespace Traced

variable {ε α β : Type}

def bind (x : Traced ε α) (f : α → Traced ε β) : Traced ε β :=
  match x.result with
  | .ok a => ⟨x.records ++ (f a).records, (f a).result⟩
  | .error e => ⟨x.records, .error e⟩

instance : Monad (Traced ε) where
  pure a := ⟨[], .ok a⟩
  bind := bind

def fail (e : ε) : Traced ε α := ⟨[], .error e⟩

def log (level : Log.Level) (source : Log.Source) (message : String) : Traced ε Unit :=
  ⟨[⟨level, source, message⟩], .ok ()⟩

theorem ext {x y : Traced ε α} (hr : x.records = y.records) (he : x.result = y.result) :
    x = y := by
  cases x; cases y; cases hr; cases he; rfl

theorem bind_of_ok {x : Traced ε α} {a : α} (h : x.result = .ok a) (f : α → Traced ε β) :
    x >>= f = ⟨x.records ++ (f a).records, (f a).result⟩ := by
  change bind x f = _
  simp [bind, h]

theorem bind_of_error {x : Traced ε α} {e : ε} (h : x.result = .error e) (f : α → Traced ε β) :
    x >>= f = ⟨x.records, .error e⟩ := by
  change bind x f = _
  simp [bind, h]

@[simp] theorem result_pure (a : α) : (pure a : Traced ε α).result = .ok a := rfl

@[simp] theorem result_fail (e : ε) : (fail e : Traced ε α).result = .error e := rfl

@[simp] theorem result_log (level : Log.Level) (source : Log.Source) (message : String) :
    (log level source message : Traced ε Unit).result = .ok () := rfl

/-- A computation goes on with what the one before it gave. -/
@[simp] theorem result_bind (x : Traced ε α) (f : α → Traced ε β) :
    (x >>= f).result = match x.result with
      | .ok a => (f a).result
      | .error e => .error e := by
  cases h : x.result with
  | ok a => rw [bind_of_ok h]
  | error e => rw [bind_of_error h]

@[simp] theorem records_pure (a : α) : (pure a : Traced ε α).records = [] := rfl

@[simp] theorem records_fail (e : ε) : (fail e : Traced ε α).records = [] := rfl

@[simp] theorem records_log (level : Log.Level) (source : Log.Source) (message : String) :
    (log level source message : Traced ε Unit).records = [⟨level, source, message⟩] := rfl

/-- What comes later writes its records only if it comes to that. -/
@[simp] theorem records_bind (x : Traced ε α) (f : α → Traced ε β) :
    (x >>= f).records = match x.result with
      | .ok a => x.records ++ (f a).records
      | .error _ => x.records := by
  cases h : x.result with
  | ok a => rw [bind_of_ok h]
  | error e => rw [bind_of_error h]

end Traced

end SIUnits
