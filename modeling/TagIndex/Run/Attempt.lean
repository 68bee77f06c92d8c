import TagIndex.Error
import TagIndex.Run.Event

/-! Work that keeps a log and may fail. -/

namespace TagIndex

structure Attempt (α : Type) where
  log : List Event
  result : Except Error α
deriving Inhabited

namespace Attempt

def andThen {α β : Type} (a : Attempt α) (f : α → Attempt β) : Attempt β :=
  match a.result with
  | .ok x => ⟨a.log ++ (f x).log, (f x).result⟩
  | .error e => ⟨a.log, .error e⟩

instance : Monad Attempt where
  pure x := ⟨[], .ok x⟩
  bind := andThen

def note (event : Event) : Attempt Unit := ⟨[event], .ok ()⟩

def ofExcept {α : Type} (result : Except Error α) : Attempt α := ⟨[], result⟩

variable {α β : Type}

@[simp] theorem result_pure (x : α) : (pure x : Attempt α).result = .ok x := rfl

@[simp] theorem result_note (event : Event) : (note event).result = .ok () := rfl

@[simp] theorem result_ofExcept (result : Except Error α) : (ofExcept result).result = result := rfl

@[simp] theorem result_bind (a : Attempt α) (f : α → Attempt β) :
    (a >>= f).result = a.result >>= fun x => (f x).result := by
  change (andThen a f).result = _
  unfold andThen
  cases a.result <;> rfl

theorem bind_of_ok {a : Attempt α} {x : α} (h : a.result = .ok x) (f : α → Attempt β) :
    a >>= f = ⟨a.log ++ (f x).log, (f x).result⟩ := by
  change andThen a f = _
  rw [andThen, h]

theorem bind_of_error {a : Attempt α} {e : Error} (h : a.result = .error e) (f : α → Attempt β) :
    a >>= f = ⟨a.log, .error e⟩ := by
  change andThen a f = _
  rw [andThen, h]

theorem log_bind_pure (a : Attempt α) (f : α → β) : (a >>= fun x => pure (f x)).log = a.log := by
  cases h : a.result with
  | ok x =>
    rw [bind_of_ok h]
    exact List.append_nil _
  | error e => rw [bind_of_error h]

end Attempt
end TagIndex
