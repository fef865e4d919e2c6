/-!
# Traced — results together with what happened on the way

A traced computation has a result, which may be a failure, and the list of the occurrences that led
to it, in order. A computation that follows a failure does not happen.

- `Traced.done`, `Traced.fail`, `Traced.note` : computations without parts;
- `Traced.andThen` : one computation after another;
- `Traced.mapTrace`, `Traced.mapError` : the same computation, seen from outside.
-/

namespace InvocationRouting

structure Traced (ω ε α : Type) where
  trace : List ω
  result : Except ε α

namespace Traced

variable {ω ω' ε ε' α β : Type}

def done (a : α) : Traced ω ε α :=
  ⟨[], .ok a⟩

def fail (e : ε) : Traced ω ε α :=
  ⟨[], .error e⟩

def ofExcept (r : Except ε α) : Traced ω ε α :=
  ⟨[], r⟩

def note (w : ω) : Traced ω ε Unit :=
  ⟨[w], .ok ()⟩

/-- The second computation takes the result of the first, if there is one. -/
def andThen (x : Traced ω ε α) (f : α → Traced ω ε β) : Traced ω ε β :=
  match x.result with
  | .ok a =>
      let y := f a
      ⟨x.trace ++ y.trace, y.result⟩
  | .error e => ⟨x.trace, .error e⟩

def map (f : α → β) (x : Traced ω ε α) : Traced ω ε β :=
  ⟨x.trace, x.result.map f⟩

def mapTrace (f : ω → ω') (x : Traced ω ε α) : Traced ω' ε α :=
  ⟨x.trace.map f, x.result⟩

def mapError (f : ε → ε') (x : Traced ω ε α) : Traced ω ε' α :=
  ⟨x.trace, x.result.mapError f⟩

instance : Monad (Traced ω ε) where
  pure := done
  bind := andThen
  map := map

@[simp] theorem andThen_done (a : α) (f : α → Traced ω ε β) : (done a).andThen f = f a := by
  simp [done, andThen]

@[simp] theorem andThen_fail (e : ε) (f : α → Traced ω ε β) :
    (fail e : Traced ω ε α).andThen f = fail e := rfl

@[simp] theorem done_andThen (x : Traced ω ε α) : x.andThen done = x := by
  rcases x with ⟨trace, result | result⟩ <;> simp [andThen, done]

theorem andThen_of_error {x : Traced ω ε α} {e : ε} (h : x.result = .error e)
    (f : α → Traced ω ε β) : x.andThen f = ⟨x.trace, .error e⟩ := by
  simp only [andThen, h]

theorem andThen_of_ok {x : Traced ω ε α} {a : α} (h : x.result = .ok a) (f : α → Traced ω ε β) :
    x.andThen f = ⟨x.trace ++ (f a).trace, (f a).result⟩ := by
  simp only [andThen, h]

/-- What has occurred stays, whatever follows. -/
theorem trace_prefix_andThen (x : Traced ω ε α) (f : α → Traced ω ε β) :
    x.trace <+: (x.andThen f).trace := by
  rcases x with ⟨trace, e | a⟩
  · exact List.prefix_rfl
  · exact List.prefix_append _ _

theorem map_eq_andThen (x : Traced ω ε α) (f : α → β) :
    x.map f = x.andThen fun a => done (f a) := by
  rcases x with ⟨trace, e | a⟩
  · rfl
  · simp [map, andThen, done, Except.map]

theorem andThen_assoc {γ : Type} (x : Traced ω ε α) (f : α → Traced ω ε β)
    (g : β → Traced ω ε γ) : (x.andThen f).andThen g = x.andThen fun a => (f a).andThen g := by
  rcases x with ⟨trace, result | a⟩
  · rfl
  · rcases h : f a with ⟨trace', result' | b⟩ <;> simp [andThen, h]

end Traced
end InvocationRouting
