import GameProbe.Wire.Source
import Mathlib.Tactic.Lemma

/-!
# Outcomes

How the outcome of a composite operation comes about from the outcomes of its parts, and how it
looks through a view of the state.
-/

namespace EStateM.Result

variable {ε σ τ α : Type} {f : σ → τ} {r : EStateM.Result ε σ α} {t : τ}

/-- The state that the outcome leaves. -/
def state : EStateM.Result ε σ α → σ
  | .ok _ s | .error _ s => s

/-- The outcome apart from the state that it leaves. -/
def toExcept : EStateM.Result ε σ α → Except ε α
  | .ok a _ => .ok a
  | .error e _ => .error e

/-- The value that a success brings. -/
def value? : EStateM.Result ε σ α → Option α
  | .ok a _ => some a
  | .error .. => none

@[simp] lemma state_ok (a : α) (s : σ) : state (.ok a s : EStateM.Result ε σ α) = s := rfl

@[simp] lemma state_error (e : ε) (s : σ) : state (.error e s : EStateM.Result ε σ α) = s := rfl

@[simp] lemma toExcept_ok (a : α) (s : σ) :
    toExcept (.ok a s : EStateM.Result ε σ α) = .ok a := rfl

@[simp] lemma toExcept_error (e : ε) (s : σ) :
    toExcept (.error e s : EStateM.Result ε σ α) = .error e := rfl

@[simp] lemma value?_ok (a : α) (s : σ) : value? (.ok a s : EStateM.Result ε σ α) = some a := rfl

@[simp] lemma value?_error (e : ε) (s : σ) :
    value? (.error e s : EStateM.Result ε σ α) = none := rfl

/-- The outcome with its state seen through `f`. -/
def mapState (f : σ → τ) : EStateM.Result ε σ α → EStateM.Result ε τ α
  | .ok a s => .ok a (f s)
  | .error e s => .error e (f s)

@[simp] lemma state_mapState (r : EStateM.Result ε σ α) : (r.mapState f).state = f r.state := by
  cases r <;> rfl

@[simp] lemma toExcept_mapState (r : EStateM.Result ε σ α) :
    (r.mapState f).toExcept = r.toExcept := by
  cases r <;> rfl

lemma mapState_id (r : EStateM.Result ε σ α) : r.mapState (fun s => s) = r := by
  cases r <;> rfl

lemma mapState_mapState {υ : Type} (g : τ → υ) :
    (r.mapState f).mapState g = r.mapState fun s => g (f s) := by
  cases r <;> rfl

lemma mapState_eq_ok_iff {a : α} : r.mapState f = .ok a t ↔ ∃ s, r = .ok a s ∧ f s = t := by
  cases r <;> simp [mapState, and_assoc]

lemma mapState_eq_error_iff {e : ε} :
    r.mapState f = .error e t ↔ ∃ s, r = .error e s ∧ f s = t := by
  cases r <;> simp [mapState, and_assoc]

end EStateM.Result

namespace GameProbe

variable {ε σ α β : Type} {m : EStateM ε σ α} {f : α → EStateM ε σ β} {s s₁ s' : σ}

lemma bind_of_ok {a : α} (h : m s = .ok a s₁) : (m >>= f) s = f a s₁ := by
  show EStateM.bind m f s = _
  simp only [EStateM.bind, h]

lemma bind_of_error {e : ε} (h : m s = .error e s₁) : (m >>= f) s = .error e s₁ := by
  show EStateM.bind m f s = _
  simp only [EStateM.bind, h]

/-- What comes second goes by the outcome of what came first. -/
lemma bind_of_eq {m' : EStateM ε σ α} (h : m s = m' s') : (m >>= f) s = (m' >>= f) s' := by
  show EStateM.bind m f s = EStateM.bind m' f s'
  simp only [EStateM.bind, h]

/-- A sequence succeeds just if both of its parts do. -/
lemma bind_eq_ok_iff {b : β} :
    (m >>= f) s = .ok b s' ↔ ∃ a s₁, m s = .ok a s₁ ∧ f a s₁ = .ok b s' := by
  cases h : m s with
  | ok a s₁ =>
    rw [bind_of_ok h]
    constructor
    · intro hb
      exact ⟨a, s₁, rfl, hb⟩
    · rintro ⟨_, _, ⟨⟩, hb⟩
      exact hb
  | error e s₁ => simp [bind_of_error h]

@[simp] lemma state_bind_pure (m : EStateM ε σ α) (g : α → β) (s : σ) :
    ((m >>= fun a => pure (g a)) s).state = (m s).state := by
  cases h : m s with
  | ok a s₁ =>
    rw [bind_of_ok h]
    rfl
  | error e s₁ =>
    rw [bind_of_error h]
    rfl

@[simp] lemma toExcept_bind_pure (m : EStateM ε σ α) (g : α → β) (s : σ) :
    ((m >>= fun a => pure (g a)) s).toExcept = (m s).toExcept.map g := by
  cases h : m s with
  | ok a s₁ =>
    rw [bind_of_ok h]
    rfl
  | error e s₁ =>
    rw [bind_of_error h]
    rfl

lemma get_bind_apply (f : σ → EStateM ε σ β) (s : σ) : (get >>= f) s = f s s := rfl

@[simp] lemma Decoder.state_within (run : Bytes) (d : Decoder Bytes α) (s : σ) :
    ((d.within run : EStateM Error σ α) s).state = s := by
  unfold Decoder.within
  cases d run <;> rfl

@[simp] lemma Decoder.toExcept_within (run : Bytes) (d : Decoder Bytes α) (s : σ) :
    ((d.within run : EStateM Error σ α) s).toExcept = (d run).toExcept := by
  unfold Decoder.within
  cases d run <;> rfl

lemma Decoder.within_eq_error_iff {run : Bytes} {d : Decoder Bytes α} {e : Error} :
    (d.within run : EStateM Error σ α) s = .error e s' ↔
      (∃ rest, d run = .error e rest) ∧ s = s' := by
  unfold Decoder.within
  cases d run <;> simp

lemma Decoder.within_eq_ok_iff {run : Bytes} {d : Decoder Bytes α} {a : α} :
    (d.within run : EStateM Error σ α) s = .ok a s' ↔ (∃ rest, d run = .ok a rest) ∧ s = s' := by
  unfold Decoder.within
  cases d run <;> simp

/-- The loop of `collect` as a sequence of its first step and the others. -/
lemma collectFrom_eq_bind [ByteSource σ] (step : Decoder σ (Option α)) (consumes : step.Consumes 1)
    (got : List α) :
    collectFrom step consumes got = step >>= fun item =>
      match item with
      | none => pure got.reverse
      | some a => collectFrom step consumes (a :: got) := by
  funext s
  rw [collectFrom]
  split
  · rename_i h
    rw [bind_of_ok h]
    rfl
  · rename_i h
    rw [bind_of_ok h]
  · rename_i h
    rw [bind_of_error h]

end GameProbe
