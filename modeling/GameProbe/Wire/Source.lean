import GameProbe.Error

/-!
# Byte sources

A byte source is read in pieces of a size it chooses itself, and a piece may have to be asked for
again. On top of that this module reads runs of exactly `n` bytes, in two ways: `fill` for a few
bytes, `readBytes` for a run whose length came from the other side. A run that breaks off is lost.

Every source can only be read so often with success, so reading loops end; `Decoder.Consumes`
says how much of that a decoder uses up.
-/

namespace GameProbe

/-- A string of bytes. -/
abbrev Bytes := List UInt8

/-- What bytes are read from. `read n` brings between one and `n` bytes, or none at the end of
the stream. -/
class ByteSource (σ : Type) where
  read : Nat → EStateM IoError σ Bytes
  /-- A bound on the bytes still to come and the interruptions among them. -/
  pending : σ → Nat
  length_le_of_read {n : Nat} {s s' : σ} {bytes : Bytes} :
    read n s = .ok bytes s' → bytes.length ≤ n
  pending_of_read {n : Nat} {s s' : σ} {bytes : Bytes} :
    read n s = .ok bytes s' → pending s' + bytes.length ≤ pending s
  pending_of_failure {n : Nat} {s s' : σ} {e : IoError} :
    read n s = .error e s' → pending s' + e.interrupted.toNat ≤ pending s

open ByteSource (pending)

set_option linter.unusedVariables false

/-- A string of bytes is read from its beginning. -/
instance : ByteSource Bytes where
  read n s := .ok (s.take n) (s.drop n)
  pending s := s.length
  length_le_of_read h := by
    cases h
    exact List.length_take_le ..
  pending_of_read h := by
    cases h
    simp only [List.length_drop, List.length_take]
    omega
  pending_of_failure h := by cases h

/-- An operation that reads from a source. What it has read stays read when it fails. -/
abbrev Decoder (σ : Type) := EStateM Error σ

variable {σ α β : Type} [ByteSource σ]

/-! ### How much a decoder uses up -/

/-- Every success of the decoder uses up at least `k` of what is pending. -/
def Decoder.Consumes (k : Nat) (d : Decoder σ α) : Prop :=
  ∀ s a s', d s = .ok a s' → pending s' + k ≤ pending s

theorem Decoder.Consumes.pure (a : α) : Consumes 0 (pure a : Decoder σ α) := by
  intro s b s' h
  cases h
  exact Nat.le_refl _

theorem Decoder.Consumes.throw (e : Error) : Consumes 0 (throw e : Decoder σ α) := by
  intro s b s' h
  cases h

theorem Decoder.Consumes.bind {d : Decoder σ α} {f : α → Decoder σ β} {j k : Nat}
    (hd : Consumes j d) (hf : ∀ a, Consumes k (f a)) : Consumes (j + k) (d >>= f) := by
  intro s b s' h
  change EStateM.bind d f s = _ at h
  unfold EStateM.bind at h
  split at h
  · rename_i a s₁ h₁
    have := hd _ _ _ h₁
    have := hf a _ _ _ h
    omega
  · cases h

theorem Decoder.Consumes.mono {d : Decoder σ α} {j k : Nat} (hd : Consumes k d) (h : j ≤ k) :
    Consumes j d := by
  intro s b s' hb
  have := hd _ _ _ hb
  omega

/-! ### Runs of bytes -/

/-- The loop of `fill`: `missing` of `total` bytes have not come yet, `got` is what has, last
first. -/
def fillFrom (total missing : Nat) (got : Bytes) (s : σ) : EStateM.Result Error σ Bytes :=
  if missing = 0 then .ok got.reverse s
  else
    match h : ByteSource.read missing s with
    | .ok [] s' => .error (.connectionClosed total got.length) s'
    | .ok (b :: bs) s' =>
      fillFrom total (missing - (b :: bs).length) (bs.reverseAux (b :: got)) s'
    | .error e s' =>
      if hi : e.interrupted then fillFrom total missing got s' else .error (.io e) s'
termination_by pending s
decreasing_by
  · have := ByteSource.pending_of_read h
    simp only [List.length_cons] at this
    omega
  · have := ByteSource.pending_of_failure h
    simp only [hi, Bool.toNat_true] at this
    omega

/-- Exactly `n` bytes. Short reads are continued and interrupted ones repeated. -/
def fill (n : Nat) : Decoder σ Bytes := fillFrom n n []

/-- The largest piece that `readBytes` asks for. -/
def window : Nat := 65536

/-- The loop of `readUpTo`: at most `missing` further bytes, `got` is what has come, last first. -/
def readUpToFrom (missing : Nat) (got : Bytes) (s : σ) : EStateM.Result Error σ Bytes :=
  if missing = 0 then .ok got.reverse s
  else
    match h : ByteSource.read (min missing window) s with
    | .ok [] s' => .ok got.reverse s'
    | .ok (b :: bs) s' =>
      readUpToFrom (missing - (b :: bs).length) (bs.reverseAux (b :: got)) s'
    | .error e s' =>
      if hi : e.interrupted then readUpToFrom missing got s' else .error (.io e) s'
termination_by pending s
decreasing_by
  · have := ByteSource.pending_of_read h
    simp only [List.length_cons] at this
    omega
  · have := ByteSource.pending_of_failure h
    simp only [hi, Bool.toNat_true] at this
    omega

/-- At most `n` bytes, fewer only at the end of the stream. -/
def readUpTo (n : Nat) : Decoder σ Bytes := readUpToFrom n []

/-- Exactly `n` bytes, asked for piece by piece: the length is the other side's word. -/
def readBytes (n : Nat) : Decoder σ Bytes := do
  let bytes ← readUpTo n
  if bytes.length < n then throw (.connectionClosed n bytes.length)
  return bytes

/-- One byte. -/
def readByte : Decoder σ UInt8 := return (← fill 1).headD 0

theorem consumes_fill (n : Nat) : (fill n : Decoder σ Bytes).Consumes n := by
  suffices ∀ total missing got (s s' : σ) bytes,
      fillFrom total missing got s = .ok bytes s' → pending s' + missing ≤ pending s by
    intro s bytes s' h
    exact this _ _ _ _ _ _ h
  intro total missing got s s' bytes h
  fun_induction fillFrom total missing got s with
  | case1 => cases h; omega
  | case2 => cases h
  | case3 missing got s hm b bs s₁ h₁ ih =>
    have := ih h
    have := ByteSource.pending_of_read h₁
    omega
  | case4 missing got s hm e s₁ h₁ hi ih =>
    have := ih h
    have := ByteSource.pending_of_failure h₁
    omega
  | case5 => cases h

theorem consumes_readUpTo (n : Nat) : (readUpTo n : Decoder σ Bytes).Consumes 0 := by
  suffices ∀ missing got (s s' : σ) bytes,
      readUpToFrom missing got s = .ok bytes s' → pending s' + 0 ≤ pending s by
    intro s bytes s' h
    exact this _ _ _ _ _ h
  intro missing got s s' bytes h
  fun_induction readUpToFrom missing got s with
  | case1 => cases h; omega
  | case2 missing got s hm s₁ h₁ =>
    cases h
    have := ByteSource.pending_of_read h₁
    omega
  | case3 missing got s hm b bs s₁ h₁ ih =>
    have := ih h
    have := ByteSource.pending_of_read h₁
    omega
  | case4 missing got s hm e s₁ h₁ hi ih =>
    have := ih h
    have := ByteSource.pending_of_failure h₁
    omega
  | case5 => cases h

theorem consumes_readBytes (n : Nat) : (readBytes n : Decoder σ Bytes).Consumes 0 := by
  refine (consumes_readUpTo n).bind (k := 0) fun bytes => ?_
  split
  · exact Decoder.Consumes.bind (j := 0) (k := 0) (.throw _) fun _ => .pure _
  · exact .pure _

theorem consumes_readByte : (readByte : Decoder σ UInt8).Consumes 1 :=
  (consumes_fill 1).bind (k := 0) fun _ => .pure _

/-! ### Lists of unknown length -/

/-- The loop of `collect`, with the items found so far, last first. -/
def collectFrom (step : Decoder σ (Option α)) (consumes : step.Consumes 1) (got : List α) (s : σ) :
    EStateM.Result Error σ (List α) :=
  match h : step s with
  | .ok none s' => .ok got.reverse s'
  | .ok (some a) s' => collectFrom step consumes (a :: got) s'
  | .error e s' => .error e s'
termination_by pending s
decreasing_by
  have := consumes _ _ _ h
  omega

/-- Run `step` until it finds the end of a list. -/
def collect (step : Decoder σ (Option α)) (consumes : step.Consumes 1) : Decoder σ (List α) :=
  collectFrom step consumes []

theorem consumes_collect (step : Decoder σ (Option α)) (consumes : step.Consumes 1) :
    (collect step consumes).Consumes 1 := by
  suffices ∀ got (s s' : σ) items,
      collectFrom step consumes got s = .ok items s' → pending s' + 1 ≤ pending s by
    intro s items s' h
    exact this _ _ _ _ h
  intro got s s' items h
  fun_induction collectFrom step consumes got s with
  | case1 got s s₁ h₁ =>
    cases h
    exact consumes _ _ _ h₁
  | case2 got s a s₁ h₁ ih =>
    have := ih h
    have := consumes _ _ _ h₁
    omega
  | case3 => cases h

/-! ### Runs within runs -/

/-- Decode the contents of a run that has been read; what is left of it is dropped. -/
def Decoder.within (run : Bytes) (d : Decoder Bytes α) : Decoder σ α := fun s =>
  match d run with
  | .ok a _ => .ok a s
  | .error e _ => .error e s

theorem Decoder.Consumes.within (run : Bytes) (d : Decoder Bytes α) :
    Consumes 0 (d.within run : Decoder σ α) := by
  intro s a s' h
  unfold Decoder.within at h
  split at h <;> cases h
  exact Nat.le_refl _

end GameProbe
