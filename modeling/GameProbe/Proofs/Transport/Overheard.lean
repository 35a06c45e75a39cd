import GameProbe.Proofs.Transport.Moves
import GameProbe.Proofs.Wire.Text

/-!
# Overheard transports

A transport together with the bytes that came from it. A client cannot tell it from the transport
alone. What a decoder has heard when it succeeds is what it takes from a string of bytes for the
same value, in whatever pieces the bytes came.
-/

namespace GameProbe

open EStateM.Result

/-- A transport, and the bytes that came from it, in order. -/
structure Overheard (σ : Type) where
  transport : σ
  heard : Bytes := []

namespace Overheard

variable {σ α : Type}

/-- Do something with the transport, and add what comes to what was heard. -/
def hear (came : α → Bytes) (m : EStateM IoError σ α) : EStateM IoError (Overheard σ) α := fun w =>
  match m w.transport with
  | .ok a transport => .ok a { transport, heard := w.heard ++ came a }
  | .error e transport => .error e { w with transport }

variable {came : α → Bytes} {m : EStateM IoError σ α} {w w' : Overheard σ} {a : α} {e : IoError}

lemma hear_ok (h : hear came m w = .ok a w') :
    m w.transport = .ok a w'.transport ∧ w'.heard = w.heard ++ came a := by
  unfold hear at h
  split at h
  · rename_i hm
    cases h
    exact ⟨hm, rfl⟩
  · cases h

lemma hear_error (h : hear came m w = .error e w') :
    m w.transport = .error e w'.transport ∧ w'.heard = w.heard := by
  unfold hear at h
  split at h
  · cases h
  · rename_i hm
    cases h
    exact ⟨hm, rfl⟩

instance [Transport σ] : Transport (Overheard σ) where
  setReadTimeout timeout := hear (fun _ => []) (Transport.setReadTimeout timeout)
  close := hear (fun _ => []) Transport.close

instance [StreamTransport σ] : StreamTransport (Overheard σ) where
  read n := hear (fun bytes => bytes) (ByteSource.read n)
  write bytes := hear (fun _ => []) (StreamTransport.write bytes)
  flush := hear (fun _ => []) StreamTransport.flush
  pending w := ByteSource.pending w.transport
  interruptions w := StreamTransport.interruptions w.transport
  length_le_of_read h := ByteSource.length_le_of_read (hear_ok h).1
  pending_of_read h := ByteSource.pending_of_read (hear_ok h).1
  pending_of_failure h := ByteSource.pending_of_failure (hear_error h).1
  interruptions_of_failure h := StreamTransport.interruptions_of_failure (hear_error h).1
  pending_of_setReadTimeout h := StreamTransport.pending_of_setReadTimeout (hear_ok h).1

/-! ### How much is heard -/

/-- More may have been heard, behind what was. -/
def HeardMore (w w' : Overheard σ) : Prop := w.heard <+: w'.heard

/-- Nothing more was heard. -/
def Deaf (w w' : Overheard σ) : Prop := w'.heard = w.heard

instance : IsPreorder (Overheard σ) HeardMore where
  refl w := List.prefix_refl w.heard
  trans _ _ _ h h' := h.trans h'

instance : IsPreorder (Overheard σ) Deaf where
  refl _ := rfl
  trans _ _ _ h h' := h'.trans h

lemma heardMore_hear (came : α → Bytes) (m : EStateM IoError σ α) :
    Moves HeardMore (hear came m) := by
  intro w
  cases h : hear came m w with
  | ok a w' => exact ⟨came a, (hear_ok h).2.symm⟩
  | error e w' => exact ⟨[], (List.append_nil _).trans (hear_error h).2.symm⟩

lemma deaf_hear (m : EStateM IoError σ α) : Moves Deaf (hear (fun _ => []) m) := by
  intro w
  cases h : hear (fun _ => []) m w with
  | ok a w' => exact (hear_ok h).2.trans (List.append_nil _)
  | error e w' => exact (hear_error h).2

lemma deaf_close [Transport σ] :
    Moves Deaf (Transport.close : EStateM IoError (Overheard σ) Unit) :=
  deaf_hear _

variable [StreamTransport σ]

lemma talks_heardMore : Talks (HeardMore : Overheard σ → Overheard σ → Prop) where
  read _ := heardMore_hear _ _
  setReadTimeout _ := heardMore_hear _ _
  write _ := heardMore_hear _ _
  flush := heardMore_hear _ _

lemma deaf_writeRequest (request : Bytes) :
    Moves Deaf (writeRequest request : EStateM Error (Overheard σ) Unit) :=
  .writeRequest_of_write (fun _ => deaf_hear _) (deaf_hear _) request

lemma deaf_limitReads (config : Config) :
    Moves Deaf (limitReads config : EStateM Error (Overheard σ) Unit) := (deaf_hear _).liftIo

end Overheard

open Overheard

/-! ### What is heard -/

namespace Decoder

variable {σ α β : Type}

/-- What the one decoder hears, when it succeeds, is what the other one takes for the same value. -/
def Hears (d : Decoder (Overheard σ) α) (d' : Decoder Bytes α) : Prop :=
  ∀ w a w', d w = .ok a w' → ∃ c, w'.heard = w.heard ++ c ∧ ∀ x, d' (c ++ x) = .ok a x

namespace Hears

variable {d : Decoder (Overheard σ) α} {d' : Decoder Bytes α} {f : α → Decoder (Overheard σ) β}
  {f' : α → Decoder Bytes β}

lemma pure (a : α) : Hears (Pure.pure a : Decoder (Overheard σ) α) (Pure.pure a) := by
  rintro w _ _ ⟨⟩
  exact ⟨[], (List.append_nil _).symm, fun _ => rfl⟩

lemma throw (e : Error) : Hears (throw e : Decoder (Overheard σ) α) (throw e) := by
  rintro w a w' ⟨⟩

lemma within (run : Bytes) (d : Decoder Bytes α) :
    Hears (d.within run : Decoder (Overheard σ) α) (d.within run) := by
  intro w a w' h
  obtain ⟨hrun, rfl⟩ := within_eq_ok_iff.mp h
  exact ⟨[], (List.append_nil _).symm, fun x => within_eq_ok_iff.mpr ⟨hrun, rfl⟩⟩

lemma bind (hd : Hears d d') (hf : ∀ a, Hears (f a) (f' a)) : Hears (d >>= f) (d' >>= f') := by
  intro w b w' h
  obtain ⟨a, w₁, ha, hb⟩ := bind_eq_ok_iff.mp h
  obtain ⟨c, hheard, htakes⟩ := hd _ _ _ ha
  obtain ⟨c₁, hheard₁, htakes₁⟩ := hf a _ _ _ hb
  refine ⟨c ++ c₁, by rw [hheard₁, hheard, List.append_assoc], fun x => ?_⟩
  rw [List.append_assoc, bind_of_ok (htakes _), htakes₁]

lemma map (hd : Hears d d') (g : α → β) :
    Hears (d >>= fun a => Pure.pure (g a)) (d' >>= fun a => Pure.pure (g a)) :=
  hd.bind fun a => .pure (g a)

end Hears

end Decoder

open Decoder

variable {σ α : Type} [StreamTransport σ]

/-- A run in pieces has heard just the run. -/
lemma heard_readInPieces {sizes : Nat → Nat} {n : Nat} {bytes : Bytes} {w w' : Overheard σ}
    (h : readInPieces sizes n w = .ok bytes w') :
    bytes.length = n ∧ w'.heard = w.heard ++ bytes := by
  suffices ∀ total sizes missing got (w : Overheard σ),
      readInPiecesFrom total sizes missing got w = .ok bytes w' →
        ∃ c, c.length = missing ∧ w'.heard = w.heard ++ c ∧ bytes = got.reverse ++ c by
    obtain ⟨c, hlength, hheard, rfl⟩ := this _ _ _ _ _ h
    exact ⟨hlength, hheard⟩
  intro total sizes missing got w h
  fun_induction readInPiecesFrom total sizes missing got w with
  | case1 =>
    cases h
    exact ⟨[], rfl, (List.append_nil _).symm, (List.append_nil _).symm⟩
  | case2 => cases h
  | case3 sizes missing got w hm b bs w₁ h₁ ih =>
    obtain ⟨c, hlength, hheard, rfl⟩ := ih h
    have hle := ByteSource.length_le_of_read h₁
    refine ⟨b :: bs ++ c, ?_, ?_, ?_⟩
    · rw [List.length_append, hlength]
      omega
    · rw [hheard, (hear_ok h₁).2, List.append_assoc]
    · simp [List.reverseAux_eq]
  | case4 sizes missing got w hm e w₁ h₁ hi ih =>
    obtain ⟨c, hlength, hheard, hbytes⟩ := ih h
    exact ⟨c, hlength, by rw [hheard, (hear_error h₁).2], hbytes⟩
  | case5 => cases h

lemma hears_fill (n : Nat) : Hears (fill n : Decoder (Overheard σ) Bytes) (fill n) := by
  intro w bytes w' h
  rw [fill_eq_readInPieces] at h
  obtain ⟨hlength, hheard⟩ := heard_readInPieces h
  exact ⟨bytes, hheard, Wire.fill_append hlength⟩

lemma hears_readBytes (n : Nat) :
    Hears (readBytes n : Decoder (Overheard σ) Bytes) (readBytes n) := by
  intro w bytes w' h
  rw [readBytes_eq_readInPieces] at h
  obtain ⟨rfl, hheard⟩ := heard_readInPieces h
  exact ⟨bytes, hheard, Wire.readBytes_append bytes⟩

lemma hears_readByte : Hears (readByte : Decoder (Overheard σ) UInt8) readByte :=
  (hears_fill 1).map _

lemma hears_readUvarint :
    Hears (Wire.readUvarint : Decoder (Overheard σ) UInt64) Wire.readUvarint := by
  have hdigits (top : UInt8) (digits place sum : Nat) :
      Hears (Wire.readBase128From top digits place sum : Decoder (Overheard σ) Nat)
        (Wire.readBase128From top digits place sum) := by
    induction digits generalizing place sum with
    | zero => exact .throw _
    | succ digits ih =>
      refine hears_readByte.bind fun b => ?_
      dsimp only
      split
      · exact .throw _
      · split
        · exact .pure _
        · exact ih _ _
  exact (hdigits 1 10 1 0).map _

lemma Status.hears_readFrame :
    Hears (Status.readFrame : Decoder (Overheard σ) Status.Frame) Status.readFrame := by
  refine hears_readUvarint.bind fun length => ?_
  dsimp only
  split
  · exact .throw _
  · exact (hears_readBytes _).bind fun run => (Hears.within run _).map _

/-- Until a request was written and the time for its answer limited, nothing is heard. -/
lemma unheard_of_request {d : Decoder (Overheard σ) α} {request : Bytes} {config : Config}
    {w w' : Overheard σ} {a : α}
    (h : (do writeRequest request; limitReads config; d) w = .ok a w') :
    ∃ w₁, w₁.heard = w.heard ∧ d w₁ = .ok a w' := by
  obtain ⟨_, w₁, hwrite, h⟩ := bind_eq_ok_iff.mp h
  obtain ⟨_, w₂, hlimit, h⟩ := bind_eq_ok_iff.mp h
  have hdeaf₁ : w₁.heard = w.heard := (deaf_writeRequest request).of_ok hwrite
  have hdeaf₂ : w₂.heard = w₁.heard := (deaf_limitReads config).of_ok hlimit
  exact ⟨w₂, hdeaf₂.trans hdeaf₁, h⟩

end GameProbe
