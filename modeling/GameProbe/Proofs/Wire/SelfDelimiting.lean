import GameProbe.Proofs.Wire.Pieces
import GameProbe.Wire.Fixed
import GameProbe.Wire.Text

/-!
# Self-delimiting decoders

A decoder is self-delimiting if the bytes that it reads tell where they end: whatever follows them
is left alone, and without the last of them it finds the stream closed. Sequences, branches and
lists of self-delimiting decoders are self-delimiting again.
-/

namespace GameProbe

variable {α β : Type}

namespace Decoder

/-- The decoder takes just the bytes `c` for the value `v`: it leaves what follows them, and on any
strict beginning of them it finds the stream closed, with fewer bytes than it wanted. -/
structure Takes (d : Decoder Bytes α) (c : Bytes) (v : α) : Prop where
  append : ∀ x, d (c ++ x) = .ok v x
  truncated : ∀ p, p <+: c → p ≠ c →
    ∃ expected received, received < expected ∧ d p = .error (.connectionClosed expected received) []

/-- Wherever the decoder succeeds, it takes just the bytes that it has read. -/
def SelfDelimiting (d : Decoder Bytes α) : Prop :=
  ∀ b v rest, d b = .ok v rest → ∃ c, b = c ++ rest ∧ d.Takes c v

/-! ### Combinations -/

variable {d : Decoder Bytes α} {f : α → Decoder Bytes β} {c c' : Bytes} {v : α} {w : β}

/-- A decoder that reads nothing takes nothing. -/
lemma Takes.nil (h : ∀ x, d x = .ok v x) : d.Takes [] v where
  append := h
  truncated := by
    intro p hp hne
    exact absurd (List.prefix_nil.mp hp) hne

lemma Takes.pure (a : α) : Takes (pure a) [] a := .nil fun _ => rfl

lemma Takes.bind (hd : d.Takes c v) (hf : (f v).Takes c' w) : Takes (d >>= f) (c ++ c') w where
  append := by
    intro x
    rw [List.append_assoc, bind_of_ok (hd.append _), hf.append]
  truncated := by
    intro p hp hne
    rcases List.prefix_or_prefix_of_prefix hp (List.prefix_append c c') with hpc | ⟨q, rfl⟩
    · by_cases hc : p = c
      · -- the first decoder has just enough, and the second one has nothing
        subst hc
        have hc' : [] ≠ c' := by
          rintro rfl
          simp at hne
        obtain ⟨expected, received, hlt, h⟩ := hf.truncated [] List.nil_prefix hc'
        refine ⟨expected, received, hlt, ?_⟩
        have hp := hd.append []
        rw [List.append_nil] at hp
        rw [bind_of_ok hp, h]
      · obtain ⟨expected, received, hlt, h⟩ := hd.truncated p hpc hc
        exact ⟨expected, received, hlt, bind_of_error h⟩
    · have hq : q <+: c' := (List.prefix_append_right_inj c).mp hp
      obtain ⟨expected, received, hlt, h⟩ := hf.truncated q hq (by rintro rfl; exact hne rfl)
      refine ⟨expected, received, hlt, ?_⟩
      rw [bind_of_ok (hd.append q), h]

namespace SelfDelimiting

lemma pure (a : α) : SelfDelimiting (pure a) := by
  rintro b v rest ⟨⟩
  exact ⟨[], rfl, .pure a⟩

/-- A decoder that never succeeds never takes the wrong bytes. -/
lemma throw (e : Error) : SelfDelimiting (throw e : Decoder Bytes α) := by
  rintro b v rest ⟨⟩

lemma bind (hd : d.SelfDelimiting) (hf : ∀ a, (f a).SelfDelimiting) :
    SelfDelimiting (d >>= f) := by
  intro b w rest h
  obtain ⟨v, mid, hv, hw⟩ := bind_eq_ok_iff.mp h
  obtain ⟨c, rfl, hc⟩ := hd _ _ _ hv
  obtain ⟨c', rfl, hc'⟩ := hf v _ _ _ hw
  exact ⟨c ++ c', (List.append_assoc c c' rest).symm, hc.bind hc'⟩

/-- What is done with a decoded value has no part in where the decoder ends. -/
lemma map (hd : d.SelfDelimiting) (g : α → β) : SelfDelimiting (d >>= fun a => Pure.pure (g a)) :=
  hd.bind fun a => .pure (g a)

/-- The contents of a run that has been read are decoded without reading on. -/
lemma within (run : Bytes) (d : Decoder Bytes α) : SelfDelimiting (d.within run) := by
  intro b v rest h
  obtain ⟨hrun, rfl⟩ := within_eq_ok_iff.mp h
  exact ⟨[], rfl, .nil fun x => within_eq_ok_iff.mpr ⟨hrun, rfl⟩⟩

end SelfDelimiting

end Decoder

open Decoder

/-! ### Runs of bytes -/

/-- Reading from a byte string takes a beginning of it. -/
lemma read_eq_ok_iff {n : Nat} {b bytes rest : Bytes} :
    ByteSource.read n b = .ok bytes rest ↔ b.take n = bytes ∧ b.drop n = rest := by
  simp [ByteSource.read]

lemma readInPiecesFrom_apply (total : Nat) (sizes : Nat → Nat) (missing : Nat) (got b : Bytes) :
    readInPiecesFrom total sizes missing got b =
      if missing ≤ b.length then .ok (got.reverse ++ b.take missing) (b.drop missing)
      else .error (.connectionClosed total (got.length + b.length)) [] := by
  fun_induction readInPiecesFrom total sizes missing got b with
  | case1 sizes got b => simp
  | case2 sizes missing got b hm rest h =>
    obtain ⟨ht, rfl⟩ := read_eq_ok_iff.mp h
    have hb : b = [] := by simpa [hm] using ht
    simp [hb, hm]
  | case3 sizes missing got b hm y ys rest h ih =>
    obtain ⟨ht, rfl⟩ := read_eq_ok_iff.mp h
    have hk : min missing (sizes 0 + 1) ≤ missing := Nat.min_le_left ..
    rw [ih, ← ht]
    generalize min missing (sizes 0 + 1) = k at ht hk
    have hlen := List.length_take (i := k) (l := b)
    have hrev : (ys.reverseAux (y :: got)).reverse = got.reverse ++ b.take k := by
      rw [ht, List.reverseAux_eq]
      simp
    have hlen' : (ys.reverseAux (y :: got)).length = got.length + (b.take k).length := by
      rw [ht, List.reverseAux_eq]
      simp
      omega
    by_cases hle : missing ≤ b.length
    · have hpiece : (b.take k).length = k := List.length_take_of_le (Nat.le_trans hk hle)
      rw [if_pos hle, if_pos (by simp; omega), hrev, hpiece, List.append_assoc, ← List.take_add,
        List.drop_drop, Nat.add_sub_cancel' hk]
    · rw [if_neg hle, if_neg (by simp; omega), hlen', List.length_drop]
      congr 2
      omega
  | case4 sizes missing got b hm e rest h => cases h
  | case5 sizes missing got b hm e rest h => cases h

/-- A run from a byte string is a beginning of it, or finds it too short. -/
lemma readInPieces_apply (sizes : Nat → Nat) (n : Nat) (b : Bytes) :
    readInPieces sizes n b = if n ≤ b.length then .ok (b.take n) (b.drop n)
      else .error (.connectionClosed n b.length) [] := by
  simp [readInPieces, readInPiecesFrom_apply]

lemma fill_apply (n : Nat) (b : Bytes) :
    fill n b = if n ≤ b.length then .ok (b.take n) (b.drop n)
      else .error (.connectionClosed n b.length) [] := by
  rw [fill_eq_readInPieces]
  exact readInPieces_apply _ n b

lemma readBytes_apply (n : Nat) (b : Bytes) :
    readBytes n b = if n ≤ b.length then .ok (b.take n) (b.drop n)
      else .error (.connectionClosed n b.length) [] := by
  rw [readBytes_eq_readInPieces]
  exact readInPieces_apply _ n b

/-- What reads exactly `n` bytes, however many follow, is self-delimiting. -/
lemma Decoder.SelfDelimiting.of_run {d : Decoder Bytes Bytes} {n : Nat}
    (h : ∀ b, d b = if n ≤ b.length then .ok (b.take n) (b.drop n)
      else .error (.connectionClosed n b.length) []) : d.SelfDelimiting := by
  intro b v rest hb
  rw [h] at hb
  split at hb
  · rename_i hn
    cases hb
    have hlen : (b.take n).length = n := List.length_take_of_le hn
    refine ⟨b.take n, (List.take_append_drop n b).symm, ?_, ?_⟩
    · intro x
      rw [h, if_pos (by simp [hlen]), List.take_left' hlen, List.drop_left' hlen]
    · intro p hp hne
      have hlt : p.length < n := by
        have := hp.length_le
        have := mt (hp.eq_of_length) hne
        omega
      exact ⟨n, p.length, hlt, by rw [h, if_neg (by omega)]⟩
  · cases hb

lemma selfDelimiting_fill (n : Nat) : SelfDelimiting (fill n) := .of_run (fill_apply n)

lemma selfDelimiting_readBytes (n : Nat) : SelfDelimiting (readBytes n) :=
  .of_run (readBytes_apply n)

lemma selfDelimiting_readByte : SelfDelimiting readByte := (selfDelimiting_fill 1).map _

/-! ### Lists of unknown length -/

lemma selfDelimiting_collect {step : Decoder Bytes (Option α)} (consumes : step.Consumes 1)
    (hstep : step.SelfDelimiting) : SelfDelimiting (collect step consumes) := by
  suffices ∀ got b items rest, collectFrom step consumes got b = .ok items rest →
      ∃ c, b = c ++ rest ∧ Takes (collectFrom step consumes got) c items from this []
  intro got b items rest h
  fun_induction collectFrom step consumes got b with
  | case1 got b rest' h' =>
    cases h
    obtain ⟨c, rfl, hc⟩ := hstep _ _ _ h'
    refine ⟨c, rfl, ?_⟩
    rw [collectFrom_eq_bind, ← List.append_nil c]
    exact hc.bind (.pure got.reverse)
  | case2 got b a rest' h' ih =>
    obtain ⟨c, rfl, hc⟩ := hstep _ _ _ h'
    obtain ⟨c', rfl, hc'⟩ := ih h
    refine ⟨c ++ c', (List.append_assoc c c' rest).symm, ?_⟩
    rw [collectFrom_eq_bind]
    exact hc.bind hc'
  | case3 => cases h

/-! ### Integers and texts -/

namespace Wire

lemma selfDelimiting_readUInt16BE : SelfDelimiting readUInt16BE := (selfDelimiting_fill 2).map _

lemma selfDelimiting_readUInt16LE : SelfDelimiting readUInt16LE := (selfDelimiting_fill 2).map _

lemma selfDelimiting_readUInt32BE : SelfDelimiting readUInt32BE := (selfDelimiting_fill 4).map _

lemma selfDelimiting_readUInt32LE : SelfDelimiting readUInt32LE := (selfDelimiting_fill 4).map _

lemma selfDelimiting_readUInt64BE : SelfDelimiting readUInt64BE := (selfDelimiting_fill 8).map _

lemma selfDelimiting_readBase128From (top : UInt8) (digits place sum : Nat) :
    SelfDelimiting (readBase128From top digits place sum) := by
  induction digits generalizing place sum with
  | zero => exact .throw _
  | succ digits ih =>
    refine selfDelimiting_readByte.bind fun b => ?_
    dsimp only
    split
    · exact .throw _
    · split
      · exact .pure _
      · exact ih _ _

lemma selfDelimiting_readUvarint : SelfDelimiting readUvarint :=
  (selfDelimiting_readBase128From 1 10 1 0).map _

lemma selfDelimiting_readCstring : SelfDelimiting readCstring :=
  (selfDelimiting_collect consumes_readNonzero (selfDelimiting_readByte.map _)).map _

end Wire

end GameProbe
