import GameProbe.Proofs.Transport.Peer
import GameProbe.Proofs.Wire.SelfDelimiting

/-!
# What comes of a run

A run of `n` bytes comes as a whole, or it breaks off at a failure or at the end of the stream. The
peer alone settles which of these it is and where reading stops. So the two readers of runs cannot
be told apart, nor from any other that asks for the run in pieces, and none of them makes a call
that the run does not need.
-/

namespace GameProbe

open Peer Carrier

/-! ### The peer's part -/

section Peers

variable {π : Type} [Peer π] {n missing : Nat} {got : Bytes} {p p₁ : π}

/-- What can come of a run of `n` bytes: all of them, with the peer right behind the last one, or
what the peer has in the place of the next one when fewer have come. -/
inductive RunOf (n : Nat) (p : π) : EStateM.Result Error π Bytes → Prop
  | whole {bytes : Bytes} {p' : π} : Gives bytes p p' → bytes.length = n → RunOf n p (.ok bytes p')
  | failed {bytes : Bytes} {p₁ p' : π} {e : Fault} : Gives bytes p p₁ → bytes.length < n →
      receive p₁ = .error e p' → RunOf n p (.error (.io e) p')
  | closed {bytes : Bytes} {p₁ p' : π} : Gives bytes p p₁ → bytes.length < n →
      receive p₁ = .ok none p' → RunOf n p (.error (.connectionClosed n bytes.length) p')

lemma runOf_receiveFrom (hgot : Gives got.reverse p p₁) (hn : got.length + missing = n) :
    RunOf n p (receiveFrom n missing got p₁) := by
  -- `p` is where the run began, and `p₁` is right behind what has come of it
  induction missing generalizing got p₁ with
  | zero => exact .whole hgot (by simpa using hn)
  | succ missing ih =>
    have hlt : got.reverse.length < n := by
      rw [List.length_reverse]
      omega
    simp only [receiveFrom]
    split
    · rename_i b p' hb
      refine ih ?_ (by rw [List.length_cons]; omega)
      rw [List.reverse_cons]
      exact gives_append.mpr ⟨p₁, hgot, p', hb, rfl⟩
    · rename_i p' hend
      rw [← List.length_reverse]
      exact .closed hgot hlt hend
    · rename_i e p' hfault
      exact .failed hgot hlt hfault

/-- What comes of a run is what comes of it byte after byte. -/
theorem runOf_iff {r : EStateM.Result Error π Bytes} : RunOf n p r ↔ receiveRun n p = r := by
  constructor
  · intro h
    cases h with
    | whole hbytes hn =>
      subst hn
      exact receiveRun_of_gives hbytes
    | failed hbytes hlt hfault => exact receiveRun_of_fault hbytes hlt hfault
    | closed hbytes hlt hend => exact receiveRun_of_end hbytes hlt hend
  · rintro rfl
    have hnone : Gives [] p p := rfl
    exact runOf_receiveFrom hnone (Nat.zero_add n)

end Peers

/-! ### The reader's part -/

section Readers

variable {σ : Type} [ByteSource σ] {total missing : Nat} {sizes : Nat → Nat} {got bytes : Bytes}
  {s s' : σ}

/-- From `s` on all that is missing comes, piece by piece, and `s'` is left. Every call asks for
something, but for no more than is still missing, and one that is interrupted is made again. There
is no call with nothing missing. -/
inductive InPieces : Nat → σ → Bytes → σ → Prop
  | nothing {s : σ} : InPieces 0 s [] s
  | piece {missing asked : Nat} {piece rest : Bytes} {s s₁ s' : σ} : 0 < asked → asked ≤ missing →
      ByteSource.read asked s = .ok piece s₁ → piece ≠ [] →
      InPieces (missing - piece.length) s₁ rest s' → InPieces missing s (piece ++ rest) s'
  | again {missing asked : Nat} {bytes : Bytes} {e : IoError} {s s₁ s' : σ} : 0 < asked →
      asked ≤ missing → ByteSource.read asked s = .error e s₁ → e.interrupted →
      InPieces missing s₁ bytes s' → InPieces missing s bytes s'

/-- The reader of `n` bytes makes no call that the run does not need: where no byte is to be read it
does not touch the source, and else it stops with the last one. -/
structure Decoder.StopsAt (n : Nat) (d : Decoder σ Bytes) : Prop where
  untouched : n = 0 → ∀ s, d s = .ok [] s
  inPieces : ∀ s bytes s', d s = .ok bytes s' → InPieces n s bytes s'

lemma inPieces_of_readInPiecesFrom (h : readInPiecesFrom total sizes missing got s = .ok bytes s') :
    ∃ rest, bytes = got.reverse ++ rest ∧ InPieces missing s rest s' := by
  fun_induction readInPiecesFrom total sizes missing got s with
  | case1 sizes got s =>
    cases h
    exact ⟨[], (List.append_nil _).symm, .nothing⟩
  | case2 => cases h
  | case3 sizes missing got s hm b bs s₁ hread ih =>
    have hasked : 0 < min missing (sizes 0 + 1) := by omega
    obtain ⟨rest, rfl, hrest⟩ := ih h
    refine ⟨b :: bs ++ rest, by simp [List.reverseAux_eq], ?_⟩
    exact .piece hasked (Nat.min_le_left ..) hread (List.cons_ne_nil b bs) hrest
  | case4 sizes missing got s hm e s₁ hread hi ih =>
    have hasked : 0 < min missing (sizes 0 + 1) := by omega
    obtain ⟨rest, hbytes, hrest⟩ := ih h
    exact ⟨rest, hbytes, .again hasked (Nat.min_le_left ..) hread hi hrest⟩
  | case5 => cases h

lemma stopsAt_readInPieces (sizes : Nat → Nat) (n : Nat) :
    Decoder.StopsAt n (readInPieces sizes n : Decoder σ Bytes) where
  untouched := by
    rintro rfl s
    exact readInPiecesFrom_zero
  inPieces := by
    intro s bytes s' h
    obtain ⟨rest, rfl, hrest⟩ := inPieces_of_readInPiecesFrom h
    exact hrest

end Readers

/-! ### Both readers -/

variable {σ π : Type} [StreamTransport σ] [Peer π] [Carrier σ π]

/-- Both readers of runs do the same. However a transport cuts and interrupts what the peer gives,
`fill` and `readBytes` bring just what can come of the run, leave the peer at the same place, and
stop with the last byte; and so does every reader that asks for the run in pieces. On a byte string
they agree as well. -/
theorem runs_read_alike (n : Nat) :
    (∀ (s : σ) (r : EStateM.Result Error π Bytes),
      ((fill n s).mapState view = r ↔ RunOf n (view s) r) ∧
      ((readBytes n s).mapState view = r ↔ RunOf n (view s) r) ∧
      ∀ sizes, (readInPieces sizes n s).mapState view = r ↔ RunOf n (view s) r) ∧
    (Decoder.StopsAt n (fill n : Decoder σ Bytes) ∧
      Decoder.StopsAt n (readBytes n : Decoder σ Bytes) ∧
      ∀ sizes, Decoder.StopsAt n (readInPieces sizes n : Decoder σ Bytes)) ∧
    ∀ b : Bytes, fill n b = readBytes n b ∧ ∀ sizes, readInPieces sizes n b = readBytes n b := by
  refine ⟨fun s r => ?_, ⟨?_, ?_, fun sizes => stopsAt_readInPieces sizes n⟩, fun b => ?_⟩
  · rw [runOf_iff, fill_view, readBytes_view]
    exact ⟨Iff.rfl, Iff.rfl, fun sizes => by rw [readInPieces_view]⟩
  · rw [fill_eq_readInPieces]
    exact stopsAt_readInPieces _ n
  · rw [readBytes_eq_readInPieces]
    exact stopsAt_readInPieces _ n
  · rw [fill_apply, readBytes_apply]
    exact ⟨rfl, fun sizes => readInPieces_apply sizes n b⟩

end GameProbe
