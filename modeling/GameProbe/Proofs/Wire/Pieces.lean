import GameProbe.Proofs.Outcome

/-!
# Runs in pieces

A run of bytes that is asked for in pieces of any sizes. `fill` asks for all that is missing and
`readBytes` for a window of it, and else they do the same: what holds of a run in pieces of any
sizes holds of both.
-/

namespace GameProbe

open ByteSource (pending)

variable {σ : Type} [ByteSource σ]

set_option linter.unusedVariables false in
/-- The loop of `readInPieces`: `missing` of `total` bytes have not come yet, `got` is what has,
last first. The calls to come ask for at most `sizes 0 + 1`, `sizes 1 + 1`, … bytes. -/
def readInPiecesFrom (total : Nat) (sizes : Nat → Nat) (missing : Nat) (got : Bytes) (s : σ) :
    EStateM.Result Error σ Bytes :=
  if missing = 0 then .ok got.reverse s
  else
    match h : ByteSource.read (min missing (sizes 0 + 1)) s with
    | .ok [] s' => .error (.connectionClosed total got.length) s'
    | .ok (b :: bs) s' =>
      readInPiecesFrom total (fun k => sizes (k + 1)) (missing - (b :: bs).length)
        (bs.reverseAux (b :: got)) s'
    | .error e s' =>
      if hi : e.interrupted then readInPiecesFrom total (fun k => sizes (k + 1)) missing got s'
      else .error (.io e) s'
termination_by pending s
decreasing_by
  · have := ByteSource.pending_of_read h
    simp only [List.length_cons] at this
    omega
  · have := ByteSource.pending_of_failure h
    simp only [hi, Bool.toNat_true] at this
    omega

/-- Exactly `n` bytes, in pieces of any sizes. Whatever it goes by when it settles how much to ask
for next, in one run that comes to a list of sizes. -/
def readInPieces (sizes : Nat → Nat) (n : Nat) : Decoder σ Bytes := readInPiecesFrom n sizes n []

variable {total missing : Nat} {sizes : Nat → Nat} {got : Bytes} {s : σ}

/-! ### One call after the other -/

lemma readInPiecesFrom_zero : readInPiecesFrom total sizes 0 got s = .ok got.reverse s := by
  rw [readInPiecesFrom, if_pos rfl]

/-- What the next call brings decides how the loop goes on. -/
lemma readInPiecesFrom_eq (hm : missing ≠ 0) :
    readInPiecesFrom total sizes missing got s =
      match ByteSource.read (min missing (sizes 0 + 1)) s with
      | .ok [] s' => .error (.connectionClosed total got.length) s'
      | .ok (b :: bs) s' =>
        readInPiecesFrom total (fun k => sizes (k + 1)) (missing - (b :: bs).length)
          (bs.reverseAux (b :: got)) s'
      | .error e s' =>
        if e.interrupted then readInPiecesFrom total (fun k => sizes (k + 1)) missing got s'
        else .error (.io e) s' := by
  rw [readInPiecesFrom, if_neg hm]
  split <;> rename_i h <;> simp only [h]
  split <;> rfl

/-! ### The readers of runs -/

lemma fillFrom_eq_readInPiecesFrom {size : Nat} (hsize : missing ≤ size) :
    fillFrom total missing got s = readInPiecesFrom total (fun _ => size) missing got s := by
  fun_induction fillFrom total missing got s with
  | case1 got s => exact readInPiecesFrom_zero.symm
  | case2 missing got s hm s' h =>
    rw [readInPiecesFrom_eq hm, Nat.min_eq_left (Nat.le_succ_of_le hsize), h]
  | case3 missing got s hm b bs s' h ih =>
    rw [readInPiecesFrom_eq hm, Nat.min_eq_left (Nat.le_succ_of_le hsize), h]
    exact ih (Nat.le_trans (Nat.sub_le ..) hsize)
  | case4 missing got s hm e s' h hi ih =>
    rw [readInPiecesFrom_eq hm, Nat.min_eq_left (Nat.le_succ_of_le hsize), h]
    exact (ih hsize).trans (if_pos hi).symm
  | case5 missing got s hm e s' h hi =>
    rw [readInPiecesFrom_eq hm, Nat.min_eq_left (Nat.le_succ_of_le hsize), h]
    exact (if_neg hi).symm

/-- `fill` asks for all that is missing. -/
theorem fill_eq_readInPieces (n : Nat) : (fill n : Decoder σ Bytes) = readInPieces (fun _ => n) n :=
  funext fun _ => fillFrom_eq_readInPiecesFrom (Nat.le_refl n)

/-- A run that came to its end too early is noticed by its length. -/
lemma readInPiecesFrom_window (got : Bytes) (s : σ) (htotal : got.length + missing = total) :
    readInPiecesFrom total (fun _ => window - 1) missing got s =
      match readUpToFrom missing got s with
      | .ok bytes s' =>
        if bytes.length < total then .error (.connectionClosed total bytes.length) s'
        else .ok bytes s'
      | .error e s' => .error e s' := by
  have hwindow : window - 1 + 1 = window := rfl
  fun_induction readUpToFrom missing got s with
  | case1 got s =>
    have hlong : ¬ got.reverse.length < total := by
      rw [List.length_reverse]
      omega
    exact readInPiecesFrom_zero.trans (if_neg hlong).symm
  | case2 missing got s hm s' h =>
    have hshort : got.length < total := by omega
    rw [readInPiecesFrom_eq hm, hwindow, h]
    simp only [List.length_reverse, if_pos hshort]
  | case3 missing got s hm b bs s' h ih =>
    rw [readInPiecesFrom_eq hm, hwindow, h]
    -- what has come and what is missing still make up the whole run
    refine ih ?_
    have hlen := Nat.le_trans (ByteSource.length_le_of_read h) (Nat.min_le_left ..)
    simp only [List.reverseAux_eq, List.length_append, List.length_reverse,
      List.length_cons] at hlen ⊢
    omega
  | case4 missing got s hm e s' h hi ih =>
    rw [readInPiecesFrom_eq hm, hwindow, h]
    exact (if_pos hi).trans (ih htotal)
  | case5 missing got s hm e s' h hi =>
    rw [readInPiecesFrom_eq hm, hwindow, h]
    exact if_neg hi

/-- `readBytes` asks for a window of what is missing. -/
theorem readBytes_eq_readInPieces (n : Nat) :
    (readBytes n : Decoder σ Bytes) = readInPieces (fun _ => window - 1) n := by
  funext s
  have hloop := readInPiecesFrom_window [] s (Nat.zero_add n)
  unfold readBytes readInPieces
  cases h : readUpTo n s with
  | ok bytes s' =>
    rw [bind_of_ok h, hloop, show readUpToFrom n [] s = _ from h]
    dsimp only
    split <;> rfl
  | error e s' => rw [bind_of_error h, hloop, show readUpToFrom n [] s = _ from h]

end GameProbe
