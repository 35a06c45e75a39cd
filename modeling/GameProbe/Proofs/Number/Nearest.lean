import GameProbe.Number.Double
import Mathlib.Data.Nat.Dist
import Mathlib.Tactic.Lemma
import Mathlib.Tactic.Ring

/-!
# The double nearest to a natural number

A natural number that has no more significant bits than a double is a double itself. Any other one
is rounded to the nearest number that has no more, and halfway between two of them to the one that
ends with a zero bit.
-/

namespace GameProbe.Double

/-! ### Significant bits -/

/-- The number has at most so many significant bits: all behind them are zero. -/
def Significant (bits n : Nat) : Prop :=
  ∃ mantissa exponent, mantissa < 2 ^ bits ∧ n = mantissa * 2 ^ exponent

variable {bits n d k below : Nat}

lemma significant_mul (hbits : 0 < bits) (h : below ≤ 2 ^ bits) (k : Nat) :
    Significant bits (below * 2 ^ k) := by
  rcases Nat.lt_or_eq_of_le h with hlt | rfl
  · exact ⟨below, k, hlt, rfl⟩
  · -- the next power of two has but one bit
    exact ⟨1, bits + k, Nat.one_lt_two_pow (Nat.ne_of_gt hbits), by rw [Nat.one_mul, Nat.pow_add]⟩

lemma significant_of_le (hbits : 0 < bits) (h : n ≤ 2 ^ bits) : Significant bits n := by
  simpa using significant_mul hbits h 0

/-- An even number of units of so many bits is a number of one bit less. -/
lemma significant_of_even (hbits : 0 < bits) (h : below ≤ 2 ^ (bits + 1)) (heven : below % 2 = 0)
    (k : Nat) : Significant bits (below * 2 ^ k) := by
  obtain ⟨half, rfl⟩ := Nat.dvd_of_mod_eq_zero heven
  have hhalf : half ≤ 2 ^ bits := by
    rw [Nat.pow_succ] at h
    omega
  have hunits : 2 * half * 2 ^ k = half * 2 ^ (k + 1) := by
    rw [Nat.pow_succ]
    ring
  rw [hunits]
  exact significant_mul hbits hhalf (k + 1)

/-- Between two neighbours there is no number of so many bits. -/
lemma le_or_le_of_significant (hbelow : k = 0 ∨ 2 ^ bits ≤ below)
    (h : Significant (bits + 1) d) : d ≤ below * 2 ^ k ∨ (below + 1) * 2 ^ k ≤ d := by
  rcases hbelow with rfl | hbelow
  · omega
  obtain ⟨mantissa, exponent, hmantissa, rfl⟩ := h
  by_cases hk : k ≤ exponent
  · -- a number of whole units
    obtain ⟨more, rfl⟩ := Nat.exists_eq_add_of_le hk
    have hunits : mantissa * 2 ^ (k + more) = mantissa * 2 ^ more * 2 ^ k := by
      rw [Nat.pow_add]
      ring
    rw [hunits]
    rcases Nat.lt_or_ge below (mantissa * 2 ^ more) with hlt | hle
    · exact .inr (Nat.mul_le_mul_right _ hlt)
    · exact .inl (Nat.mul_le_mul_right _ hle)
  · -- a number that is too small to reach so far
    left
    calc mantissa * 2 ^ exponent
      _ ≤ 2 ^ (bits + 1) * 2 ^ exponent := Nat.mul_le_mul_right _ (Nat.le_of_lt hmantissa)
      _ = 2 ^ bits * 2 ^ (exponent + 1) := by rw [Nat.pow_succ, Nat.pow_succ]; ring
      _ ≤ 2 ^ bits * 2 ^ k :=
        Nat.mul_le_mul_left _ (Nat.pow_le_pow_right (by decide) (by omega))
      _ ≤ below * 2 ^ k := Nat.mul_le_mul_right _ hbelow

/-! ### Rounding -/

/-- `d` is what `n` is rounded to: no number of the precision of a double is nearer, and if another
one is as near, that one has more bits. -/
structure Rounded (n d : Nat) : Prop where
  significant : Significant precision d
  nearest : ∀ d', Significant precision d' → Nat.dist d n ≤ Nat.dist d' n
  even : ∀ d', Significant precision d' → d' ≠ d → Nat.dist d' n = Nat.dist d n →
    Significant (precision - 1) d

/-- The number lies between two neighbours, of which the nearer one is taken. -/
lemma nearest_cases (n : Nat) : ∃ k below excess, n = below * 2 ^ k + excess ∧ excess < 2 ^ k ∧
    below < 2 ^ 53 ∧ (k = 0 ∨ 2 ^ 52 ≤ below) ∧
    nearest n = if 2 * excess < 2 ^ k ∨ 2 * excess = 2 ^ k ∧ below % 2 = 0 then below * 2 ^ k
      else (below + 1) * 2 ^ k := by
  have hlt : n < 2 ^ (n.log2 + 1) := Nat.lt_log2_self
  have hpos : 0 < 2 ^ (n.log2 + 1 - 53) := Nat.two_pow_pos _
  refine ⟨n.log2 + 1 - 53, n / 2 ^ (n.log2 + 1 - 53), n % 2 ^ (n.log2 + 1 - 53), ?_, ?_, ?_, ?_, ?_⟩
  · exact (Nat.div_add_mod' n _).symm
  · exact Nat.mod_lt n hpos
  · rw [Nat.div_lt_iff_lt_mul hpos, ← Nat.pow_add]
    exact Nat.lt_of_lt_of_le hlt (Nat.pow_le_pow_right (by decide) (by omega))
  · by_cases hk : n.log2 + 1 - 53 = 0
    · exact .inl hk
    · right
      have hne : n ≠ 0 := by
        rintro rfl
        exact hk rfl
      rw [Nat.le_div_iff_mul_le hpos, ← Nat.pow_add, show 52 + (n.log2 + 1 - 53) = n.log2 by omega]
      exact Nat.log2_self_le hne
  · rw [nearest, precision, Nat.one_shiftLeft]

theorem rounded_nearest (n : Nat) : Rounded n (nearest n) := by
  obtain ⟨k, below, excess, hn, hexcess, hbelow, hgap, hnearest⟩ := nearest_cases n
  have hbetween : ∀ d, Significant precision d → d ≤ below * 2 ^ k ∨ (below + 1) * 2 ^ k ≤ d :=
    fun d => le_or_le_of_significant hgap
  have hupper : (below + 1) * 2 ^ k = below * 2 ^ k + 2 ^ k := Nat.succ_mul ..
  rw [hnearest]
  split
  · rename_i hdown
    refine ⟨⟨below, k, hbelow, rfl⟩, ?_, ?_⟩
    · intro d hd
      have := hbetween d hd
      simp only [Nat.dist]
      omega
    · intro d hd hne htie
      have := hbetween d hd
      refine significant_of_even (by decide) (Nat.le_of_lt hbelow) ?_ k
      simp only [Nat.dist] at htie
      omega
  · rename_i hup
    refine ⟨significant_mul (by decide) hbelow k, ?_, ?_⟩
    · intro d hd
      have := hbetween d hd
      simp only [Nat.dist]
      omega
    · intro d hd hne htie
      have := hbetween d hd
      refine significant_of_even (by decide) hbelow ?_ k
      simp only [Nat.dist] at htie
      omega

/-- Rounding does not go beyond a number that need not be rounded. -/
lemma Rounded.le_of_le {s : Nat} (h : Rounded n d) (hs : Significant precision s) (hle : n ≤ s) :
    d ≤ s := by
  have hnearest := h.nearest s hs
  simp only [Nat.dist] at hnearest
  omega

/-- Just the numbers of the precision of a double need not be rounded. -/
lemma nearest_eq_self_iff : nearest n = n ↔ Significant precision n := by
  have h := rounded_nearest n
  constructor
  · intro heq
    rw [← heq]
    exact h.significant
  · intro hn
    have hle := h.nearest n hn
    rw [Nat.dist_self, Nat.le_zero] at hle
    exact Nat.eq_of_dist_eq_zero hle

end GameProbe.Double
