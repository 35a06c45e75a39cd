import GameProbe.Status.ServerInfo
import GameProbe.Proofs.Number.Nearest

/-!
# Integers in server info

A number of a status may be written with a fraction, so all of them are taken as doubles, also those
that are integers of 64 bits. An integer of more bits than a double has comes out rounded.
-/

namespace GameProbe.Status

/-- The numbers of a status that server info shows. -/
inductive Figure
  | protocol
  | maxPlayers
  | onlinePlayers

/-- The key of the object that has the number, and its own key there. -/
def Figure.path : Figure → String × String
  | protocol => ("version", "protocol")
  | maxPlayers => ("players", "max")
  | onlinePlayers => ("players", "online")

/-- The number as server info shows it. -/
def Figure.of (info : ServerInfo) : Figure → Int64
  | protocol => info.protocol
  | maxPlayers => info.maxPlayers
  | onlinePlayers => info.onlinePlayers

/-- The properties of a status have the value in the place of the number. -/
def Figure.Holds (figure : Figure) (properties : Json.Object) (value : Json.Value) : Prop :=
  ∃ members, properties.get? figure.path.1 = some (.object members) ∧
    Json.Object.get? members figure.path.2 = some value

variable {figure : Figure} {properties : Json.Object}

/-- Nothing else in the properties has a part in the number. -/
lemma Figure.of_ofProperties {value : Json.Value} (h : figure.Holds properties value) :
    figure.of (.ofProperties properties) = numberOf (some value) := by
  obtain ⟨members, hmembers, hvalue⟩ := h
  have hread : figure.of (.ofProperties properties) =
      numberOf ((membersOf (properties.get? figure.path.1)).get? figure.path.2) := by
    cases figure <;> rfl
  have hobject : membersOf (some (.object members)) = members := rfl
  rw [hread, hmembers, hobject, hvalue]

/-! ### By way of a double -/

lemma truncate_ofInt (n : Int64) : (Json.Number.ofInt n.toInt).truncate =
    n.toInt.sign * (Double.nearest n.toInt.natAbs : Int) := by
  rcases Int.lt_trichotomy n.toInt 0 with hneg | hzero | hpos
  · rw [Json.Number.ofInt, if_pos hneg, Int64.ofInt_toInt, Int.sign_eq_neg_one_of_neg hneg]
    exact (Int.neg_one_mul _).symm
  · rw [hzero]
    rfl
  · have hlt : n.toInt.toNat < UInt64.size := by
      have := n.toInt_lt
      simp only [UInt64.size]
      omega
    have hnat : (UInt64.ofNat n.toInt.toNat).toNat = n.toInt.natAbs := by
      rw [UInt64.toNat_ofNat_of_lt' hlt]
      omega
    rw [Json.Number.ofInt, if_neg (Int.lt_asymm hpos), Json.Number.truncate, hnat,
      Int.sign_eq_one_of_pos hpos, Int.one_mul]

lemma toInt_clampInt64 {m : Int} (h : -2 ^ 63 ≤ m) :
    (clampInt64 m).toInt = min m (2 ^ 63 - 1) := by
  have hmin : Int64.minValue.toInt = -2 ^ 63 := rfl
  have hmax : Int64.maxValue.toInt = 2 ^ 63 - 1 := rfl
  rw [clampInt64]
  split_ifs with hlow hhigh
  · omega
  · omega
  · rw [Int64.toInt_ofInt_of_le (by omega) (by omega)]
    omega

/-- An integer of 64 bits is rounded to another one, or to the number behind the largest. -/
lemma nearest_le (n : Int64) : Double.nearest n.toInt.natAbs ≤ 2 ^ 63 := by
  have hlow := n.le_toInt
  have hhigh := n.toInt_lt
  refine (Double.rounded_nearest _).le_of_le ⟨1, 63, by decide, by decide⟩ ?_
  omega

lemma toInt_numberOf_ofInt (n : Int64) : (numberOf (some (.ofInt n.toInt))).toInt =
    min (n.toInt.sign * Double.nearest n.toInt.natAbs) (2 ^ 63 - 1) := by
  have hle := nearest_le n
  rw [← truncate_ofInt, ← toInt_clampInt64]
  · rfl
  · rw [truncate_ofInt]
    rcases Int.sign_trichotomy n.toInt with h | h | h <;> rw [h] <;> omega

lemma toInt_numberOf_ofInt_eq_iff (n : Int64) :
    (numberOf (some (.ofInt n.toInt))).toInt = n.toInt ↔
      Double.Significant Double.precision n.toInt.natAbs ∨ n.toInt = 2 ^ 63 - 1 := by
  have hhigh := n.toInt_lt
  -- the largest integer is no double, but it is as far as the double behind it is cut down
  have hlargest : n.toInt = 2 ^ 63 - 1 → Double.nearest n.toInt.natAbs = 2 ^ 63 := by
    intro h
    rw [h]
    decide
  rw [toInt_numberOf_ofInt, ← Double.nearest_eq_self_iff]
  rcases Int.lt_trichotomy n.toInt 0 with hneg | hzero | hpos
  · rw [Int.sign_eq_neg_one_of_neg hneg]
    omega
  · rw [hzero]
    decide
  · rw [Int.sign_eq_one_of_pos hpos]
    omega

/-! ### The numbers of server info -/

/-- An integer of 64 bits is shown as the double nearest to it, and where this is beyond all of
them, as the largest one. So an integer is shown as it is just if it has no more significant bits
than a double or is the largest one. -/
theorem integers_shown_as_doubles (figure : Figure) (properties : Json.Object) (n : Int64)
    (h : figure.Holds properties (.ofInt n.toInt)) :
    (∃ d, Double.Rounded n.toInt.natAbs d ∧
      (figure.of (.ofProperties properties)).toInt = min (n.toInt.sign * d) (2 ^ 63 - 1)) ∧
    (figure.of (.ofProperties properties) = n ↔
      Double.Significant Double.precision n.toInt.natAbs ∨ n.toInt = 2 ^ 63 - 1) ∧
    (n.toInt.natAbs ≤ 2 ^ 53 → figure.of (.ofProperties properties) = n) := by
  have hexact := toInt_numberOf_ofInt_eq_iff n
  rw [Int64.toInt_inj] at hexact
  rw [Figure.of_ofProperties h]
  refine ⟨⟨Double.nearest n.toInt.natAbs, ?_, toInt_numberOf_ofInt n⟩, hexact, ?_⟩
  · exact Double.rounded_nearest _
  · intro hle
    exact hexact.mpr (.inl (Double.significant_of_le (by decide) hle))

/-- Properties with both limits of 64 bits, and with an odd number of 54 bits. -/
def longNumbers : Json.Object :=
  [("players", .object [("max", .ofInt 9223372036854775807), ("online", .ofInt (-2 ^ 63))]),
    ("version", .object [("name", .string "1.20.4"), ("protocol", .ofInt 9007199254740993)])]

theorem integers_shown_as_doubles_of_limits :
    Figure.maxPlayers.of (.ofProperties longNumbers) = Int64.maxValue ∧
    Figure.onlinePlayers.of (.ofProperties longNumbers) = Int64.minValue ∧
    Figure.protocol.of (.ofProperties longNumbers) ≠ 9007199254740993 := by
  obtain ⟨-, hmax, -⟩ :=
    integers_shown_as_doubles .maxPlayers longNumbers Int64.maxValue ⟨_, rfl, rfl⟩
  obtain ⟨-, honline, -⟩ :=
    integers_shown_as_doubles .onlinePlayers longNumbers Int64.minValue ⟨_, rfl, rfl⟩
  obtain ⟨-, hprotocol, -⟩ :=
    integers_shown_as_doubles .protocol longNumbers 9007199254740993 ⟨_, rfl, rfl⟩
  refine ⟨hmax.mpr (.inr rfl), honline.mpr (.inl ⟨1, 63, by decide, by decide⟩), ?_⟩
  rw [Ne, hprotocol, ← Double.nearest_eq_self_iff]
  decide

/-- So `2 ^ 53 + 1` is not shown as it is. -/
theorem integers_not_all_exact : ¬∀ (figure : Figure) (properties : Json.Object) (n : Int64),
    figure.Holds properties (.ofInt n.toInt) → figure.of (.ofProperties properties) = n := by
  intro h
  have hexact := h .protocol longNumbers 9007199254740993 ⟨_, rfl, rfl⟩
  revert hexact
  decide

end GameProbe.Status
