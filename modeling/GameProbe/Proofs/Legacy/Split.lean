import GameProbe.Legacy.Kick
import GameProbe.Proofs.Text.Utf16

/-!
# Fields cut out of bytes

The fields of a legacy answer are cut out of its bytes two at a time, so that the halves of two
neighbouring code units never make a delimiter. What is cut out are the bytes of the fields that the
code units are split into.
-/

namespace GameProbe.Legacy

open Utf16

/-- The code units of the marker. -/
def markerUnits : List UInt16 := [0xA7, 0x31, 0]

lemma marker_eq : marker = markerUnits.flatMap unitBytes := rfl

lemma newerDelimiter_eq : newerDelimiter = unitBytes 0 := rfl

lemma olderDelimiter_eq : olderDelimiter = unitBytes 0xA7 := rfl

lemma unitBytes_injective : Function.Injective unitBytes := by
  intro unit unit' h
  have hflat : [unit].flatMap unitBytes = [unit'].flatMap unitBytes := by simp [h]
  exact List.singleton_inj.mp (flatMap_unitBytes_injective hflat)

/-- Bytes begin with those of other code units just if their code units begin with them. -/
lemma flatMap_unitBytes_prefix_iff {units all : List UInt16} :
    units.flatMap unitBytes <+: all.flatMap unitBytes ↔ units <+: all := by
  constructor
  · intro h
    induction units generalizing all with
    | nil => exact List.nil_prefix
    | cons unit units ih =>
      cases all with
      | nil => cases List.prefix_nil.mp h
      | cons next all =>
        rw [List.flatMap_cons, List.flatMap_cons] at h
        obtain ⟨rest, hrest⟩ := h
        rw [List.append_assoc] at hrest
        obtain ⟨hunit, hunits⟩ := List.append_inj hrest rfl
        exact List.cons_prefix_cons.mpr ⟨unitBytes_injective hunit, ih ⟨rest, hunits⟩⟩
  · rintro ⟨rest, rfl⟩
    rw [List.flatMap_append]
    exact List.prefix_append _ _

variable {delimiter : UInt16}

lemma splitFields_go_unitBytes (fields : List Bytes) (field : Bytes) (unit : UInt16)
    (rest : Bytes) :
    splitFields.go (unitBytes delimiter) fields field (unitBytes unit ++ rest) =
      if unit = delimiter then
        splitFields.go (unitBytes delimiter) (field.reverse :: fields) [] rest
      else
        splitFields.go (unitBytes delimiter) fields ((unitBytes unit).reverse ++ field) rest := by
  simp only [← unitBytes_injective.eq_iff]
  rfl

/-- What the loop has of a field is the beginning of the first one that it has still to find. -/
lemma splitFields_go (fields : List Bytes) (field : Bytes) (units : List UInt16) :
    splitFields.go (unitBytes delimiter) fields field (units.flatMap unitBytes) =
      fields.reverse ++
        ((units.splitOn delimiter).map (·.flatMap unitBytes)).modifyHead (field.reverse ++ ·) := by
  induction units generalizing fields field with
  | nil => simp [splitFields.go]
  | cons unit units ih =>
    rw [List.flatMap_cons, splitFields_go_unitBytes, List.splitOn_cons_eq_if_modifyHead]
    by_cases h : unit = delimiter
    · rw [if_pos h, ih]
      cases units.splitOn delimiter <;> simp [h]
    · rw [if_neg h, ih]
      cases units.splitOn delimiter <;> simp [h]

/-- The loop over the bytes cuts them where the code units are split. -/
lemma splitFields_flatMap_unitBytes (delimiter : UInt16) (units : List UInt16) :
    splitFields (unitBytes delimiter) (units.flatMap unitBytes) =
      (units.splitOn delimiter).map (·.flatMap unitBytes) := by
  rw [splitFields, splitFields_go]
  cases units.splitOn delimiter <;> simp

end GameProbe.Legacy
