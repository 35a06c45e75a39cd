import Mathlib.Data.List.Basic

/-!
# Parts

A delimiter parts a list in just one way: into lists that do not hold the delimiter and that, joined
by it, are the list again.
-/

namespace List

variable {α : Type*} [BEq α] [LawfulBEq α] {x : α} {xs : List α}

lemma notMem_of_mem_splitOn {part : List α} (h : part ∈ xs.splitOn x) : x ∉ part := by
  induction xs generalizing part with
  | nil =>
    rw [splitOn_nil, mem_singleton] at h
    rw [h]
    exact not_mem_nil
  | cons head xs ih =>
    obtain ⟨first, rest, hsplit⟩ := exists_cons_of_ne_nil (splitOn_ne_nil x xs)
    rw [hsplit] at ih
    rw [splitOn_cons_eq_if_modifyHead, hsplit] at h
    split at h
    · rcases mem_cons.mp h with rfl | h
      · exact not_mem_nil
      · exact ih h
    · rename_i hhead
      rcases mem_cons.mp h with rfl | h
      · -- the first part has one more item, which is not the delimiter
        rw [mem_cons, not_or]
        exact ⟨fun heq => hhead (beq_iff_eq.mpr heq.symm), ih mem_cons_self⟩
      · exact ih (mem_cons_of_mem _ h)

/-- A list is split into the parts of which it is joined. -/
lemma splitOn_eq_iff {parts : List (List α)} : xs.splitOn x = parts ↔
    parts ≠ [] ∧ (∀ part ∈ parts, x ∉ part) ∧ [x].intercalate parts = xs := by
  constructor
  · rintro rfl
    exact ⟨splitOn_ne_nil _ _, fun _ => notMem_of_mem_splitOn, intercalate_splitOn _⟩
  · rintro ⟨hne, hnot, rfl⟩
    exact splitOn_intercalate _ hnot hne

end List
