import Mathlib.Data.List.Basic
import Mathlib.Data.List.Flatten

/-!
# Streams in records

A stream that arrives in records and is read record by record: a read returns at most one record, and at most so much of
it as was asked for; the rest of a record stays in front.  Reading loses nothing, and leaves nothing exactly when there
was at most one record and it was asked for whole.
-/

namespace LibAttachSql.Lib

variable {α : Type}

/-- A read of at most `n` elements: what is read, and the records that are left. -/
def readRecord (n : ℕ) : List (List α) → List α × List (List α)
  | [] => ([], [])
  | r :: rs => if r.length ≤ n then (r, rs) else (r.take n, r.drop n :: rs)

variable {n : ℕ} {rs : List (List α)}

lemma readRecord_cons (n : ℕ) (r : List α) (rs : List (List α)) :
    readRecord n (r :: rs) = if r.length ≤ n then (r, rs) else (r.take n, r.drop n :: rs) := rfl

/-- **Reading loses nothing.** -/
lemma readRecord_flatten (n : ℕ) (rs : List (List α)) :
    (readRecord n rs).1 ++ (readRecord n rs).2.flatten = rs.flatten := by
  cases rs with
  | nil => rfl
  | cons r rs =>
    rw [readRecord_cons]
    split_ifs
    · rfl
    · rw [List.flatten_cons, List.flatten_cons, ← List.append_assoc, List.take_append_drop]

/-- Records stay nonempty. -/
lemma readRecord_ne_nil (h : ∀ r ∈ rs, r ≠ []) : ∀ r ∈ (readRecord n rs).2, r ≠ [] := by
  cases rs with
  | nil => exact h
  | cons r rs =>
    obtain ⟨hr, hrs⟩ := List.forall_mem_cons.mp h
    rw [readRecord_cons]
    split_ifs with hn
    · exact hrs
    · refine List.forall_mem_cons.mpr ⟨fun hnil => hn ?_, hrs⟩
      exact List.drop_eq_nil_iff.mp hnil

/-- A read of something from records that are not empty reads something. -/
lemma readRecord_read_ne_nil (h : ∀ r ∈ rs, r ≠ []) (hrs : rs ≠ []) (hn : 0 < n) : (readRecord n rs).1 ≠ [] := by
  cases rs with
  | nil => exact absurd rfl hrs
  | cons r rs =>
    have hr : r ≠ [] := h r (List.mem_cons_self ..)
    have hlen := List.length_pos_iff.mpr hr
    rw [readRecord_cons]
    split_ifs
    · exact hr
    · exact List.ne_nil_of_length_pos (by rw [List.length_take]; omega)

/-- **A read leaves nothing** exactly when there is at most one record, and it is asked for whole. -/
lemma readRecord_rest_nil_iff : (readRecord n rs).2 = [] ↔ rs.length ≤ 1 ∧ ∀ r ∈ rs, r.length ≤ n := by
  cases rs with
  | nil => simp [readRecord]
  | cons r rs =>
    rw [readRecord_cons]
    split_ifs with hn
    · show rs = [] ↔ _
      constructor
      · rintro rfl
        exact ⟨Nat.le_refl 1, List.forall_mem_cons.mpr ⟨hn, nofun⟩⟩
      · rintro ⟨hlen, -⟩
        rw [List.length_cons] at hlen
        exact List.length_eq_zero_iff.mp (by omega)
    · refine iff_of_false nofun fun ⟨_, h⟩ => hn (h r (List.mem_cons_self ..))

/-- Records that are not empty have something in them. -/
lemma flatten_eq_nil_iff_of_ne_nil (h : ∀ r ∈ rs, r ≠ []) : rs.flatten = [] ↔ rs = [] := by
  refine ⟨fun hf => ?_, fun hr => by rw [hr]; rfl⟩
  cases rs with
  | nil => rfl
  | cons r rs => exact absurd (List.append_eq_nil_iff.mp hf).1 (h r (List.mem_cons_self ..))

/-- Empty records carry nothing. -/
lemma flatten_filter_ne_nil [DecidableEq α] (rs : List (List α)) : (rs.filter (· ≠ [])).flatten = rs.flatten := by
  induction rs with
  | nil => rfl
  | cons r rs ih =>
    by_cases hr : r = []
    · rw [List.filter_cons_of_neg (by simpa using hr), ih, hr]
      rfl
    · rw [List.filter_cons_of_pos (by simpa using hr), List.flatten_cons, List.flatten_cons, ih]

end LibAttachSql.Lib
