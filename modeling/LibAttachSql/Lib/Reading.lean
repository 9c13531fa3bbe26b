import LibAttachSql.Lib.Memory
import Mathlib.Data.Set.Basic
import Mathlib.Order.Interval.Set.Defs

/-!
# Computations that read a memory

A `Reading` is a computation as a tree: it is done, or it reads a cell and goes on with what it found there.  So the places
it reads may depend on what it read before, and its answer depends on nothing else.  `reads` lists these places for a memory,
`Within` says that they all lie in a set, and then any memory that agrees on the set gives the same answer.
-/

namespace LibAttachSql.Lib

/-- A computation that reads cells of a memory, one after the other. -/
inductive Reading (α β : Type) where
  | done (b : β)
  | cell (p : ℕ) (next : α → Reading α β)

namespace Reading

variable {α β γ : Type}

/-- The answer. -/
def run (m : Memory α) : Reading α β → β
  | done b => b
  | cell p next => (next (m p)).run m

/-- The places that are read, in order. -/
def reads (m : Memory α) : Reading α β → List ℕ
  | done _ => []
  | cell p next => p :: (next (m p)).reads m

/-- One computation after the other. -/
def andThen : Reading α β → (β → Reading α γ) → Reading α γ
  | done b, f => f b
  | cell p next, f => cell p fun a => (next a).andThen f

instance : Monad (Reading α) where
  pure := done
  bind := andThen

/-- The cell at an address. -/
def get (p : ℕ) : Reading α α := cell p done

/-- The `n` cells from an address on. -/
def block (p : ℕ) : ℕ → Reading α (List α)
  | 0 => pure []
  | n + 1 => do
    let a ← get p
    let as ← block (p + 1) n
    pure (a :: as)

/-- The cells from an address on up to a cell that stops the reading, which is read but not answered, or up to `n` of
them. -/
def scan (stop : α → Bool) (p : ℕ) : ℕ → Reading α (List α)
  | 0 => pure []
  | n + 1 => do
    let a ← get p
    if stop a then pure []
    else
      let as ← scan stop (p + 1) n
      pure (a :: as)

/-- All places that are read lie in a set. -/
def Within (m : Memory α) (s : Set ℕ) (x : Reading α β) : Prop := ∀ p ∈ x.reads m, p ∈ s

variable {m m' : Memory α} {s : Set ℕ}

/-! ### Answers -/

@[simp] lemma run_pure (b : β) : (pure b : Reading α β).run m = b := rfl

@[simp] lemma run_get (p : ℕ) : (get p : Reading α α).run m = m p := rfl

@[simp] lemma run_bind (x : Reading α β) (f : β → Reading α γ) : (x >>= f).run m = (f (x.run m)).run m := by
  induction x with
  | done b => rfl
  | cell p next ih => exact ih (m p)

@[simp] lemma run_block (p n : ℕ) : (block p n).run m = m.slice p n := by
  induction n generalizing p with
  | zero => rfl
  | succ n ih => rw [block, run_bind, run_bind, run_pure, run_get, ih, Memory.slice_succ]

@[simp] lemma run_scan (stop : α → Bool) (p n : ℕ) :
    (scan stop p n).run m = (m.slice p n).takeWhile fun a => !stop a := by
  induction n generalizing p with
  | zero => rfl
  | succ n ih =>
    rw [scan, run_bind, run_get, Memory.slice_succ, List.takeWhile_cons]
    by_cases h : stop (m p) = true
    · rw [if_pos h, h, run_pure]
      rfl
    · have hgo : stop (m p) = false := Bool.eq_false_of_not_eq_true h
      rw [if_neg h, run_bind, run_pure, ih, hgo]
      rfl

/-! ### Places -/

lemma reads_bind (x : Reading α β) (f : β → Reading α γ) :
    (x >>= f).reads m = x.reads m ++ (f (x.run m)).reads m := by
  induction x with
  | done b => rfl
  | cell p next ih => exact congrArg (p :: ·) (ih (m p))

@[simp] lemma within_pure (b : β) : (pure b : Reading α β).Within m s ↔ True :=
  iff_true_intro fun _ hp => absurd hp List.not_mem_nil

@[simp] lemma within_get (p : ℕ) : (get p : Reading α α).Within m s ↔ p ∈ s := List.forall_mem_singleton

@[simp] lemma within_bind (x : Reading α β) (f : β → Reading α γ) :
    (x >>= f).Within m s ↔ x.Within m s ∧ (f (x.run m)).Within m s := by
  unfold Within
  rw [reads_bind]
  exact List.forall_mem_append

lemma within_block (p n : ℕ) : (block p n).Within m s ↔ ∀ i < n, p + i ∈ s := by
  induction n generalizing p with
  | zero => simp [block]
  | succ n ih =>
    rw [block, within_bind, within_get, run_get, within_bind, ih]
    constructor
    · rintro ⟨h₀, h, -⟩ i hi
      cases i with
      | zero => exact h₀
      | succ i =>
        rw [← Nat.succ_add_eq_add_succ]
        exact h i (by omega)
    · intro h
      refine ⟨h 0 (by omega), fun i hi => ?_, fun _ hp => absurd hp List.not_mem_nil⟩
      rw [Nat.add_assoc, Nat.add_comm 1 i]
      exact h (i + 1) (by omega)

/-- A reading that may stop early reads one cell more than it answers, or all of them. -/
lemma within_scan (stop : α → Bool) (p n : ℕ) : (scan stop p n).Within m s ↔
    ∀ i < n, i ≤ ((m.slice p n).takeWhile fun a => !stop a).length → p + i ∈ s := by
  induction n generalizing p with
  | zero => simp [scan]
  | succ n ih =>
    rw [scan, within_bind, within_get, run_get, Memory.slice_succ, List.takeWhile_cons]
    by_cases h : stop (m p) = true
    · rw [if_pos h, h]
      constructor
      · rintro ⟨h₀, -⟩ i - hi
        obtain rfl : i = 0 := Nat.le_zero.mp hi
        exact h₀
      · exact fun hall => ⟨hall 0 (by omega) (Nat.zero_le _), fun _ hp => absurd hp List.not_mem_nil⟩
    · have hgo : stop (m p) = false := Bool.eq_false_of_not_eq_true h
      rw [if_neg h, hgo, within_bind, ih]
      constructor
      · rintro ⟨h₀, hall, -⟩ i hi hlen
        cases i with
        | zero => exact h₀
        | succ i =>
          rw [← Nat.succ_add_eq_add_succ]
          exact hall i (by omega) (Nat.le_of_succ_le_succ hlen)
      · intro hall
        refine ⟨hall 0 (by omega) (Nat.zero_le _), fun i hi hlen => ?_, fun _ hp => absurd hp List.not_mem_nil⟩
        rw [Nat.add_assoc, Nat.add_comm 1 i]
        exact hall (i + 1) (by omega) (Nat.succ_le_succ hlen)

/-- **Nothing but what is read matters**: memories that agree on the places of one run have the same run. -/
theorem run_congr {x : Reading α β} (h : x.Within m s) (hm : ∀ p ∈ s, m p = m' p) :
    x.run m = x.run m' ∧ x.reads m = x.reads m' := by
  induction x with
  | done b => exact ⟨rfl, rfl⟩
  | cell p next ih =>
    obtain ⟨hp, hnext⟩ := List.forall_mem_cons.mp h
    obtain ⟨hrun, hreads⟩ := ih (m p) hnext
    have heq := hm p hp
    unfold run reads
    rw [← heq]
    exact ⟨hrun, congrArg (p :: ·) hreads⟩

/-! ### Intervals -/

section Interval

variable {lo hi : ℕ}

/-- A block that is not empty lies in an interval as soon as its ends do. -/
lemma within_block_Ico {n : ℕ} (hn : 0 < n) (p : ℕ) :
    (block p n).Within m (Set.Ico lo hi) ↔ lo ≤ p ∧ p + n ≤ hi := by
  rw [within_block]
  constructor
  · intro h
    have hfirst := h 0 hn
    have hlast := h (n - 1) (by omega)
    rw [Set.mem_Ico] at hfirst hlast
    omega
  · rintro ⟨hlo, hhi⟩ i hi'
    rw [Set.mem_Ico]
    omega

/-- The same for a block that may be empty, behind a place of the interval. -/
lemma within_block_Ico_of_le {p n : ℕ} (hlo : lo ≤ p) (hhi : p ≤ hi) :
    (block p n).Within m (Set.Ico lo hi) ↔ p + n ≤ hi := by
  rcases Nat.eq_zero_or_pos n with rfl | hn
  · simp [block, hhi]
  · rw [within_block_Ico hn]
    omega

end Interval

end Reading

end LibAttachSql.Lib
