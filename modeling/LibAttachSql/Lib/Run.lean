import Mathlib.Data.List.Basic

/-!
# Runs of a step function

A run applies a list of events to a state, one after the other.  `Along` asks a guard of every event at the state
it meets, `Throughout` asks a property of every state reached.  The rules turn what one step preserves into what a
whole run preserves, and, where a step keeps a property exactly when its guard holds, what a run keeps into an
equivalence.
-/

namespace LibAttachSql.Lib

variable {σ ε : Type}

/-- The state after the events `es`. -/
def run (step : σ → ε → σ) (s : σ) (es : List ε) : σ := es.foldl step s

/-- Every event of the run meets the guard at the state it is applied to. -/
def Along (step : σ → ε → σ) (ok : σ → ε → Prop) : σ → List ε → Prop
  | _, [] => True
  | s, e :: es => ok s e ∧ Along step ok (step s e) es

/-- Every state of the run has the property, the first and the last included. -/
def Throughout (step : σ → ε → σ) (P : σ → Prop) : σ → List ε → Prop
  | s, [] => P s
  | s, e :: es => P s ∧ Throughout step P (step s e) es

instance instDecidableAlong {step : σ → ε → σ} {ok : σ → ε → Prop} [∀ s e, Decidable (ok s e)] :
    (s : σ) → (es : List ε) → Decidable (Along step ok s es)
  | _, [] => isTrue trivial
  | s, e :: es => @instDecidableAnd _ _ _ (instDecidableAlong (step s e) es)

section Rules

variable {step : σ → ε → σ} {ok ok' : σ → ε → Prop} {P I : σ → Prop}

@[simp] lemma run_nil (s : σ) : run step s [] = s := rfl

@[simp] lemma run_cons (s : σ) (e : ε) (es : List ε) : run step s (e :: es) = run step (step s e) es := rfl

@[simp] lemma run_append (s : σ) (es fs : List ε) : run step s (es ++ fs) = run step (run step s es) fs :=
  List.foldl_append

@[simp] lemma along_nil (s : σ) : Along step ok s [] ↔ True := Iff.rfl

@[simp] lemma along_cons (s : σ) (e : ε) (es : List ε) :
    Along step ok s (e :: es) ↔ ok s e ∧ Along step ok (step s e) es := Iff.rfl

/-- A guard along a run, cut in two. -/
lemma along_append (s : σ) (es fs : List ε) :
    Along step ok s (es ++ fs) ↔ Along step ok s es ∧ Along step ok (run step s es) fs := by
  induction es generalizing s with
  | nil => simp
  | cons e es ih => simp [ih, and_assoc]

/-- A guard that does not look at the state. -/
lemma along_of_forall {legal : ε → Prop} {es : List ε} (h : ∀ e ∈ es, legal e) (s : σ) :
    Along step (fun _ e => legal e) s es := by
  induction es generalizing s with
  | nil => exact trivial
  | cons e es ih =>
    obtain ⟨he, hes⟩ := List.forall_mem_cons.mp h
    exact ⟨he, ih hes _⟩

lemma Along.imp (h : ∀ s e, ok s e → ok' s e) {s : σ} {es : List ε} (hs : Along step ok s es) :
    Along step ok' s es := by
  induction es generalizing s with
  | nil => exact trivial
  | cons e es ih => exact ⟨h _ _ hs.1, ih hs.2⟩

lemma Along.and {s : σ} {es : List ε} (h : Along step ok s es) (h' : Along step ok' s es) :
    Along step (fun s e => ok s e ∧ ok' s e) s es := by
  induction es generalizing s with
  | nil => exact trivial
  | cons e es ih => exact ⟨⟨h.1, h'.1⟩, ih h.2 h'.2⟩

/-- Runs of two step functions related by a map of their states. -/
lemma run_map {τ : Type} {step' : τ → ε → τ} {f : σ → τ} (h : ∀ s e, f (step s e) = step' (f s) e) (s : σ)
    (es : List ε) : f (run step s es) = run step' (f s) es := by
  induction es generalizing s with
  | nil => rfl
  | cons e es ih => rw [run_cons, run_cons, ih, h]

lemma along_map {τ : Type} {step' : τ → ε → τ} {f : σ → τ} {ok : τ → ε → Prop}
    (h : ∀ s e, f (step s e) = step' (f s) e) (s : σ) (es : List ε) :
    Along step (fun s e => ok (f s) e) s es ↔ Along step' ok (f s) es := by
  induction es generalizing s with
  | nil => exact Iff.rfl
  | cons e es ih => rw [along_cons, along_cons, ih, h]

/-- **The invariant rule for every state of the run.** -/
theorem throughout_of_invariant (hstep : ∀ s e, I s → ok s e → I (step s e)) (hP : ∀ s, I s → P s) {s : σ}
    {es : List ε} (h : I s) (hs : Along step ok s es) : Throughout step P s es := by
  induction es generalizing s with
  | nil => exact hP s h
  | cons e es ih => exact ⟨hP s h, ih (hstep s e h hs.1) hs.2⟩

/-- **The invariant rule for every step of the run.** -/
theorem along_of_invariant (hstep : ∀ s e, I s → ok s e → I (step s e)) (hP : ∀ s e, I s → ok s e → ok' s e) {s : σ}
    {es : List ε} (h : I s) (hs : Along step ok s es) : Along step ok' s es := by
  induction es generalizing s with
  | nil => exact trivial
  | cons e es ih => exact ⟨hP s e h hs.1, ih (hstep s e h hs.1) hs.2⟩

/-- A property of every state holds at the end of every prefix, and conversely. -/
theorem throughout_iff_run {s : σ} {es : List ε} :
    Throughout step P s es ↔ ∀ fs, fs <+: es → P (run step s fs) := by
  induction es generalizing s with
  | nil => simp [Throughout]
  | cons e es ih =>
    constructor
    · rintro ⟨h, hs⟩ fs hfs
      cases fs with
      | nil => exact h
      | cons f fs =>
        obtain ⟨rfl, htail⟩ := List.cons_prefix_cons.mp hfs
        exact ih.mp hs fs htail
    · intro h
      refine ⟨h [] (List.nil_prefix), ih.mpr fun fs hfs => ?_⟩
      exact h (e :: fs) (List.cons_prefix_cons.mpr ⟨rfl, hfs⟩)

/-- **The equivalence rule**: where, from a state with the property, a legal step keeps the property exactly when
it meets the guard, a legal run keeps it throughout exactly when every step meets the guard. -/
theorem throughout_iff_along {legal : σ → ε → Prop}
    (hI : ∀ s e, I s → P s → legal s e → P (step s e) → I (step s e))
    (hP : ∀ s e, I s → P s → legal s e → (P (step s e) ↔ ok s e)) {s : σ} {es : List ε}
    (hIs : I s) (hPs : P s) (hl : Along step legal s es) :
    Throughout step P s es ↔ Along step ok s es := by
  induction es generalizing s with
  | nil => simpa [Throughout] using hPs
  | cons e es ih =>
    have hnext := hP s e hIs hPs hl.1
    constructor
    · rintro ⟨-, h⟩
      have hPe : P (step s e) := by
        cases es with
        | nil => exact h
        | cons _ _ => exact h.1
      exact ⟨hnext.mp hPe, (ih (hI s e hIs hPs hl.1 hPe) hPe hl.2).mp h⟩
    · rintro ⟨he, h⟩
      have hPe := hnext.mpr he
      exact ⟨hPs, (ih (hI s e hIs hPs hl.1 hPe) hPe hl.2).mpr h⟩

end Rules

end LibAttachSql.Lib
