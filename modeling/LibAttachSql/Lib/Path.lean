import Mathlib.Data.List.Basic

/-!
# Paths of labelled moves

A relation of moves between states, each with the actions it takes, newest first, and the paths made of them.  The
rules carry an invariant of a state and the actions so far along a path whose actions are all allowed.
-/

namespace LibAttachSql.Lib

variable {σ α : Type}

/-- A path of moves, with the actions of all of them, newest first. -/
inductive Path (Move : σ → List α → σ → Prop) (s : σ) : List α → σ → Prop
  | refl : Path Move s [] s
  | snoc {x y : List α} {t u : σ} (h : Path Move s x t) (hm : Move t y u) : Path Move s (y ++ x) u

namespace Path

variable {Move Move' : σ → List α → σ → Prop} {s t u : σ} {x y : List α}

lemma single (h : Move s x t) : Path Move s x t := by
  have hrefl : Path Move s [] s := .refl
  have := hrefl.snoc h
  rwa [List.append_nil] at this

lemma trans (h : Path Move s x t) (h' : Path Move t y u) : Path Move s (y ++ x) u := by
  induction h' with
  | refl => exact h
  | snoc _ hm ih =>
    rw [List.append_assoc]
    exact ih.snoc hm

lemma mono (hM : ∀ {s y t}, Move s y t → Move' s y t) (h : Path Move s x t) : Path Move' s x t := by
  induction h with
  | refl => exact .refl
  | snoc _ hm ih => exact ih.snoc (hM hm)

/-- **The invariant rule for paths**: what every move with allowed actions preserves holds at the end. -/
theorem invariant {I : σ → List α → Prop} {ok : α → Prop}
    (hstep : ∀ {s x y t}, I s x → Move s y t → (∀ a ∈ y, ok a) → I t (y ++ x))
    (h : Path Move s y t) (hI : I s x) (hok : ∀ a ∈ y, ok a) : I t (y ++ x) := by
  induction h with
  | refl => exact hI
  | snoc _ hm ih =>
    rw [List.append_assoc]
    exact hstep (ih fun a ha => hok a (List.mem_append_right _ ha)) hm fun a ha => hok a (List.mem_append_left _ ha)

/-- The invariant rule when every action is allowed. -/
theorem preserves {I : σ → List α → Prop} (hstep : ∀ {s x y t}, I s x → Move s y t → I t (y ++ x))
    (h : Path Move s y t) (hI : I s x) : I t (y ++ x) :=
  h.invariant (fun hs hm (_ : ∀ _ ∈ _, True) => hstep hs hm) hI fun _ _ => trivial

end Path

/-! ### Histories -/

/-- Every action of a history, newest first, has the property against the actions before it. -/
def Chronicle (P : α → List α → Prop) : List α → Prop
  | [] => True
  | a :: x => P a x ∧ Chronicle P x

instance instDecidableChronicle {P : α → List α → Prop} [∀ a x, Decidable (P a x)] : (x : List α) → Decidable (Chronicle P x)
  | [] => isTrue trivial
  | _ :: x => @instDecidableAnd _ _ _ (instDecidableChronicle x)

namespace Chronicle

variable {P : α → List α → Prop} {a : α} {x y : List α}

/-- What was so at the end was so at every time before. -/
lemma suffix (h : Chronicle P (y ++ x)) : Chronicle P x := by
  induction y with
  | nil => exact h
  | cons a y ih => exact ih h.2

/-- The first of some actions that came later. -/
lemma first (h : Chronicle P (y ++ a :: x)) : P a x := h.suffix.1

lemma append (hy : ∀ a ∈ y, ∀ x, P a x) (h : Chronicle P x) : Chronicle P (y ++ x) := by
  induction y with
  | nil => exact h
  | cons a y ih =>
    exact ⟨hy a (List.mem_cons_self ..) _, ih fun b hb => hy b (List.mem_cons_of_mem _ hb)⟩

end Chronicle

/-- Where an action stands behind some that it is not among. -/
lemma split_behind {a : α} {w t y z : List α} (ha : a ∉ w) (h : w ++ t = y ++ a :: z) :
    ∃ y', y = w ++ y' ∧ t = y' ++ a :: z := by
  rcases List.append_eq_append_iff.mp h with ⟨as, hy, ht⟩ | ⟨bs, hw, hz⟩
  · exact ⟨as, hy, ht⟩
  · cases bs with
    | nil => exact ⟨[], by rw [List.append_nil, hw, List.append_nil], hz.symm⟩
    | cons b bs =>
      obtain ⟨rfl, -⟩ := List.cons.inj hz
      exact absurd (hw ▸ List.mem_append_right _ (List.mem_cons_self ..)) ha

end LibAttachSql.Lib
