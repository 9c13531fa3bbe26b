import Mathlib.Data.List.Basic
import Mathlib.Data.List.Perm.Basic
import Mathlib.Data.List.Nodup
import Mathlib.Data.List.Perm.Subperm

/-!
# Objects that are released by hand

A heap numbers the objects that were made, with a flag for each that says whether it is live, and remembers whether an
object was ever released twice or used after its release.  `Owns` is the discipline that keeps it clean: a list of
distinct live objects, from which an object is struck when it is released.
-/

namespace LibAttachSql.Lib

/-- The objects made so far, by number, with a flag that says which are live, and whether one was misused. -/
structure Heap where
  live : List Bool
  misused : Bool
  deriving DecidableEq

namespace Heap

/-- The heap before anything is made. -/
def empty : Heap := { live := [], misused := false }

/-- The number the next object gets. -/
def next (h : Heap) : ℕ := h.live.length

/-- An object is made. -/
def alloc (h : Heap) : Heap := { h with live := h.live ++ [true] }

/-- Whether an object is live. -/
def isLive (h : Heap) (i : ℕ) : Bool := h.live[i]? == some true

/-- An object is read or written. -/
def use (h : Heap) (i : ℕ) : Heap := if h.isLive i then h else { h with misused := true }

/-- An object is released. -/
def release (h : Heap) (i : ℕ) : Heap :=
  if h.isLive i then { h with live := h.live.set i false } else { h with misused := true }

/-- Objects are read or written, one after the other. -/
def useAll (h : Heap) (is : List ℕ) : Heap := is.foldl use h

/-- Objects are released, one after the other. -/
def releaseAll (h : Heap) (is : List ℕ) : Heap := is.foldl release h

/-- The heap is clean, and these are different live objects in it. -/
structure Owns (h : Heap) (is : List ℕ) : Prop where
  clean : h.misused = false
  nodup : is.Nodup
  live : ∀ i ∈ is, h.isLive i = true

variable {h : Heap} {is js : List ℕ} {i j : ℕ}

lemma isLive_lt (hi : h.isLive i = true) : i < h.live.length := by
  by_contra hge
  rw [isLive, List.getElem?_eq_none (by omega)] at hi
  cases hi

lemma isLive_alloc_next : h.alloc.isLive h.next = true := by
  simp [isLive, alloc, next]

lemma isLive_alloc (hi : h.isLive i = true) : h.alloc.isLive i = true := by
  have hlt := isLive_lt hi
  unfold isLive at hi ⊢
  rwa [alloc, List.getElem?_append_left hlt]

lemma isLive_release_of_ne (hi : h.isLive i = true) (hne : i ≠ j) : (h.release j).isLive i = true := by
  unfold release
  split
  · unfold isLive at hi ⊢
    rwa [List.getElem?_set_ne (Ne.symm hne)]
  · exact hi

/-- A released object is not live. -/
lemma isLive_release_self (hi : h.isLive i = true) : (h.release i).isLive i = false := by
  have hlt := isLive_lt hi
  unfold release
  rw [if_pos hi]
  simp [isLive, hlt]

/-- A live object is the new one or was live before. -/
lemma isLive_of_alloc (hi : h.alloc.isLive i = true) : i = h.next ∨ h.isLive i = true := by
  by_cases hne : i = h.next
  · exact .inl hne
  · have hlt := isLive_lt hi
    unfold next at hne
    unfold isLive alloc at hi
    rw [alloc, List.length_append, List.length_singleton] at hlt
    rw [List.getElem?_append_left (by omega)] at hi
    exact .inr hi

/-- An object that is live after another was released was live before. -/
lemma isLive_of_release (hi : (h.release j).isLive i = true) : h.isLive i = true := by
  by_cases hne : i = j
  · by_contra hj
    rw [hne] at hi hj
    rw [release, if_neg hj] at hi
    exact hj hi
  · unfold release at hi
    split at hi
    · unfold isLive at hi ⊢
      rwa [List.getElem?_set_ne (Ne.symm hne)] at hi
    · exact hi

namespace Owns

lemma empty : Heap.empty.Owns [] := ⟨rfl, .nil, nofun⟩

lemma perm (ho : h.Owns is) (hp : is.Perm js) : h.Owns js :=
  ⟨ho.clean, hp.nodup_iff.mp ho.nodup, fun i hi => ho.live i (hp.mem_iff.mpr hi)⟩

/-- Objects that are forgotten do not hurt. -/
lemma sublist (ho : h.Owns is) (hs : js.Sublist is) : h.Owns js :=
  ⟨ho.clean, ho.nodup.sublist hs, fun i hi => ho.live i (hs.subset hi)⟩

/-- The next object is none of those that are owned. -/
lemma next_notMem (ho : h.Owns is) : h.next ∉ is :=
  fun hmem => absurd (isLive_lt (ho.live _ hmem)) (Nat.lt_irrefl _)

/-- A new object is another one. -/
lemma alloc (ho : h.Owns is) : h.alloc.Owns (h.next :: is) where
  clean := ho.clean
  nodup := List.nodup_cons.mpr ⟨ho.next_notMem, ho.nodup⟩
  live := by
    intro i hi
    rcases List.mem_cons.mp hi with rfl | hi
    · exact isLive_alloc_next
    · exact isLive_alloc (ho.live i hi)

/-- The use of owned objects changes nothing. -/
lemma useAll_eq (ho : h.Owns is) (hs : js ⊆ is) : h.useAll js = h := by
  induction js with
  | nil => rfl
  | cons j js ih =>
    obtain ⟨hj, hs⟩ := List.cons_subset.mp hs
    rw [useAll, List.foldl_cons, use, if_pos (ho.live j hj)]
    exact ih hs

/-- A released object is no longer owned. -/
lemma release (ho : h.Owns (i :: is)) : (h.release i).Owns is := by
  obtain ⟨hnot, hnodup⟩ := List.nodup_cons.mp ho.nodup
  have hi := ho.live i (List.mem_cons_self ..)
  refine ⟨?_, hnodup, fun j hj => isLive_release_of_ne (ho.live j (List.mem_cons_of_mem _ hj)) ?_⟩
  · rw [Heap.release, if_pos hi]
    exact ho.clean
  · rintro rfl
    exact hnot hj

lemma releaseAll (ho : h.Owns (js ++ is)) : (h.releaseAll js).Owns is := by
  induction js generalizing h with
  | nil => exact ho
  | cons j js ih => exact ih (release ho)

/-! ### By counting -/

/-- Objects that are owned once each are owned in any order, and others may be forgotten. -/
lemma of_count (ho : h.Owns is) (hc : ∀ i, js.count i ≤ is.count i) : h.Owns js := by
  obtain ⟨ks, hp, hs⟩ := List.subperm_iff_count.mpr hc
  exact (ho.sublist hs).perm hp

lemma alloc_of_count (ho : h.Owns is) (hc : ∀ i, js.count i ≤ (h.next :: is).count i) : h.alloc.Owns js :=
  ho.alloc.of_count hc

lemma releaseAll_of_count (ho : h.Owns is) {ks : List ℕ} (hc : ∀ i, (ks ++ js).count i ≤ is.count i) :
    (h.releaseAll ks).Owns js :=
  (ho.of_count hc).releaseAll

end Owns

end Heap

end LibAttachSql.Lib
