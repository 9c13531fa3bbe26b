import Mathlib.Data.List.Basic

/-!
# Reassembling a stream of packets

Packets are written into a stream one behind the other, the stream arrives piece by piece, and a reader takes the first
packet off what has arrived when it is complete.  Where the pieces are cut does not matter: what a reader finds at the
front of a part of the stream is the next packet or nothing.
-/

namespace LibAttachSql.Lib

/-- How packets are written into a stream, and how the first one is taken off it. -/
structure Codec (α β : Type) where
  valid : β → Prop
  encode : β → List α
  take : List α → Option (β × List α)
  take_nil : take [] = none
  take_append : ∀ {p rest}, valid p → take (encode p ++ rest) = some (p, rest)
  take_short : ∀ {p xs}, valid p → xs <+: encode p → xs ≠ encode p → take xs = none

namespace Codec

variable {α β : Type} (c : Codec α β) {p : β} {ps : List β} {xs rest : List α}

/-- The stream of some packets. -/
def stream (ps : List β) : List α := (ps.map c.encode).flatten

@[simp] lemma stream_nil : c.stream [] = [] := rfl

@[simp] lemma stream_cons : c.stream (p :: ps) = c.encode p ++ c.stream ps := rfl

lemma stream_append (ps qs : List β) : c.stream (ps ++ qs) = c.stream ps ++ c.stream qs := by
  unfold stream
  rw [List.map_append, List.flatten_append]

/-- The part of the stream behind the first packets. -/
lemma stream_drop {k : ℕ} (h : c.stream (ps.take k) ++ xs <+: c.stream ps) : xs <+: c.stream (ps.drop k) := by
  rw [← List.take_append_drop k ps, stream_append, List.take_append_drop] at h
  exact (List.prefix_append_right_inj _).mp h

/-- **The front of a part of a stream** is the next packet, or what has arrived of it, which is not taken. -/
theorem take_of_initial (hps : ∀ p ∈ ps, c.valid p) (h : xs <+: c.stream ps) :
    c.take xs = none ∨
      ∃ p qs rest, ps = p :: qs ∧ xs = c.encode p ++ rest ∧ c.take xs = some (p, rest) ∧ rest <+: c.stream qs := by
  cases ps with
  | nil =>
    rw [stream_nil, List.prefix_nil] at h
    rw [h]
    exact .inl c.take_nil
  | cons p qs =>
    have hp : c.valid p := hps p List.mem_cons_self
    rw [stream_cons] at h
    rcases List.prefix_or_prefix_of_prefix h (List.prefix_append (c.encode p) (c.stream qs)) with hshort | hlong
    · by_cases heq : xs = c.encode p
      · refine .inr ⟨p, qs, [], rfl, ?_, ?_, List.nil_prefix⟩
        · rw [heq, List.append_nil]
        · rw [heq]
          simpa using @take_append α β c p [] hp
      · exact .inl (c.take_short hp hshort heq)
    · obtain ⟨rest, rfl⟩ := hlong
      exact .inr ⟨p, qs, rest, rfl, rfl, c.take_append hp, (List.prefix_append_right_inj _).mp h⟩

end Codec

end LibAttachSql.Lib
