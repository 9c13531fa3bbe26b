import LibAttachSql.System

/-!
# The sequence check

Packets are numbered by an unsigned byte, and the byte in a header is a plain `char`.  Both are promoted to `int`
before they are compared, so from 128 on no byte equals the number it stands for, and the packet is rejected.
-/

namespace LibAttachSql

open Lib

/-- A header byte passes the check exactly when it is the expected number and below 128. -/
lemma eq_signedChar_iff (e b : UInt8) : (e.toNat : ℤ) = signedChar b ↔ b = e ∧ e.toNat < 128 := by
  have he := e.toNat_lt
  have hb := b.toNat_lt
  unfold signedChar
  rw [← UInt8.toNat_inj]
  split <;> omega

/-! ### The checks of a run -/

/-- What the code does in a check: it compares the number with the promoted byte. -/
def Action.Compared : Action → Prop
  | .checked _ e b accepted => accepted = decide ((e.toNat : ℤ) = signedChar b)
  | _ => True

/-- Every check of the trace accepts the packet exactly when its header byte is the expected number.  So nothing is
rejected in a run whose header bytes are all as expected. -/
def SequenceRight (x : List Action) : Prop :=
  (∀ compressed e b accepted, .checked compressed e b accepted ∈ x → (accepted = true ↔ b = e)) ∧
    ((∀ compressed e b accepted, .checked compressed e b accepted ∈ x → b = e) →
      ∀ compressed e b accepted, .checked compressed e b accepted ∈ x → accepted = true)

/-- No packet of the trace bears the expected number while that is 128 or more. -/
def SequenceLow (x : List Action) : Prop :=
  ∀ compressed e b accepted, .checked compressed e b accepted ∈ x → ¬ (b = e ∧ 128 ≤ e.toNat)

lemma sequenceRight_iff_low {x : List Action} (h : ∀ a ∈ x, a.Compared) : SequenceRight x ↔ SequenceLow x := by
  have hcheck : ∀ compressed e b accepted, .checked compressed e b accepted ∈ x →
      (accepted = true ↔ b = e ∧ e.toNat < 128) := by
    intro compressed e b accepted hmem
    have hc : accepted = decide ((e.toNat : ℤ) = signedChar b) := h _ hmem
    rw [hc, decide_eq_true_iff, eq_signedChar_iff]
  constructor
  · rintro ⟨hr, -⟩ compressed e b accepted hmem ⟨hbe, hhigh⟩
    have hlow := (hcheck _ _ _ _ hmem).mp ((hr _ _ _ _ hmem).mpr hbe)
    omega
  · intro hl
    have hr : ∀ compressed e b accepted, .checked compressed e b accepted ∈ x → (accepted = true ↔ b = e) := by
      intro compressed e b accepted hmem
      rw [hcheck _ _ _ _ hmem]
      constructor
      · rintro ⟨hbe, -⟩
        exact hbe
      · intro hbe
        exact ⟨hbe, not_le.mp fun hhigh => hl _ _ _ _ hmem ⟨hbe, hhigh⟩⟩
    refine ⟨hr, fun hall compressed e b accepted hmem => ?_⟩
    exact (hr _ _ _ _ hmem).mpr (hall _ _ _ _ hmem)

/-! ### Moves compare -/

namespace Control

variable {c c' : Control} {x : List Action} {t : PacketType}

lemma Quiet.compared {a : Action} (h : Quiet c a) : a.Compared := by
  cases h with
  | checked compressed e b => exact rfl
  | _ => trivial

/-- Every action of the list compares as the code does, if it is a check. -/
def Compares (x : List Action) : Prop := ∀ a ∈ x, a.Compared

lemma Compares.nil : Compares [] := fun _ h => absurd h List.not_mem_nil

lemma Compares.cons {a : Action} (ha : a.Compared) (hx : Compares x) : Compares (a :: x) := by
  intro b hb
  rcases List.mem_cons.mp hb with rfl | hb
  · exact ha
  · exact hx b hb

lemma Compares.append {y : List Action} (hy : Compares y) (hx : Compares x) : Compares (y ++ x) := by
  intro a ha
  rcases List.mem_append.mp ha with ha | ha
  · exact hy a ha
  · exact hx a ha

lemma Compares.path {M : Control → List Action → Control → Prop} (hM : ∀ {c x c'}, M c x c' → Compares x)
    (h : Path M c x c') : Compares x := by
  induction h with
  | refl => exact .nil
  | snoc _ hm ih => exact (hM hm).append ih

lemma SendMove.compares (h : SendMove c x c') : Compares x := by
  cases h with
  | quiet h => exact .cons h.compared .nil
  | fail site => exact .cons trivial .nil
  | await => exact .nil

lemma Pushed.compares (h : Pushed t c x c') : Compares x := by
  cases h with
  | pushed _ _ => exact .nil
  | refused _ => exact .cons trivial .nil
  | fault _ _ => exact .cons trivial .nil

lemma Response.compares (h : Response c x c') : Compares x := by
  cases h with
  | ok s => exact .cons trivial (.cons trivial .nil)
  | err n => exact .cons trivial .nil
  | columnsEnd s _ hp => exact hp.compares.append (.cons trivial .nil)
  | paramsEnd s _ hp => exact hp.compares.append (.cons trivial .nil)
  | finish s _ => exact .cons trivial (.cons trivial .nil)
  | fault s => exact .cons trivial (.cons trivial .nil)
  | header _ hp => exact hp.compares

lemma PrepareOk.compares (h : PrepareOk c x c') : Compares x := by
  cases h with
  | params hp => exact hp.compares
  | columns hp => exact hp.compares
  | finish => exact .cons trivial .nil

lemma LoginMove.compares (h : LoginMove c x c') : Compares x := by
  cases h with
  | send h => exact h.compares
  | tls _ _ => exact .nil
  | dequeue _ => exact .nil
  | refused h _ => exact h.compares

lemma Login.compares (h : Login c x c') : Compares x := by
  cases h with
  | refused => exact .cons trivial .nil
  | fault h => exact .cons trivial (.path LoginMove.compares h)
  | scramble h => exact .cons trivial (.path LoginMove.compares h)
  | sent h hp => exact hp.compares.append (.path LoginMove.compares h)

lemma Greeting.compares (h : Greeting c x c') : Compares x := by
  cases h with
  | plain => exact .nil
  | rejected _ => exact .cons trivial .nil

lemma Handshake.compares (h : Handshake c x c') : Compares x := by
  cases h with
  | badProtocol hg => exact .cons trivial hg.compares
  | login s hg hl => exact hl.compares.append (.cons trivial hg.compares)
  | oldAuth s hg hl => exact hl.compares.append (.cons trivial (.cons trivial hg.compares))

lemma Dispatch.compares (h : Dispatch t c x c') : Compares x := by
  cases h with
  | handshake h => exact h.compares
  | handshakeSsl h => exact h.compares
  | response _ h => exact h.compares
  | prepareOk h => exact h.compares
  | definition _ _ h _ => exact h.compares
  | fault _ => exact .cons trivial .nil
  | row _ => exact .cons trivial .nil

lemma Commanded.compares (h : Commanded c x c') : Compares x := by
  cases h with
  | sent h _ hp => exact .cons trivial (hp.compares.append (.path SendMove.compares h))
  | unanswered h => exact .cons trivial (.path SendMove.compares h)
  | failed h => exact .cons trivial (.path SendMove.compares h)
  | compressed h _ => exact .path SendMove.compares h

lemma AuxMove.compares {a : Aux} (h : AuxMove c x a) : Compares x := by
  cases h with
  | resolved _ => exact .nil
  | settled _ => exact .nil
  | own _ => exact .nil
  | useRows _ => exact .nil
  | shareRow _ => exact .nil
  | keepFault _ _ => exact .cons trivial (.cons trivial .nil)
  | _ => exact .cons trivial .nil

/-- **Every check a move leaves on the trace compares the number with the promoted byte.** -/
theorem Move.compares (h : Move c x c') : Compares x := by
  cases h with
  | quiet h => exact .cons h.compared .nil
  | fail _ => exact .cons trivial .nil
  | start _ _ => exact .nil
  | connected _ hp => exact hp.compares
  | drained _ => exact .cons trivial .nil
  | lost _ => exact .cons trivial .nil
  | packet _ _ h => exact h.compares.append (.cons trivial .nil)
  | command _ _ h => exact h.compares.append (.cons trivial (.cons trivial .nil))
  | request hp => exact hp.compares.append (.cons trivial .nil)
  | nextResult _ hp => exact hp.compares.append (.cons trivial .nil)
  | pollEof => exact .cons trivial .nil
  | keep _ _ hp => exact hp.compares.append (.cons trivial (.cons trivial .nil))
  | aux h => exact h.compares

end Control

/-! ### The numbers of a run -/

/-- A result whose rows bear the numbers from 4 on, read in one piece and walked through up to number 128. -/
def walkTo128 : List SysEvent :=
  connectAndQuery 2 ++
    .poll (.calm [.wrote none, .read 65536 (resultHead ++
      (List.range 125).flatMap fun i => frame (UInt8.ofNat (i + 4)) [0xfb])]) ::
    List.replicate 124 (.call (.calm []) .queryRowNext)

end LibAttachSql
