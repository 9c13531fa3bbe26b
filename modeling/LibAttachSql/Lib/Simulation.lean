import LibAttachSql.Lib.Run

/-!
# Following a specification

A specification says from which of its states which kinds of events lead where.  An implementation follows it when every
event of a kind that is allowed keeps a relation between the states; then it follows every run that is allowed, and shows
along it what each event is to show.
-/

namespace LibAttachSql.Lib

variable {σ τ ε κ : Type}

/-- A run of events of these kinds leads from one state of a specification to another. -/
inductive Leads (next : τ → κ → τ → Prop) : τ → List κ → τ → Prop
  | nil (t : τ) : Leads next t [] t
  | cons {t t₁ t' : τ} {k : κ} {ks : List κ} (h : next t k t₁) (hs : Leads next t₁ ks t') : Leads next t (k :: ks) t'

/-- One run behind the other. -/
lemma Leads.append {next : τ → κ → τ → Prop} {t t₁ t' : τ} {ks ls : List κ} (h : Leads next t ks t₁)
    (hs : Leads next t₁ ls t') : Leads next t (ks ++ ls) t' := by
  induction h with
  | nil => exact hs
  | cons hfirst _ ih => exact .cons hfirst (ih hs)

section Rules

variable {next : τ → κ → τ → Prop} {step : σ → ε → σ} {kind : ε → κ} {R : σ → τ → Prop} {ok shown : σ → ε → Prop}

/-- **The simulation rule**: where each event that is allowed and meets the guard shows what it is to show and keeps the
relation, a whole run does. -/
theorem run_simulates (hstep : ∀ {s t e t'}, R s t → ok s e → next t (kind e) t' → shown s e ∧ R (step s e) t')
    {s : σ} {t t' : τ} {es : List ε} (h : R s t) (hs : Along step ok s es) (hl : Leads next t (es.map kind) t') :
    Along step shown s es ∧ R (run step s es) t' := by
  induction es generalizing s t with
  | nil =>
    cases hl
    exact ⟨trivial, h⟩
  | cons e es ih =>
    cases hl with
    | cons hfirst hrest =>
      obtain ⟨hshown, hR⟩ := hstep h hs.1 hfirst
      obtain ⟨hall, hlast⟩ := ih hR hs.2 hrest
      exact ⟨⟨hshown, hall⟩, hlast⟩

end Rules

end LibAttachSql.Lib
