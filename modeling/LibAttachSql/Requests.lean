import LibAttachSql.EscapeMode
import LibAttachSql.Outcomes

/-!
# What is asked for, and what is answered

Three things an application counts on, whatever it calls and whatever arrives:

* a further result is asked for only when the server's last report, made since the last command, announced one;
* between two queries that are let through, the first one was closed at a time when no further result was announced;
* an answer comes only to what was asked for: to a login, a command, a further result or a row; an ERR packet in place of
  the handshake is one more, since the client logs in all the same.
-/

namespace LibAttachSql

open Lib

/-! ### What a trace says of requests -/

/-- The server's last report is current, and says that a further result follows. -/
def Announced (x : List Action) : Prop :=
  ∃ s, lastReported x = some s ∧ Current x ∧ s.testBit serverStatusMoreResults = true

/-- A query was let through and is not over: it was not closed, or only while a further result was announced. -/
def Querying : List Action → Prop
  | [] => False
  | .queryBegun :: _ => True
  | .queryClosed _ :: x => Querying x ∧ Announced x
  | _ :: x => Querying x

/-- A further result is asked for once it is announced, and a query let through once the one before is over. -/
def Action.InTurn : Action → List Action → Prop
  | .nextResult _, x => Announced x
  | .queryBegun, x => ¬ Querying x
  | _, _ => True

/-- Actions that are neither requests for a further result nor begin or close a query. -/
def Action.Passing : Action → Bool
  | .nextResult _ | .queryBegun | .queryClosed _ => false
  | _ => true

/-- An answer that is completed. -/
def Action.isAnswer : Action → Bool
  | .answered _ _ _ => true
  | _ => false

/-- Actions that an answer follows: a handshake, which is answered with a login, a command, and the requests. -/
def Action.isRequest : Action → Bool
  | .packet .handshake _ _ | .command _ _ | .nextResult _ | .rowRequested => true
  | _ => false

/-- The number of answers. -/
def answers (x : List Action) : ℕ := x.countP Action.isAnswer

/-- The number of requests. -/
def requests (x : List Action) : ℕ := x.countP Action.isRequest

/-- The action is an ERR packet that was read in place of the handshake. -/
def Action.turnsAway (a : Action) (x : List Action) : Bool :=
  match a, x.head? with
  | .answered (.err _) _ _, some (.packet .handshake _ _) => true
  | _, _ => false

/-- The number of ERR packets that were read in place of the handshake, behind which the client logs in all the same. -/
def turnedAway : List Action → ℕ
  | [] => 0
  | a :: x => turnedAway x + (a.turnsAway x).toNat

/-- When an answer comes, there were more requests than answers before; an ERR packet in place of the handshake is an answer
that leaves the handshake unanswered. -/
def Action.Owed : Action → List Action → Prop
  | .answered _ _ _, x => answers x < requests x + turnedAway x
  | _, _ => True

section Traces

variable {x y : List Action}

/-- The word that is kept announces a further result exactly when the server does. -/
lemma announced_iff : Announced x ↔ (keptStatus x).testBit serverStatusMoreResults = true := by
  unfold keptStatus
  constructor
  · rintro ⟨s, hs, hcurrent, hmore⟩
    rw [if_pos hcurrent, hs]
    exact hmore
  · intro hmore
    by_cases hcurrent : Current x
    · rw [if_pos hcurrent] at hmore
      obtain ⟨s, hs⟩ := hcurrent.lastReported
      rw [hs] at hmore
      exact ⟨s, hs, hcurrent, hmore⟩
    · rw [if_neg hcurrent, Nat.zero_testBit] at hmore
      cases hmore

instance : DecidablePred Announced := fun _ => decidable_of_iff _ announced_iff.symm

lemma Action.passing_of_neutral {a : Action} (h : a.Neutral = true) : a.Passing = true := by
  cases a <;> first | rfl | cases h

lemma querying_passing (hy : ∀ a ∈ y, a.Passing = true) : Querying (y ++ x) ↔ Querying x := by
  induction y with
  | nil => exact Iff.rfl
  | cons a y ih =>
    have hrest := ih fun b hb => hy b (List.mem_cons_of_mem _ hb)
    have hpass := hy a (List.mem_cons_self ..)
    cases a with
    | queryBegun => cases hpass
    | queryClosed _ => cases hpass
    | _ => exact hrest

lemma inTurn_of_passing {a : Action} (h : a.Passing = true) (x : List Action) : a.InTurn x := by
  cases a with
  | nextResult _ => cases h
  | queryBegun => cases h
  | _ => trivial

lemma answers_append : answers (y ++ x) = answers y + answers x := List.countP_append

lemma requests_append : requests (y ++ x) = requests y + requests x := List.countP_append

lemma turnedAway_le_append : turnedAway x ≤ turnedAway (y ++ x) := by
  induction y with
  | nil => exact le_rfl
  | cons a y ih => exact ih.trans (Nat.le_add_right _ _)

lemma answers_answered (a : Answer) (s : ConStatus) (t : CommandStatus) :
    answers (.answered a s t :: x) = answers x + 1 := List.countP_cons_of_pos rfl

lemma requests_answered (a : Answer) (s : ConStatus) (t : CommandStatus) :
    requests (.answered a s t :: x) = requests x := List.countP_cons_of_neg Bool.false_ne_true

/-- An ERR packet right behind the handshake packet came in its place. -/
lemma turnedAway_err (n : ℕ) (s : ConStatus) (t : CommandStatus)
    (hx : ∃ payload s, x.head? = some (.packet .handshake payload s)) :
    turnedAway (.answered (.err n) s t :: x) = turnedAway x + 1 := by
  obtain ⟨payload, s', hhead⟩ := hx
  have hturns : (Action.answered (.err n) s t).turnsAway x = true := by
    unfold Action.turnsAway
    rw [hhead]
  show turnedAway x + _ = _
  rw [hturns, Bool.toNat_true]

lemma answers_neutral (hy : ∀ a ∈ y, a.Neutral = true) : answers y = 0 := by
  refine List.countP_eq_zero.mpr fun a ha => ?_
  have hneutral := hy a ha
  cases a with
  | answered _ _ _ => cases hneutral
  | _ => exact Bool.false_ne_true

lemma owed_of_no_answer {a : Action} (h : a.isAnswer = false) (x : List Action) : a.Owed x := by
  cases a with
  | answered _ _ _ => cases h
  | _ => trivial

end Traces

/-! ### Results and queries in turn -/

namespace Control

/-- The kept status word and `in_query` are as the trace says, and all came in turn. -/
structure Turning (c : Control) (x : List Action) : Prop where
  tracked : c.Tracked x
  inQuery : c.aux.inQuery = true ↔ Querying x
  chronicle : Chronicle Action.InTurn x

variable {c c' : Control} {x y : List Action} {t : PacketType} {k : ℕ}

/-- What leaves `in_query` alone, without a request for a further result. -/
lemma Turning.passing (h : c.Turning x) (ht : c'.Tracked (y ++ x)) (hy : ∀ a ∈ y, a.Passing = true)
    (hq : c'.aux.inQuery = c.aux.inQuery) : c'.Turning (y ++ x) :=
  ⟨ht, by rw [hq, querying_passing hy]; exact h.inQuery,
    .append (fun a ha => inTurn_of_passing (hy a ha)) h.chronicle⟩

/-- The status word announces a further result exactly when the server does. -/
lemma Tracked.announced_iff (h : c.Tracked x) : c.serverStatus.testBit serverStatusMoreResults = true ↔ Announced x := by
  rw [h.1]
  exact LibAttachSql.announced_iff.symm

lemma Reads.passing (h : Reads t c y c') : (∀ a ∈ y, a.Passing = true) ∧ c'.aux.inQuery = c.aux.inQuery := by
  have hneutral : ∀ {z : List Action}, (∀ a ∈ z, a.Neutral = true) → ∀ a ∈ z, a.Passing = true :=
    fun hz a ha => Action.passing_of_neutral (hz a ha)
  cases h with
  | answered hn ha =>
    refine ⟨List.forall_mem_cons.mpr ⟨rfl, hneutral hn⟩, ?_⟩
    cases ha <;> rfl
  | waits hk => exact ⟨hneutral hk.neutral, by rw [hk.aux]⟩
  | rejected _ hk =>
    exact ⟨List.forall_mem_append.mpr ⟨hneutral hk.neutral, List.forall_mem_singleton.mpr rfl⟩, by rw [hk.aux]; rfl⟩

lemma AuxMove.turning {a : Aux} (hm : AuxMove c y a) (h : c.Turning x) : Turning { c with aux := a } (y ++ x) := by
  have ht := hm.tracked h.tracked
  cases hm with
  | begin hfree =>
    refine ⟨ht, iff_of_true rfl trivial, fun hq => ?_, h.chronicle⟩
    rw [h.inQuery.mpr hq] at hfree
    cases hfree
  | close ownsText buffering =>
    refine ⟨ht, ?_, trivial, h.chronicle⟩
    show (c.aux.inQuery && c.serverStatus.testBit serverStatusMoreResults) = true ↔ Querying x ∧ Announced x
    rw [Bool.and_eq_true, h.inQuery, h.tracked.announced_iff]
  | resolved _ => exact h.passing ht (List.forall_mem_nil _) rfl
  | settled _ => exact h.passing ht (List.forall_mem_nil _) rfl
  | callback _ _ _ _ _ => exact h.passing ht (List.forall_mem_singleton.mpr rfl) rfl
  | rowNext => exact h.passing ht (List.forall_mem_singleton.mpr rfl) rfl
  | own _ => exact h.passing ht (List.forall_mem_nil _) rfl
  | grow _ => exact h.passing ht (List.forall_mem_singleton.mpr rfl) rfl
  | keepFault _ _ => exact h.passing ht (List.forall_mem_cons.mpr ⟨rfl, List.forall_mem_singleton.mpr rfl⟩) rfl
  | useRows _ => exact h.passing ht (List.forall_mem_nil _) rfl
  | shareRow _ => exact h.passing ht (List.forall_mem_nil _) rfl

/-- **Every move keeps the turns.** -/
theorem Move.turning (hm : Move c y c') (h : c.Turning x) : c'.Turning (y ++ x) := by
  have ht := hm.tracked h.tracked
  have hneutral : ∀ {z : List Action}, (∀ a ∈ z, a.Neutral = true) → ∀ a ∈ z, a.Passing = true :=
    fun hz a ha => Action.passing_of_neutral (hz a ha)
  cases hm with
  | quiet hq => exact h.passing ht (hneutral hq.kept.neutral) rfl
  | fail site => exact h.passing ht (List.forall_mem_singleton.mpr rfl) rfl
  | start _ _ => exact h.passing ht (List.forall_mem_nil _) rfl
  | connected _ hp => exact h.passing ht (hneutral hp.kept.neutral) (by rw [hp.kept.aux])
  | drained _ => exact h.passing ht (List.forall_mem_singleton.mpr rfl) rfl
  | lost _ => exact h.passing ht (List.forall_mem_singleton.mpr rfl) rfl
  | packet payload _ hd =>
    obtain ⟨hy, hq⟩ := hd.reads.passing
    exact h.passing ht (List.forall_mem_append.mpr ⟨hy, List.forall_mem_singleton.mpr rfl⟩) hq
  | command cmd tls hc =>
    refine h.passing ht (List.forall_mem_append.mpr ⟨fun a ha => ?_, ?_⟩) (by rw [hc.sends.aux])
    · rcases hc.sends.neutral a ha with hn | ⟨s, rfl⟩
      · exact Action.passing_of_neutral hn
      · rfl
    · exact List.forall_mem_cons.mpr ⟨rfl, List.forall_mem_singleton.mpr rfl⟩
  | request hp =>
    exact h.passing ht (List.forall_mem_append.mpr ⟨hneutral hp.kept.neutral, List.forall_mem_singleton.mpr rfl⟩)
      (by rw [hp.kept.aux])
  | nextResult hmore hp =>
    have hy := hneutral hp.kept.neutral
    rw [List.append_assoc] at ht ⊢
    have hannounced : Announced x := h.tracked.announced_iff.mp hmore
    refine ⟨ht, ?_, .append (fun a ha => inTurn_of_passing (hy a ha)) ⟨hannounced, h.chronicle⟩⟩
    rw [querying_passing hy]
    show (_ : Bool) = true ↔ Querying x
    rw [hp.kept.aux]
    exact h.inQuery
  | pollEof => exact h.passing ht (List.forall_mem_singleton.mpr rfl) rfl
  | keep _ _ hp =>
    refine h.passing ht (List.forall_mem_append.mpr ⟨hneutral hp.kept.neutral, ?_⟩) (by rw [hp.kept.aux]; rfl)
    exact List.forall_mem_cons.mpr ⟨rfl, List.forall_mem_singleton.mpr rfl⟩
  | aux ha => exact ha.turning h

end Control

lemma run_turning {con : Con} (h : Initial con) (es : List SysEvent) :
    (run sysStep con es).control.Turning (run sysStep con es).trace := by
  refine run_invariant_moves (fun hc hm => hm.turning hc) ?_ es
  cases h
  exact ⟨⟨rfl, trivial⟩, iff_of_false Bool.false_ne_true id, trivial⟩

/-- **A further result is asked for only when it is announced**: in every run from a fresh connection, the server's last
report before was made since the last command and the last request for a further result, and said that one follows. -/
theorem next_results_announced {con : Con} (h : Initial con) (es : List SysEvent) {z y : List Action} {s : ConStatus}
    (hx : (run sysStep con es).trace = z ++ .nextResult s :: y) : Announced y := by
  have hchronicle := (run_turning h es).chronicle
  rw [hx] at hchronicle
  exact hchronicle.first

/-- A query whose OK packet announces a further result, which is asked for when the query is closed. -/
def chained : List SysEvent := connectAndQuery 2 ++ [
  .poll (.calm [.wrote none, .read 65536 (okPacket 1 10)]),
  .call (.calm []) .queryClose,
  .call (.calm []) .queryNextResult]

theorem next_results_announced_chained : Announced ((run sysStep (.calm 0) chained).trace.drop 1) :=
  next_results_announced (Con.calm_initial 0) chained (z := []) (s := .idle) (by decide +kernel)

/-- When no query is going on any more, the last one was closed with no further result announced. -/
lemma closed_of_not_querying {x y : List Action} (h : ¬ Querying (y ++ .queryBegun :: x)) :
    ∃ y₁ b y₂, y = y₁ ++ .queryClosed b :: y₂ ∧ ¬ Announced (y₂ ++ .queryBegun :: x) := by
  induction y with
  | nil => exact absurd trivial h
  | cons a y ih =>
    have hrest : ¬ Querying (y ++ .queryBegun :: x) →
        ∃ y₁ b y₂, a :: y = y₁ ++ .queryClosed b :: y₂ ∧ ¬ Announced (y₂ ++ .queryBegun :: x) := fun h' => by
      obtain ⟨y₁, b, y₂, rfl, hy⟩ := ih h'
      exact ⟨a :: y₁, b, y₂, rfl, hy⟩
    cases a with
    | queryBegun => exact absurd trivial h
    | queryClosed b =>
      by_cases hannounced : Announced (y ++ .queryBegun :: x)
      · exact hrest fun hq => h ⟨hq, hannounced⟩
      · exact ⟨[], b, y, rfl, hannounced⟩
    | _ => exact hrest h

/-- **Queries do not overlap**: in every run from a fresh connection, between two queries that are let through there is a
close at which no further result was announced. -/
theorem queries_apart {con : Con} (h : Initial con) (es : List SysEvent) {z y x : List Action}
    (hx : (run sysStep con es).trace = z ++ .queryBegun :: (y ++ .queryBegun :: x)) :
    ∃ y₁ b y₂, y = y₁ ++ .queryClosed b :: y₂ ∧ ¬ Announced (y₂ ++ .queryBegun :: x) := by
  have hchronicle := (run_turning h es).chronicle
  rw [hx] at hchronicle
  exact closed_of_not_querying hchronicle.first

/-- Two queries, the first one closed behind its OK packet. -/
def twoQueries : List SysEvent := connectAndQuery 2 ++ [
  .poll (.calm [.wrote none, .read 65536 (okPacket 1 2)]),
  .call (.calm []) .queryClose,
  .call (.calm []) (.query [0x53] [])]

theorem queries_apart_two :
    ∃ y₁ b y₂, ((run sysStep (.calm 0) twoQueries).trace.drop 5).take 21 = y₁ ++ .queryClosed b :: y₂ ∧
      ¬ Announced (y₂ ++ [.queryBegun]) :=
  queries_apart (Con.calm_initial 0) twoQueries (z := (run sysStep (.calm 0) twoQueries).trace.take 4) (x := [])
    (by decide +kernel)

/-! ### Answers that are owed -/

namespace Control

/-- The number of expected packets, but for the handshake, which is no answer. -/
def awaited (c : Control) : ℕ := c.queue.countP (· ≠ .handshake)

/-- What is expected and what was answered was asked for. -/
structure Owing (c : Control) (x : List Action) : Prop where
  count : c.awaited + answers x ≤ requests x + turnedAway x
  chronicle : Chronicle Action.Owed x

variable {c c' : Control} {x y : List Action} {t : PacketType} {k : ℕ}

lemma Kept.unanswered (h : Kept k c y c') : ∀ a ∈ y, a.isAnswer = false := fun a ha => by
  have hneutral := h.neutral a ha
  cases a with
  | answered _ _ _ => cases hneutral
  | _ => rfl

lemma Kept.awaited (h : Kept k c y c') : c'.awaited ≤ c.awaited + k := h.expected _

namespace Owing

/-- What completes nothing and expects no more than was asked for. -/
lemma step (h : c.Owing x) (hy : ∀ a ∈ y, a.isAnswer = false) (hq : c'.awaited ≤ c.awaited + requests y) :
    c'.Owing (y ++ x) where
  count := by
    have hcount := h.count
    have haway := @turnedAway_le_append x y
    have hnone : answers y = 0 := List.countP_eq_zero.mpr fun a ha => Bool.eq_false_iff.mp (hy a ha)
    rw [answers_append, requests_append, hnone]
    omega
  chronicle := .append (fun a ha => owed_of_no_answer (hy a ha)) h.chronicle

/-- What was waited for still is, and nothing more. -/
lemma kept (h : c.Owing x) (hk : Kept 0 c y c') : c'.Owing (y ++ x) :=
  h.step hk.unanswered (hk.awaited.trans (Nat.add_le_add_left (Nat.zero_le _) _))

/-- What leaves the expected packets alone, without an action. -/
lemma restated (h : c.Owing x) (hq : c'.queue = c.queue) : c'.Owing x :=
  ⟨by unfold awaited; rw [hq]; exact h.count, h.chronicle⟩

/-- A request, which has one packet more expected. -/
lemma requested (h : c.Owing x) (hk : Kept 1 c y c') {z : List Action} (hz : ∀ a ∈ z, a.isAnswer = false)
    (hr : requests z = 1) : c'.Owing (y ++ z ++ x) := by
  refine h.step (List.forall_mem_append.mpr ⟨hk.unanswered, hz⟩) ?_
  have hqueue := hk.awaited
  rw [requests_append, hr]
  omega

end Owing

/-- A packet that is off the queue: its answer, or the next packet of it, is owed.  Behind an ERR packet in place of the
handshake the answer to the login is owed as well. -/
lemma Reads.owing (h : Reads t c y c') (hc : Chronicle Action.Owed x)
    (hroom : c.awaited + 1 + answers x ≤ requests x + turnedAway x)
    (haway : t = .handshake → ∃ payload s, x.head? = some (.packet .handshake payload s)) : c'.Owing (y ++ x) := by
  cases h with
  | @answered a y c' hn ha =>
    have hle := @turnedAway_le_append x y
    have hnone : answers y = 0 := answers_neutral hn
    have hq : c'.awaited ≤ c.awaited := by
      cases ha with
      | err n => exact Nat.zero_le _
      | _ => exact le_rfl
    have hunanswered : ∀ b ∈ y, b.isAnswer = false := fun b hb => by
      have hneutral := hn b hb
      cases b with
      | answered _ _ _ => cases hneutral
      | _ => rfl
    refine ⟨?_, ?_, .append (fun b hb => owed_of_no_answer (hunanswered b hb)) hc⟩
    · show c'.awaited + answers (.answered a c.status c.commandStatus :: (y ++ x)) ≤
        requests (.answered a c.status c.commandStatus :: (y ++ x)) +
          turnedAway (.answered a c.status c.commandStatus :: (y ++ x))
      rw [answers_answered, requests_answered, answers_append, requests_append, hnone]
      have hle' : turnedAway (y ++ x) ≤ turnedAway (.answered a c.status c.commandStatus :: (y ++ x)) :=
        Nat.le_add_right _ _
      omega
    · show answers (y ++ x) < requests (y ++ x) + turnedAway (y ++ x)
      rw [answers_append, requests_append, hnone]
      omega
  | waits hk =>
    have hle := @turnedAway_le_append x y
    have hq := hk.awaited
    have hnone : answers y = 0 := answers_neutral hk.neutral
    refine ⟨?_, .append (fun a ha => owed_of_no_answer (hk.unanswered a ha)) hc⟩
    rw [answers_append, requests_append, hnone]
    omega
  | @rejected n y c' ht hk =>
    have hle := @turnedAway_le_append (.answered (.err n) c.status c.commandStatus :: x) y
    rw [turnedAway_err n _ _ (haway ht)] at hle
    have hq := hk.awaited
    have hempty : (c.afterErr n).awaited = 0 := rfl
    have hnone : answers y = 0 := answers_neutral hk.neutral
    rw [List.append_assoc]
    refine ⟨?_, .append (fun a ha => owed_of_no_answer (hk.unanswered a ha)) ⟨?_, hc⟩⟩
    · show c'.awaited + answers (y ++ (.answered (.err n) c.status c.commandStatus :: x)) ≤
        requests (y ++ (.answered (.err n) c.status c.commandStatus :: x)) +
          turnedAway (y ++ (.answered (.err n) c.status c.commandStatus :: x))
      rw [answers_append, requests_append, hnone, answers_answered, requests_answered]
      omega
    · show answers x < requests x + turnedAway x
      omega

lemma AuxMove.owing {a : Aux} (hm : AuxMove c y a) (h : c.Owing x) : Owing { c with aux := a } (y ++ x) := by
  have hsame : ∀ {a : Aux}, (∀ b ∈ y, b.isAnswer = false) → Owing { c with aux := a } (y ++ x) := fun hy =>
    h.step hy (Nat.le_add_right _ _)
  cases hm with
  | resolved _ => exact hsame (List.forall_mem_nil _)
  | settled _ => exact hsame (List.forall_mem_nil _)
  | callback _ _ _ _ _ => exact hsame (List.forall_mem_singleton.mpr rfl)
  | begin _ => exact hsame (List.forall_mem_singleton.mpr rfl)
  | rowNext => exact hsame (List.forall_mem_singleton.mpr rfl)
  | close _ _ => exact hsame (List.forall_mem_singleton.mpr rfl)
  | own _ => exact hsame (List.forall_mem_nil _)
  | grow _ => exact hsame (List.forall_mem_singleton.mpr rfl)
  | keepFault _ _ => exact hsame (List.forall_mem_cons.mpr ⟨rfl, List.forall_mem_singleton.mpr rfl⟩)
  | useRows _ => exact hsame (List.forall_mem_nil _)
  | shareRow _ => exact hsame (List.forall_mem_nil _)

/-- **Every move answers only what is owed.** -/
theorem Move.owing (hm : Move c y c') (h : c.Owing x) : c'.Owing (y ++ x) := by
  cases hm with
  | quiet hq => exact h.kept hq.kept
  | fail site => exact h.kept (.fail site _ _)
  | start _ _ => exact h.restated rfl
  | @connected c₁ _ _ hp =>
    have hq : c₁.awaited = c.awaited := by
      cases hp with
      | pushed _ _ => exact List.countP_cons_of_neg (by decide)
      | refused _ => rfl
      | fault _ _ => rfl
    exact (h.step hp.kept.unanswered (hq.le.trans (Nat.le_add_right _ _))).restated rfl
  | drained _ => exact h.step (List.forall_mem_singleton.mpr rfl) (Nat.le_add_right _ _)
  | lost _ => exact h.kept (.fail .writeCallback _ _)
  | @packet _ _ t q payload hq hd =>
    have hcount := h.count
    have hpacket : answers ([.packet t payload c.status] ++ x) = answers x := rfl
    have hmore : requests ([.packet t payload c.status] ++ x) = requests [.packet t payload c.status] + requests x :=
      requests_append
    have haway : turnedAway ([.packet t payload c.status] ++ x) = turnedAway x := rfl
    rw [List.append_assoc]
    refine hd.reads.owing ⟨trivial, h.chronicle⟩ ?_ fun ht => ⟨payload, c.status, by rw [ht]; rfl⟩
    unfold awaited at hcount ⊢
    rw [hq, List.countP_cons] at hcount
    rw [hpacket, hmore, haway]
    -- the packet was counted among the expected ones, or is a handshake, which asks for a login
    by_cases ht : t = .handshake
    · have hone : requests [.packet t payload c.status] = 1 := by
        rw [ht]
        rfl
      rw [hone]
      dsimp only
      omega
    · rw [if_pos (decide_eq_true ht)] at hcount
      dsimp only
      omega
  | @command _ y cmd tls hc =>
    have hsent := hc.sends
    have hy : ∀ a ∈ y ++ [.onStream c.aux.stream tls, .command cmd c.status], a.isAnswer = false := by
      refine List.forall_mem_append.mpr
        ⟨fun a ha => ?_, List.forall_mem_cons.mpr ⟨rfl, List.forall_mem_singleton.mpr rfl⟩⟩
      rcases hsent.neutral a ha with hn | ⟨s, rfl⟩
      · cases a <;> first | rfl | cases hn
      · rfl
    refine h.step hy ?_
    have hqueue : c'.awaited ≤ c.awaited + 1 := hsent.expected _
    have hone : requests [.onStream c.aux.stream tls, .command cmd c.status] = 1 := rfl
    rw [requests_append, hone]
    omega
  | request hp => exact (h.requested hp.kept (List.forall_mem_singleton.mpr rfl) rfl).restated rfl
  | nextResult _ hp =>
    have hreset : Owing { c with serverErrno := 0, serverStatus := 0 } x := ⟨h.count, h.chronicle⟩
    exact (hreset.requested hp.kept (List.forall_mem_singleton.mpr rfl) rfl).restated rfl
  | pollEof => exact h.step (List.forall_mem_singleton.mpr rfl) (Nat.le_add_right _ _)
  | keep _ _ hp =>
    have hkept : Owing { c with aux := c.kept } x := ⟨h.count, h.chronicle⟩
    have hrequest : ∀ a ∈ [Action.rowRequested, .rowKept], a.isAnswer = false :=
      List.forall_mem_cons.mpr ⟨rfl, List.forall_mem_singleton.mpr rfl⟩
    exact (hkept.requested hp.kept hrequest rfl).restated rfl
  | aux ha => exact ha.owing h

end Control

/-- **No answer comes unasked**: in every run from a fresh connection, whenever an answer is completed, there were more
requests than answers before it; where an ERR packet came in place of the handshake, which is read on, that leaves room for
one answer more. -/
theorem answers_owed {con : Con} (h : Initial con) (es : List SysEvent) {z y : List Action} {a : Answer} {s : ConStatus}
    {t : CommandStatus} (hx : (run sysStep con es).trace = z ++ .answered a s t :: y) :
    answers y < requests y + turnedAway y := by
  have hI : con.control.Owing con.trace := by
    cases h
    exact ⟨Nat.zero_le _, trivial⟩
  have howing := run_invariant_moves (fun hc hm => hm.owing hc) hI es
  have hchronicle := howing.chronicle
  rw [hx] at hchronicle
  exact hchronicle.first

theorem answers_owed_two :
    answers ((run sysStep (.calm 0) twoQueries).trace.drop 8) <
      requests ((run sysStep (.calm 0) twoQueries).trace.drop 8) +
        turnedAway ((run sysStep (.calm 0) twoQueries).trace.drop 8) :=
  answers_owed (Con.calm_initial 0) twoQueries (z := (run sysStep (.calm 0) twoQueries).trace.take 7) (a := .ok)
    (s := .busy) (t := .send) (by decide +kernel)

end LibAttachSql
