import LibAttachSql.ServerWords

/-!
# The mode strings are escaped in

A query that is expanded escapes its string parameters as the status word kept in the connection asks for.  That word
is the last one the server reported only until the next command is sent or a further result is asked for: both set it
to zero, and not every answer reports a new one.  Nor is there one to look at before the connection is made.

What the server reported is read off the payloads of its packets.  That the library takes the same words from them is
`Told`, and that it keeps them as long as it does is `Tracked`.
-/

namespace LibAttachSql

open Lib

/-! ### What a trace says of the server's status -/

/-- The status word that the library took from a packet last. -/
def lastReported : List Action → Option ℕ
  | [] => none
  | .reported s :: _ => some s
  | _ :: x => lastReported x

/-- The status word that the library took from a packet first. -/
def firstReported : List Action → Option ℕ
  | [] => none
  | .reported s :: x => some ((firstReported x).getD s)
  | _ :: x => firstReported x

/-- A status word was taken from a packet after the last command and the last request for a further result. -/
def Current : List Action → Prop
  | [] => False
  | .reported _ :: _ => True
  | .command _ _ :: _ => False
  | .nextResult _ :: _ => False
  | _ :: x => Current x

instance : DecidablePred Current := fun x => by
  induction x with
  | nil => exact isFalse id
  | cons a x ih => rcases a with ⟨⟩ <;> first | exact ih | exact isTrue trivial | exact isFalse id

/-- The status word the connection keeps. -/
def keptStatus (x : List Action) : ℕ := if Current x then (lastReported x).getD 0 else 0

/-- Every string was escaped in the mode the kept status word asked for. -/
def EscapedAsKept : List Action → Prop
  | [] => True
  | .expanded m :: x => m = (keptStatus x).testBit serverStatusNoBackslashEscapes ∧ EscapedAsKept x
  | _ :: x => EscapedAsKept x

/-- The server asks for strings without backslash escapes. -/
def NoBackslash (s : ℕ) : Prop := s.testBit serverStatusNoBackslashEscapes = true

/-- The status word the server reports in a packet. -/
def Action.served : Action → Option ℕ
  | .packet t payload _ => statusIn t payload
  | _ => none

/-- The status word the server reported last. -/
def lastServed (x : List Action) : Option ℕ := x.findSome? Action.served

/-- The status word the server reported first. -/
def firstServed (x : List Action) : Option ℕ := x.reverse.findSome? Action.served

/-- The server has reported its status after the last command and the last request for a further result. -/
def CurrentServed : List Action → Prop
  | [] => False
  | .packet t payload _ :: x => (statusIn t payload).isSome = true ∨ CurrentServed x
  | .command _ _ :: _ => False
  | .nextResult _ :: _ => False
  | _ :: x => CurrentServed x

/-- Strings are escaped in the server's mode: the one it reported last before, or, when it had reported none, the
first one it reports after. -/
def EscapesMatch (x : List Action) : Prop :=
  ∀ z m y, x = z ++ .expanded m :: y →
    (∀ s, lastServed y = some s → (m = true ↔ NoBackslash s)) ∧
      (lastServed y = none → ∀ s, firstServed z = some s → (m = true ↔ NoBackslash s))

/-- Strings are escaped only while the last report is current or does not ask for the other mode, and before any
report only when the first one to come does not ask for it. -/
def EscapesInformed (x : List Action) : Prop :=
  ∀ z m y, x = z ++ .expanded m :: y →
    (∀ s, lastServed y = some s → NoBackslash s → CurrentServed y) ∧
      (lastServed y = none → ∀ s, firstServed z = some s → ¬ NoBackslash s)

/-- If the action is a packet, it is whole. -/
def Action.Whole : Action → Prop
  | .packet t payload _ => LibAttachSql.Whole t payload
  | _ => True

instance : DecidablePred Action.Whole := fun a => by
  rcases a with ⟨⟩
  case packet t payload _ => exact inferInstanceAs (Decidable (LibAttachSql.Whole t payload))
  all_goals exact isTrue trivial

lemma EscapedAsKept.suffix {x y : List Action} (h : EscapedAsKept x) (hy : y <:+ x) : EscapedAsKept y := by
  obtain ⟨z, rfl⟩ := hy
  induction z with
  | nil => exact h
  | cons a z ih =>
    cases a with
    | expanded _ => exact ih h.2
    | _ => exact ih h

lemma not_noBackslash_zero : ¬ NoBackslash 0 := by
  unfold NoBackslash
  decide

lemma Current.lastReported {x : List Action} (h : Current x) : ∃ s, lastReported x = some s := by
  induction x with
  | nil => exact h.elim
  | cons a x ih =>
    cases a with
    | reported s => exact ⟨s, rfl⟩
    | command _ _ => exact h.elim
    | nextResult _ => exact h.elim
    | _ => exact ih h

/-! ### What the library takes from packets -/

/-- The status word that is taken from a packet. -/
def Action.word : Action → Option ℕ
  | .reported s => some s
  | _ => none

/-- Actions that tell nothing of the server's status. -/
def Action.wordless : Action → Bool
  | .packet _ _ _ | .reported _ => false
  | _ => true

/-- What is done while a packet is read, beside the report of its status word. -/
def Action.mute : Action → Bool
  | .packet _ _ _ | .reported _ | .command _ _ | .nextResult _ | .expanded _ => false
  | _ => true

/-- Where a packet was read, the status word in it was reported, if there is one, and nothing else was. -/
inductive Told : List Action → Prop
  | nil : Told []
  | aside {a : Action} {x : List Action} (ha : a.wordless = true) (h : Told x) : Told (a :: x)
  | packet {t : PacketType} {payload : List UInt8} {s : ConStatus} {x u v : List Action} (h : Told x)
    (hu : ∀ a ∈ u, a.mute = true) (hv : ∀ a ∈ v, a.mute = true) :
    Told (u ++ (((statusIn t payload).map Action.reported).toList ++ (v ++ .packet t payload s :: x)))

lemma Told.asides {x y : List Action} (h : Told x) (hy : ∀ a ∈ y, a.wordless = true) : Told (y ++ x) := by
  induction y with
  | nil => exact h
  | cons a y ih => exact .aside (hy a (List.mem_cons_self ..)) (ih fun b hb => hy b (List.mem_cons_of_mem _ hb))

lemma lastReported_eq (x : List Action) : lastReported x = x.findSome? Action.word := by
  induction x with
  | nil => rfl
  | cons a x ih => cases a <;> first | rfl | exact ih

lemma firstReported_eq (x : List Action) : firstReported x = x.reverse.findSome? Action.word := by
  induction x with
  | nil => rfl
  | cons a x ih =>
    rw [List.reverse_cons, List.findSome?_append, ← ih]
    cases a with
    | reported s =>
      show some ((firstReported x).getD s) = (firstReported x).or (some s)
      cases firstReported x <;> rfl
    | _ => exact (Option.or_none).symm

section Blocks

variable {x u v : List Action}

lemma findSome_none {f : Action → Option ℕ} (h : ∀ a ∈ u, f a = none) : u.findSome? f = none :=
  List.findSome?_eq_none_iff.mpr h

lemma mute_served (hu : ∀ a ∈ u, a.mute = true) : ∀ a ∈ u, a.served = none := fun a ha => by
  have hm := hu a ha
  cases a <;> first | rfl | cases hm

lemma mute_word (hu : ∀ a ∈ u, a.mute = true) : ∀ a ∈ u, a.word = none := fun a ha => by
  have hm := hu a ha
  cases a <;> first | rfl | cases hm

lemma reports_served (o : Option ℕ) : ∀ a ∈ (o.map Action.reported).toList, a.served = none := by
  cases o with
  | none => nofun
  | some s => exact List.forall_mem_singleton.mpr rfl

lemma reports_word (o : Option ℕ) : ((o.map Action.reported).toList).findSome? Action.word = o := by
  cases o <;> rfl

lemma currentServed_mute (hu : ∀ a ∈ u, a.mute = true) : CurrentServed (u ++ x) ↔ CurrentServed x := by
  induction u with
  | nil => exact Iff.rfl
  | cons a u ih =>
    have hrest := ih fun b hb => hu b (List.mem_cons_of_mem _ hb)
    have hm := hu a (List.mem_cons_self ..)
    cases a <;> first | exact hrest | cases hm

lemma current_mute (hu : ∀ a ∈ u, a.mute = true) : Current (u ++ x) ↔ Current x := by
  induction u with
  | nil => exact Iff.rfl
  | cons a u ih =>
    have hrest := ih fun b hb => hu b (List.mem_cons_of_mem _ hb)
    have hm := hu a (List.mem_cons_self ..)
    cases a <;> first | exact hrest | cases hm

/-- The last word of the server is the one that was taken last, and as current. -/
lemma Told.last (h : Told x) : lastServed x = lastReported x ∧ (CurrentServed x ↔ Current x) := by
  rw [lastReported_eq]
  unfold lastServed
  induction h with
  | nil => exact ⟨rfl, Iff.rfl⟩
  | aside ha _ ih =>
    obtain ⟨hlast, hcurrent⟩ := ih
    rename_i a x _
    cases a <;> first | exact ⟨hlast, hcurrent⟩ | exact ⟨hlast, Iff.rfl⟩ | cases ha
  | @packet t payload s x u v _ hu hv ih =>
    obtain ⟨hlast, hcurrent⟩ := ih
    constructor
    · rw [List.findSome?_append, List.findSome?_append, List.findSome?_append, findSome_none (mute_served hu),
        findSome_none (reports_served _), findSome_none (mute_served hv), List.findSome?_append, List.findSome?_append,
        List.findSome?_append, findSome_none (mute_word hu), reports_word, findSome_none (mute_word hv)]
      simp only [Option.none_or]
      rw [List.findSome?_cons, List.findSome?_cons, hlast]
      have hserved : (Action.packet t payload s).served = statusIn t payload := rfl
      have hword : (Action.packet t payload s).word = none := rfl
      rw [hserved, hword]
      cases statusIn t payload <;> rfl
    · rw [currentServed_mute hu, current_mute hu]
      cases hs : statusIn t payload with
      | none =>
        show CurrentServed (v ++ _) ↔ Current (v ++ _)
        rw [currentServed_mute hv, current_mute hv]
        show (statusIn t payload).isSome = true ∨ CurrentServed x ↔ Current x
        rw [hs, hcurrent]
        exact or_iff_right nofun
      | some w =>
        show CurrentServed (.reported w :: (v ++ _)) ↔ True
        refine iff_true_intro ?_
        show CurrentServed (v ++ _)
        rw [currentServed_mute hv]
        exact .inl (by rw [hs]; rfl)

/-- No string is escaped while a packet is read. -/
lemma Told.split (h : Told x) : ∀ z m y, x = z ++ .expanded m :: y → Told y ∧ firstServed z = firstReported z := by
  induction h with
  | nil =>
    intro z m y hx
    cases z <;> cases hx
  | @aside a x ha hx ih =>
    intro z m y hsplit
    cases z with
    | nil =>
      obtain ⟨-, rfl⟩ := List.cons.inj hsplit
      exact ⟨hx, rfl⟩
    | cons b z =>
      obtain ⟨rfl, htail⟩ := List.cons.inj hsplit
      obtain ⟨htold, hfirst⟩ := ih z m y htail
      refine ⟨htold, ?_⟩
      rw [firstReported_eq] at hfirst ⊢
      unfold firstServed at hfirst ⊢
      rw [List.reverse_cons, List.findSome?_append, List.findSome?_append, hfirst]
      cases a <;> first | rfl | cases ha
  | @packet t payload s x u v _ hu hv ih =>
    intro z m y hsplit
    have hmute : ∀ {w : List Action}, (∀ a ∈ w, a.mute = true) → .expanded m ∉ w := fun hw hm => nomatch hw _ hm
    have hreport : .expanded m ∉ ((statusIn t payload).map Action.reported).toList := by
      cases statusIn t payload with
      | none => nofun
      | some w => exact fun hm => nomatch List.mem_singleton.mp hm
    obtain ⟨z₁, rfl, hsplit₁⟩ := split_behind (hmute hu) hsplit
    obtain ⟨z₂, rfl, hsplit₂⟩ := split_behind hreport hsplit₁
    obtain ⟨z₃, rfl, hsplit₃⟩ := split_behind (hmute hv) hsplit₂
    obtain ⟨z₄, rfl, hsplit₄⟩ := split_behind (w := [Action.packet t payload s]) (by simp) hsplit₃
    obtain ⟨htold, hfirst⟩ := ih z₄ m y hsplit₄
    refine ⟨htold, ?_⟩
    rw [firstReported_eq] at hfirst ⊢
    unfold firstServed at hfirst ⊢
    have hnone : ∀ {f : Action → Option ℕ} {w : List Action}, (∀ a ∈ w, f a = none) → w.reverse.findSome? f = none :=
      fun hw => findSome_none fun a ha => hw a (List.mem_reverse.mp ha)
    have hwords : ((statusIn t payload).map Action.reported).toList.reverse.findSome? Action.word = statusIn t payload := by
      cases statusIn t payload <;> rfl
    have hpacket : [Action.packet t payload s].reverse.findSome? Action.served = statusIn t payload := by
      rw [List.reverse_singleton, List.findSome?_singleton]
      rfl
    have hno : [Action.packet t payload s].reverse.findSome? Action.word = none := rfl
    simp only [List.reverse_append, List.findSome?_append, hnone (mute_served hu), hnone (reports_served _),
      hnone (mute_served hv), hnone (mute_word hu), hnone (mute_word hv), hwords, hpacket, hno, hfirst, Option.or_none]

/-- Escaping as the kept word asks for matches the server exactly when it is informed, where the words of the server are
those that were taken. -/
lemma EscapedAsKept.match_iff (h : EscapedAsKept x) (ht : Told x) : EscapesMatch x ↔ EscapesInformed x := by
  have hmode : ∀ z m y, x = z ++ .expanded m :: y → (m = true ↔ NoBackslash (keptStatus y)) := by
    intro z m y hx
    have hy : EscapedAsKept (.expanded m :: y) := h.suffix ⟨z, hx.symm⟩
    rw [hy.1]
    exact Iff.rfl
  refine forall_congr' fun z => forall_congr' fun m => forall_congr' fun y => forall_congr' fun hx => ?_
  obtain ⟨hlast, hcurrent⟩ := (ht.split z m y hx).1.last
  rw [hmode z m y hx, hlast, hcurrent]
  refine and_congr (forall_congr' fun s => forall_congr' fun hs => ?_)
    (forall_congr' fun hn => forall_congr' fun s => forall_congr' fun hs => ?_)
  · by_cases hc : Current y
    · rw [keptStatus, if_pos hc, hs]
      exact iff_of_true Iff.rfl fun _ => hc
    · rw [keptStatus, if_neg hc, iff_false_left not_noBackslash_zero]
      exact ⟨fun h' hb => absurd hb h', fun h' hb => hc (h' hb)⟩
  · have hc : ¬ Current y := fun hc => by
      obtain ⟨s, hs⟩ := hc.lastReported
      rw [hn] at hs
      cases hs
    rw [keptStatus, if_neg hc, iff_false_left not_noBackslash_zero]

end Blocks

namespace Control

/-- The kept status word and the escapes are as the trace says. -/
def Tracked (c : Control) (x : List Action) : Prop := c.serverStatus = keptStatus x ∧ EscapedAsKept x

variable {c c' : Control} {x y : List Action} {t : PacketType}

lemma Quiet.tracked {a : Action} (h : Quiet c a) (hc : c.Tracked x) : c.Tracked (a :: x) := by
  cases h with
  | expanded => exact ⟨hc.1, by rw [hc.1], hc.2⟩
  | _ => exact hc

lemma SendMove.tracked (h : SendMove c y c') (hc : c.Tracked x) : c'.Tracked (y ++ x) := by
  cases h with
  | quiet h => exact h.tracked hc
  | fail _ => exact hc
  | await => exact hc

lemma SendMove.tracked_path (h : Path SendMove c y c') (hc : c.Tracked x) : c'.Tracked (y ++ x) :=
  h.preserves (fun hc h => h.tracked hc) hc

lemma Pushed.tracked (h : Pushed t c y c') (hc : c.Tracked x) : c'.Tracked (y ++ x) := by
  cases h <;> exact hc

lemma Tracked.reported (hc : c.Tracked x) (s : ℕ) : Tracked { c with serverStatus := s } (.reported s :: x) :=
  ⟨(if_pos trivial).symm, hc.2⟩

lemma Response.tracked (h : Response c y c') (hc : c.Tracked x) : c'.Tracked (y ++ x) := by
  cases h with
  | ok s => exact hc.reported s
  | err _ => exact hc
  | columnsEnd s _ hp =>
    rw [List.append_assoc]
    exact hp.tracked (hc.reported s)
  | paramsEnd s _ hp =>
    rw [List.append_assoc]
    exact hp.tracked (hc.reported s)
  | finish s _ => exact hc.reported s
  | fault s => exact hc.reported s
  | header _ hp => exact hp.tracked hc

lemma PrepareOk.tracked (h : PrepareOk c y c') (hc : c.Tracked x) : c'.Tracked (y ++ x) := by
  cases h with
  | params hp => exact hp.tracked hc
  | columns hp => exact hp.tracked hc
  | finish => exact hc

lemma LoginMove.tracked (h : LoginMove c y c') (hc : c.Tracked x) : c'.Tracked (y ++ x) := by
  cases h with
  | send h => exact h.tracked hc
  | tls _ _ => exact hc
  | dequeue _ => exact hc
  | refused h _ => exact h.tracked hc

lemma LoginMove.tracked_path (h : Path LoginMove c y c') (hc : c.Tracked x) : c'.Tracked (y ++ x) :=
  h.preserves (fun hc h => h.tracked hc) hc

lemma Login.tracked (h : Login c y c') (hc : c.Tracked x) : c'.Tracked (y ++ x) := by
  cases h with
  | refused => exact hc
  | fault h =>
    have := LoginMove.tracked_path h hc
    exact this
  | scramble h =>
    have := LoginMove.tracked_path h hc
    exact this
  | sent h hp =>
    rw [List.append_assoc]
    exact hp.tracked (LoginMove.tracked_path h hc)

lemma Greeting.tracked (h : Greeting c y c') (hc : c.Tracked x) : c'.Tracked (y ++ x) := by
  cases h <;> exact hc

lemma Handshake.tracked (h : Handshake c y c') (hc : c.Tracked x) : c'.Tracked (y ++ x) := by
  cases h with
  | badProtocol hg =>
    have := hg.tracked hc
    exact this
  | login s hg hl =>
    rw [List.append_assoc]
    exact hl.tracked ((hg.tracked hc).reported s)
  | oldAuth s hg hl =>
    rw [List.append_assoc]
    exact hl.tracked ((hg.tracked hc).reported s)

lemma Dispatch.tracked (h : Dispatch t c y c') (hc : c.Tracked x) : c'.Tracked (y ++ x) := by
  cases h with
  | handshake h => exact h.tracked hc
  | handshakeSsl h => exact h.tracked hc
  | response _ h => exact h.tracked hc
  | prepareOk h => exact h.tracked hc
  | definition _ _ h _ => exact h.tracked hc
  | fault _ => exact hc
  | row _ => exact hc

/-- A command forgets the status word. -/
lemma Commanded.tracked (h : Commanded c y c') (hc : c.Tracked x) (stream tls : Bool) (command : Command) (s : ConStatus) :
    c'.Tracked (y ++ .onStream stream tls :: .command command s :: x) := by
  have hc' : c.commandReset.Tracked (.onStream stream tls :: .command command s :: x) := ⟨(if_neg id).symm, hc.2⟩
  cases h with
  | sent h _ hp =>
    rw [List.cons_append, List.append_assoc]
    exact hp.tracked (SendMove.tracked_path h hc')
  | unanswered h =>
    have := SendMove.tracked_path h hc'
    exact this
  | failed h =>
    have := SendMove.tracked_path h hc'
    exact this
  | compressed h _ => exact SendMove.tracked_path h hc'

lemma AuxMove.tracked {a : Aux} (h : AuxMove c y a) (hc : c.Tracked x) : Tracked { c with aux := a } (y ++ x) := by
  cases h <;> exact hc

/-- **Every move keeps the status word as the trace says, and escapes as it asks for.** -/
theorem Move.tracked (h : Move c y c') (hc : c.Tracked x) : c'.Tracked (y ++ x) := by
  cases h with
  | quiet h => exact h.tracked hc
  | fail _ => exact hc
  | start _ _ => exact hc
  | connected _ hp => exact hp.tracked hc
  | drained _ => exact hc
  | lost _ => exact hc
  | packet _ _ h =>
    rw [List.append_assoc]
    exact h.tracked hc
  | command command tls h =>
    rw [List.append_assoc]
    exact h.tracked hc c.aux.stream tls command c.status
  | request hp =>
    rw [List.append_assoc]
    exact hp.tracked hc
  | nextResult _ hp =>
    rw [List.append_assoc]
    exact hp.tracked ⟨(if_neg id).symm, hc.2⟩
  | pollEof => exact hc
  | keep _ _ hp =>
    rw [List.append_assoc]
    exact hp.tracked hc
  | aux h => exact h.tracked hc

end Control

/-! ### Acts take the words that are there -/

section Acts

variable {con con' : Con}

lemma wordless_of_still {tls : Bool} {a : Action} (h : a.still tls = true) : a.wordless = true := by
  cases a <;> first | rfl | cases h

lemma mute_of_inward {a : Action} (h : a.inward = true) : a.mute = true := by
  cases a <;> first | rfl | cases h

lemma mute_outgoing (con : Con) (bytes : List UInt8) : (con.outgoing bytes).mute = true := by
  unfold Con.outgoing
  split_ifs <;> rfl

/-- The status word of a packet that is read behind it, and what is told of that reader. -/
lemma Told.read (h : Told con.trace) {b : BufferSt} {t : PacketType} {seq : UInt8} {payload : List UInt8}
    (hholds : con.Holds b seq payload)
    (ht : (packetReady con b t seq payload.length).Emits (fun a => a.mute = true) con' ∧ statusIn t payload = none ∨
      ∃ con₁, (packetReady con b t seq payload.length).Tells (statusIn t payload) con₁ ∧
        con₁.Emits (fun a => a.mute = true) con') : Told con'.trace := by
  have hready : (packetReady con b t seq payload.length).trace =
      .packet t payload con.status :: .checked false (countPacket con t).packetNumber seq true :: con.trace := by
    conv_rhs => rw [← hholds.payload_eq]
    rfl
  have hbefore : Told (.checked false (countPacket con t).packetNumber seq true :: con.trace) := .aside rfl h
  rcases ht with ⟨hmute, hnone⟩ | ⟨con₁, ⟨-, u, v, htrace, hu, hv⟩, hbehind⟩
  · obtain ⟨u, hu, hP⟩ := hmute.trace_eq
    have hblock := @Told.packet t payload con.status _ u [] hbefore
      (fun a ha => (hP a ha).elim mute_of_inward id) nofun
    rw [hnone] at hblock
    rw [hu, hready]
    exact hblock
  · obtain ⟨w, hw, hP⟩ := hbehind.trace_eq
    rw [hw, htrace, hready, ← List.append_assoc]
    refine .packet hbefore (fun a ha => ?_) fun a ha => mute_of_inward (hv a ha)
    rcases List.mem_append.mp ha with ha | ha
    · exact (hP a ha).elim mute_of_inward id
    · exact mute_of_inward (hu a ha)

/-- The answer to a handshake takes no word from anything. -/
lemma handshakeResponse_mute (env : Env) (con : Con) :
    con.Emits (fun a => a.mute = true) (handshakeResponse env con) := by
  have hsend : ∀ (con₁ : Con) payload, con₁.Emits (fun a => a.mute = true) (sendWriteBuffer env con₁ payload) :=
    fun con₁ payload => sendWriteBuffer_emits env con₁ fun m => sendData_emits env _ (fun _ => rfl) payload
      (fun _ _ => mute_outgoing _ _) fun _ => ⟨fun _ _ _ => mute_outgoing _ _, fun _ _ _ _ => mute_outgoing _ _⟩
  have hlogin : ∀ con₁ : Con, con₁.Emits (fun a => a.mute = true) (handshakeLogin env con₁) := fun con₁ =>
    handshakeLogin_emits env con₁ (hsend con₁)
  exact handshakeResponse_emits env con (fun _ => hlogin con) (fun _ => (hlogin (tlsEnabled con)).after (.same rfl rfl))
    (fun _ => hsend con _) fun _ => (hlogin _).after (.same rfl rfl)

/-- A handshake that is whole. -/
lemma packetReadHandshake_told {payload : List UInt8} (env : Env) (h : con.Opened payload)
    (hw : Whole .handshake payload) :
    con.Emits (fun a => a.mute = true) (packetReadHandshake env con) ∧ statusIn .handshake payload = none ∨
      ∃ con₁, con.Tells (statusIn .handshake payload) con₁ ∧
        con₁.Emits (fun a => a.mute = true) (packetReadHandshake env con) := by
  have hhead := h.head hw.1
  by_cases hten : con.peekByte 0 = 10
  · refine .inr ⟨handshakeRead con, ?_, ?_⟩
    · rw [← handshakeStatus_eq h hw hten]
      exact handshakeRead_tells con
    · rw [packetReadHandshake_ten env con hten]
      exact handshakeResponse_mute env _
  · refine .inl ⟨?_, ?_⟩
    · have herr : errRead con = con := if_neg fun hb => hw.2.1 (by rw [hhead, hb])
      rw [packetReadHandshake_eq, herr, if_pos hten]
      exact .action (a := .failed .badProtocol con.status con.serverErrno) rfl rfl (.inl rfl)
    · refine Option.eq_none_iff_forall_ne_some.mpr fun w hword => hten ?_
      exact Option.some.inj (hhead.symm.trans (head_of_greetingWord hword))

/-- **One act.** -/
theorem Told.act {a : Act} (h : Told con.trace) (hl : a.Legal con) (hok : ∀ x ∈ (a.apply con).trace, x.Whole) :
    Told (a.apply con).trace := by
  rcases apply_cases hl with hstill | ⟨env, b, seq, payload, t, q, hholds, hq, ha, he⟩ | ⟨env, he⟩ |
    ⟨env, con₁, cmd, data, halike, he⟩
  · obtain ⟨x, hx, hs⟩ := hstill.trace_eq
    rw [hx]
    exact h.asides fun a ha => wordless_of_still (hs a ha)
  · have hopened := hholds.opened t
    rw [he] at hok ⊢
    have hwhole : Whole t payload := by
      have hpacket := hok _ (packet_mem_dispatch env con b t seq payload.length)
      rwa [hholds.payload_eq] at hpacket
    by_cases ht : t = .handshake
    · subst ht
      exact h.read hholds (packetReadHandshake_told env hopened hwhole)
    · by_cases ht' : t = .handshakeSsl
      · subst ht'
        exact h.read hholds (.inl ⟨handshakeResponse_mute env _, rfl⟩)
      · have htells := packetDispatch_tells env (packetReady con b t seq payload.length) ⟨ht, ht'⟩
        rw [readStatus_eq hopened hwhole ht] at htells
        exact h.read hholds (.inr ⟨_, htells, .refl⟩)
  · rw [he]
    obtain ⟨x, hx, hP⟩ := (commandNextResult_emits (P := fun a => a.wordless = true) env con rfl).trace_eq
    rw [hx]
    exact h.asides fun a ha => (hP a ha).elim (fun hin => wordless_of_still (Action.still_of_inward hin false)) id
  · rw [he]
    have hemit := commandSend_emits (P := fun a => a.wordless = true) env con₁ (fun _ => rfl) cmd data rfl rfl
      (fun _ _ _ => by unfold Con.outgoing; split_ifs <;> rfl) fun _ _ _ _ => by unfold Con.outgoing; split_ifs <;> rfl
    obtain ⟨x, hx, hP⟩ := hemit.trace_eq
    rw [hx, halike.trace_eq]
    exact h.asides fun a ha => (hP a ha).elim (fun hin => wordless_of_still (Action.still_of_inward hin false)) id

end Acts

/-- **When strings are escaped in the server's mode**: in a run from a fresh connection whose packets are whole, exactly when
each string is escaped while the last report of the server is current or does not ask for the other mode, and before any
report only when the first one to come does not ask for it. -/
theorem escapes_match_iff {con : Con} (h : Initial con) (es : List SysEvent)
    (hwhole : ∀ a ∈ (run sysStep con es).trace, a.Whole) :
    EscapesMatch (run sysStep con es).trace ↔ EscapesInformed (run sysStep con es).trace := by
  have hI : con.control.Tracked con.trace := by
    cases h
    exact ⟨rfl, trivial⟩
  have hfresh : Told con.trace := by
    cases h
    exact .nil
  have htold : Told (run sysStep con es).trace :=
    @Acts.invariant (fun con => Told con.trace) (fun x => ∀ a ∈ x, a.Whole)
      (fun hok a ha => hok a (List.mem_append_right _ ha)) (fun ht hl hok => ht.act hl hok) _ _
      (run_acts con es) hfresh hwhole
  exact (run_invariant_moves (fun hc hm => hm.tracked hc) hI es).2.match_iff htold

/-- A query whose answer is an OK packet, and a second one with a string. -/
def queryTwice (answer : List UInt8) : List SysEvent := connectAndQuery 514 ++ [
  .poll (.calm [.wrote none, .read 65536 answer]),
  .call (.calm []) .queryClose,
  .call (.calm []) (.query [0x3f] [.char [0x27]])]

/-- The second query comes while the status word of the first one's OK packet is current. -/
theorem escapes_match_iff_after_ok :
    EscapesMatch (run sysStep (.calm 0) (queryTwice (okPacket 1 514))).trace ↔
      EscapesInformed (run sysStep (.calm 0) (queryTwice (okPacket 1 514))).trace :=
  escapes_match_iff (Con.calm_initial 0) _ (by decide +kernel)

/-- A server without backslash escapes answers a query with an error; the string of the next query is escaped with
backslashes all the same. -/
theorem escapes_mismatch_after_error :
    ∃ con es, Initial con ∧ ¬ EscapesMatch (run sysStep con es).trace := by
  refine ⟨.calm 0, queryTwice (errPacket 1), Con.calm_initial 0, fun h => ?_⟩
  generalize htrace : (run sysStep _ _).trace = x at h
  have hx : x = x.take 4 ++ .expanded false :: x.drop 5 := by
    subst htrace
    decide +kernel
  have hs : lastServed (x.drop 5) = some 514 := by
    subst htrace
    decide +kernel
  exact absurd ((h _ _ _ hx).1 _ hs) (by unfold NoBackslash; decide)

end LibAttachSql
