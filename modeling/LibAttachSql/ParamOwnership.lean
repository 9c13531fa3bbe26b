import LibAttachSql.System

/-!
# The dates bound to a statement

`attachsql_statement_set_datetime` and `attachsql_statement_set_time` make an object and store its address in the union
of a parameter; `attachsql_statement_close` deletes what the union holds when a flag of the parameter says so.  Only
these two setters write the flag, the second one writes `false`, and none deletes what the union held before.

A ledger goes with the statement: for each parameter the objects made for it, and which of them the union holds.  It
says exactly which sequences of setters leave every object deleted once, and nothing else deleted, when the statement is
closed.
-/

namespace LibAttachSql

open Lib

/-! ### Setters -/

/-- The calls that bind a parameter: those that end in `attachsql_statement_set_param`, and the two for dates. -/
inductive Setter where
  | param (type length : ℕ) (isUnsigned : Bool) (value : ParamData)
  | datetime (value : Datetime)
  | time (value : Datetime)

/-- What a setter does to a parameter. -/
def Setter.set : Setter → StmtParam → StmtParam
  | .param type length isUnsigned value => setParam type length isUnsigned value
  | .datetime value => setDatetime value
  | .time value => setTime value

/-- `attachsql_statement_set_param` writes the union for a value of this member. -/
def writesUnion : ParamData → Bool
  | .int _ | .bigint _ | .float _ | .double _ | .string _ => true
  | _ => false

/-- The setter leaves the union as it is, as the one for NULL does. -/
def Setter.keepsUnion : Setter → Bool
  | .param _ _ _ value => !writesUnion value
  | _ => false

/-- At most one date is set, as a date and time, and nothing but NULL after it. -/
def DatedLast : List Setter → Prop
  | [] => True
  | .param _ _ _ _ :: ss => DatedLast ss
  | .datetime _ :: ss => ∀ s ∈ ss, s.keepsUnion = true
  | .time _ :: _ => False

/-! ### The ledger of a parameter -/

/-- The objects made for a parameter, the one whose address the union holds, and whether something that is no such
address was ever deleted. -/
structure Slot where
  heap : Heap
  holds : Option ℕ
  wild : Bool

namespace Slot

/-- Nothing made and nothing held. -/
def fresh : Slot := { heap := .empty, holds := none, wild := false }

/-- What a setter does to the objects. -/
def bind (s : Slot) : Setter → Slot
  | .param _ _ _ value => if writesUnion value then { s with holds := none } else s
  | .datetime _ => { s with heap := s.heap.alloc, holds := some s.heap.next }
  | .time _ => { s with heap := s.heap.alloc, holds := some s.heap.next }

/-- `delete` of what the union holds. -/
def delete (s : Slot) : Slot :=
  match s.holds with
  | some o => { s with heap := s.heap.release o }
  | none => { s with wild := true }

lemma delete_of_holds {s : Slot} {o : ℕ} (h : s.holds = some o) : s.delete = { s with heap := s.heap.release o } := by
  unfold delete
  split
  · next i hi =>
    rw [h] at hi
    cases hi
    rfl
  · next hn =>
    rw [h] at hn
    cases hn

/-- Every object was deleted once, and nothing else. -/
structure Settled (s : Slot) : Prop where
  once : s.heap.misused = false
  none_left : ∀ o, s.heap.isLive o = false
  only : s.wild = false

end Slot

/-- A parameter with its ledger. -/
abbrev Owner := StmtParam × Slot

namespace Owner

/-- A setter on a parameter and its ledger. -/
def bind (x : Owner) (s : Setter) : Owner := (s.set x.1, x.2.bind s)

/-- The ledger after the statement is closed. -/
def closed (x : Owner) : Slot := if x.1.datetimeAlloc then x.2.delete else x.2

/-- The flag says whether the union holds a live object, and closing the statement settles the ledger. -/
structure Tidy (x : Owner) : Prop where
  flag : x.1.datetimeAlloc = true ↔ ∃ o, x.2.holds = some o ∧ x.2.heap.isLive o = true
  settled : x.closed.Settled

/-- No object was made. -/
structure Undated (x : Owner) : Prop where
  flag : x.1.datetimeAlloc = false
  holds : x.2.holds = none
  clean : x.2.heap.misused = false
  none_live : ∀ o, x.2.heap.isLive o = false
  not_wild : x.2.wild = false

/-- One object is live, the union holds it, and the flag says so. -/
structure Dated (x : Owner) (o : ℕ) : Prop where
  flag : x.1.datetimeAlloc = true
  holds : x.2.holds = some o
  clean : x.2.heap.misused = false
  live_iff : ∀ i, x.2.heap.isLive i = true ↔ i = o
  not_wild : x.2.wild = false

/-- A live object is not in the union, or the flag does not say so: it will not be deleted. -/
def Leaks (x : Owner) : Prop :=
  ∃ o, x.2.heap.isLive o = true ∧ (x.1.datetimeAlloc = true → x.2.holds ≠ some o)

variable {x : Owner} {o : ℕ}

/-! ### What a setter does -/

section Param

variable (x : Owner) (type length : ℕ) (u : Bool) (value : ParamData)

@[simp] lemma bind_param_flag : (x.bind (.param type length u value)).1.datetimeAlloc = x.1.datetimeAlloc := by
  cases value <;> rfl

@[simp] lemma bind_param_heap : (x.bind (.param type length u value)).2.heap = x.2.heap := by
  cases value <;> rfl

@[simp] lemma bind_param_wild : (x.bind (.param type length u value)).2.wild = x.2.wild := by
  cases value <;> rfl

@[simp] lemma bind_param_holds :
    (x.bind (.param type length u value)).2.holds = if writesUnion value then none else x.2.holds := by
  cases value <;> rfl

end Param

/-- A leak stays. -/
lemma Leaks.bind (h : x.Leaks) (s : Setter) : (x.bind s).Leaks := by
  obtain ⟨o, ho, hx⟩ := h
  have hnext : x.2.heap.next ≠ o := fun hn => absurd (Heap.isLive_lt (hn ▸ ho)) (Nat.lt_irrefl _)
  cases s with
  | param type length u value =>
    refine ⟨o, by rwa [bind_param_heap], fun hflag => ?_⟩
    rw [bind_param_flag] at hflag
    rw [bind_param_holds]
    split
    · exact nofun
    · exact hx hflag
  | datetime value => exact ⟨o, Heap.isLive_alloc ho, fun _ hh => hnext (Option.some.inj hh)⟩
  | time value => exact ⟨o, Heap.isLive_alloc ho, nofun⟩

lemma Leaks.after (h : x.Leaks) (ss : List Setter) : (run Owner.bind x ss).Leaks := by
  induction ss generalizing x with
  | nil => exact h
  | cons s ss ih => exact ih (h.bind s)

/-- Where something leaks, closing the statement does not settle the ledger. -/
lemma Leaks.not_tidy (h : x.Leaks) : ¬ x.Tidy := by
  intro ht
  obtain ⟨o, ho, hx⟩ := h
  have hgone := ht.settled.none_left o
  unfold closed Slot.delete at hgone
  split at hgone
  · next hflag =>
    split at hgone
    · next i hi =>
      have hne : o ≠ i := fun he => hx hflag (he ▸ hi)
      rw [Heap.isLive_release_of_ne ho hne] at hgone
      cases hgone
    · rw [ho] at hgone
      cases hgone
  · rw [ho] at hgone
    cases hgone

/-- The object of a date is deleted when the statement is closed, if only NULL is bound after it. -/
lemma Dated.tidy (h : x.Dated o) : x.Tidy where
  flag := iff_of_true h.flag ⟨o, h.holds, (h.live_iff o).mpr rfl⟩
  settled := by
    have hlive : x.2.heap.isLive o = true := (h.live_iff o).mpr rfl
    rw [closed, if_pos h.flag, Slot.delete_of_holds h.holds]
    refine ⟨?_, fun i => Bool.eq_false_iff.mpr fun hi => ?_, h.not_wild⟩
    · dsimp only
      rw [Heap.release, if_pos hlive]
      exact h.clean
    · obtain rfl := (h.live_iff i).mp (Heap.isLive_of_release hi)
      rw [Heap.isLive_release_self hlive] at hi
      cases hi

lemma Undated.tidy (h : x.Undated) : x.Tidy where
  flag := by
    rw [h.flag, h.holds]
    exact iff_of_false Bool.false_ne_true nofun
  settled := by
    rw [closed, if_neg (Bool.eq_false_iff.mp h.flag)]
    exact ⟨h.clean, h.none_live, h.not_wild⟩

/-- Another date leaves the object of the one before behind, and so does any other value but NULL. -/
lemma Dated.leaks (h : x.Dated o) {s : Setter} (hs : s.keepsUnion = false) : (x.bind s).Leaks := by
  have hlive : x.2.heap.isLive o = true := (h.live_iff o).mpr rfl
  have hnext : x.2.heap.next ≠ o := fun hn => absurd (Heap.isLive_lt (hn ▸ hlive)) (Nat.lt_irrefl _)
  cases s with
  | param type length u value =>
    have hw : writesUnion value = true := by simpa [Setter.keepsUnion] using hs
    refine ⟨o, by rwa [bind_param_heap], fun _ => ?_⟩
    rw [bind_param_holds, if_pos hw]
    exact nofun
  | datetime value => exact ⟨o, Heap.isLive_alloc hlive, fun _ hh => hnext (Option.some.inj hh)⟩
  | time value => exact ⟨o, Heap.isLive_alloc hlive, nofun⟩

/-- NULL leaves the object of a date to be deleted. -/
lemma Dated.bind (h : x.Dated o) {s : Setter} (hs : s.keepsUnion = true) : (x.bind s).Dated o := by
  cases s with
  | param type length u value =>
    have hw : writesUnion value = false := by simpa [Setter.keepsUnion] using hs
    refine ⟨?_, ?_, ?_, ?_, ?_⟩
    · rw [bind_param_flag, h.flag]
    · rw [bind_param_holds, if_neg (Bool.eq_false_iff.mp hw), h.holds]
    · rw [bind_param_heap, h.clean]
    · rw [bind_param_heap]
      exact h.live_iff
    · rw [bind_param_wild, h.not_wild]
  | datetime _ => cases hs
  | time _ => cases hs

/-- **A date that was set**: its object is deleted at the end exactly when no setter writes the union again. -/
lemma Dated.tidy_run_iff (h : x.Dated o) (ss : List Setter) :
    (run Owner.bind x ss).Tidy ↔ ∀ s ∈ ss, s.keepsUnion = true := by
  induction ss generalizing x with
  | nil => exact iff_of_true h.tidy nofun
  | cons s ss ih =>
    rw [run_cons, List.forall_mem_cons]
    cases hs : s.keepsUnion with
    | true =>
      rw [ih (h.bind hs)]
      exact ⟨fun hss => ⟨rfl, hss⟩, fun hn => hn.2⟩
    | false => exact iff_of_false ((h.leaks hs).after ss).not_tidy fun hn => Bool.false_ne_true hn.1

/-- **A parameter without a date**: what is made for it is deleted at the end exactly when it is dated last. -/
lemma Undated.tidy_run_iff (h : x.Undated) (ss : List Setter) : (run Owner.bind x ss).Tidy ↔ DatedLast ss := by
  induction ss generalizing x with
  | nil => exact iff_of_true h.tidy trivial
  | cons s ss ih =>
    rw [run_cons]
    cases s with
    | param type length u value =>
      refine ih ⟨?_, ?_, ?_, ?_, ?_⟩
      · rw [bind_param_flag, h.flag]
      · rw [bind_param_holds, h.holds, ite_self]
      · rw [bind_param_heap, h.clean]
      · rw [bind_param_heap]
        exact h.none_live
      · rw [bind_param_wild, h.not_wild]
    | datetime value =>
      have honly : ∀ i, x.2.heap.alloc.isLive i = true ↔ i = x.2.heap.next := fun i => by
        constructor
        · intro hi
          refine (Heap.isLive_of_alloc hi).resolve_right fun hold => ?_
          rw [h.none_live] at hold
          cases hold
        · rintro rfl
          exact Heap.isLive_alloc_next
      have hdated : (x.bind (.datetime value)).Dated x.2.heap.next := ⟨rfl, rfl, h.clean, honly, h.not_wild⟩
      exact hdated.tidy_run_iff ss
    | time value =>
      have hleaks : (x.bind (.time value)).Leaks := ⟨x.2.heap.next, Heap.isLive_alloc_next, nofun⟩
      exact iff_of_false (hleaks.after ss).not_tidy id

end Owner

/-! ### The ledger of a statement -/

/-- A call that binds a parameter, in its surroundings. -/
structure BindCall where
  env : Env
  error : ErrorPtr
  param : ℕ
  setter : Setter

/-- A connection with the ledgers of the parameters of its statement. -/
structure Binding where
  con : Con
  slots : ℕ → Slot

namespace Binding

/-- The parameters of the statement that can be bound. -/
def params (b : Binding) : List StmtParam :=
  match b.con.stmt with
  | none => []
  | some stmt => (stmt.paramData.getD []).take stmt.paramCount

/-- A parameter and its ledger. -/
def owner (b : Binding) (i : ℕ) : Owner := (b.params.getD i .fresh, b.slots i)

/-- A call binds a parameter and notes what it makes; a call that is refused does nothing. -/
def bind (b : Binding) (c : BindCall) : Binding where
  con := (statementSet c.env b.con c.param c.error c.setter.set).1
  slots := fun i => if i = c.param ∧ i < b.params.length then (b.slots i).bind c.setter else b.slots i

/-- `attachsql_statement_close`: what the unions hold is deleted where the flags say so. -/
def close (env : Env) (b : Binding) : Binding where
  con := statementClose env b.con
  slots := fun i => if i < b.params.length then (b.owner i).closed else b.slots i

/-- A connection whose ledgers are empty. -/
def start (con : Con) : Binding := { con := con, slots := fun _ => .fresh }

/-- The flags say which unions hold live objects, and closing the statement deletes every object once and nothing
else. -/
structure Tidy (env : Env) (b : Binding) : Prop where
  flag : ∀ i < b.params.length,
    (b.owner i).1.datetimeAlloc = true ↔ ∃ o, (b.slots i).holds = some o ∧ (b.slots i).heap.isLive o = true
  settled : ∀ i, ((b.close env).slots i).Settled

end Binding

/-- The setters of a run of calls that are for a parameter. -/
def settersOf (i : ℕ) (cs : List BindCall) : List Setter := (cs.filter (·.param = i)).map (·.setter)

/-- Nothing is bound to the statement of the connection, if it has one, and it has room for its parameters. -/
def Unbound (con : Con) : Prop :=
  ∀ stmt, con.stmt = some stmt → ∀ ps, stmt.paramData = some ps → ps = List.replicate stmt.paramCount .fresh

namespace Binding

variable (b : Binding) (c : BindCall)

/-- A call changes the parameter it names, if the statement has it. -/
lemma bind_params : (b.bind c).params = b.params.modify c.param c.setter.set := by
  unfold params bind statementSet
  cases hstmt : b.con.stmt with
  | none => simp [hstmt]
  | some stmt =>
    dsimp only
    by_cases hcount : stmt.paramCount ≤ c.param
    · rw [if_pos hcount, hstmt]
      refine (List.modify_eq_self ?_).symm
      exact (List.length_take_le _ _).trans hcount
    · rw [if_neg hcount]
      cases hparams : stmt.paramData with
      | none => simp [Con.log, hstmt, hparams]
      | some ps =>
        dsimp only [Option.getD_some]
        exact List.take_modify ..

lemma bind_length : (b.bind c).params.length = b.params.length := by
  rw [bind_params, List.length_modify]

/-- What a call does to a parameter the statement has. -/
lemma bind_owner {i : ℕ} (hi : i < b.params.length) :
    (b.bind c).owner i = if c.param = i then (b.owner i).bind c.setter else b.owner i := by
  have hparam : (b.bind c).params.getD i .fresh =
      if c.param = i then c.setter.set (b.params.getD i .fresh) else b.params.getD i .fresh := by
    rw [List.getD_eq_getElem _ _ (by rwa [bind_length]), List.getD_eq_getElem _ _ hi]
    simp only [bind_params, List.getElem_modify]
  have hslot : (b.bind c).slots i = if c.param = i then (b.slots i).bind c.setter else b.slots i := by
    change (if i = c.param ∧ i < b.params.length then _ else _) = _
    simp only [hi, and_true, eq_comm]
  unfold owner
  rw [hparam, hslot]
  split_ifs <;> rfl

lemma run_length (cs : List BindCall) : (run bind b cs).params.length = b.params.length := by
  induction cs generalizing b with
  | nil => rfl
  | cons c cs ih => rw [run_cons, ih, bind_length]

/-- **What a run of calls does to a parameter** is what the setters that are for it do. -/
lemma run_owner {i : ℕ} (hi : i < b.params.length) (cs : List BindCall) :
    (run bind b cs).owner i = run Owner.bind (b.owner i) (settersOf i cs) := by
  induction cs generalizing b with
  | nil => rfl
  | cons c cs ih =>
    rw [run_cons, ih _ (by rwa [bind_length]), bind_owner b c hi]
    unfold settersOf
    rw [List.filter_cons]
    split_ifs with h h' h'
    · rfl
    · exact absurd (decide_eq_true h) h'
    · exact absurd (of_decide_eq_true h') h
    · rfl

/-- Nothing is made for a parameter the statement does not have. -/
lemma run_slots {i : ℕ} (hi : b.params.length ≤ i) (cs : List BindCall) : (run bind b cs).slots i = b.slots i := by
  induction cs generalizing b with
  | nil => rfl
  | cons c cs ih =>
    rw [run_cons, ih _ (by rwa [bind_length])]
    exact if_neg fun h => absurd h.2 (Nat.not_lt.mpr hi)

end Binding

lemma Slot.fresh_settled : Slot.fresh.Settled := ⟨rfl, fun _ => rfl, rfl⟩

/-- A statement is tidy when its parameters are. -/
lemma tidy_iff (env : Env) {b : Binding} (h : ∀ i, b.params.length ≤ i → (b.slots i).Settled) :
    b.Tidy env ↔ ∀ i < b.params.length, (b.owner i).Tidy := by
  have hclose : ∀ i < b.params.length, (b.close env).slots i = (b.owner i).closed := fun i hi => if_pos hi
  constructor
  · intro ht i hi
    refine ⟨ht.flag i hi, ?_⟩
    rw [← hclose i hi]
    exact ht.settled i
  · intro ht
    refine ⟨fun i hi => (ht i hi).flag, fun i => ?_⟩
    by_cases hi : i < b.params.length
    · rw [hclose i hi]
      exact (ht i hi).settled
    · have hsame : (b.close env).slots i = b.slots i := if_neg hi
      rw [hsame]
      exact h i (Nat.not_lt.mp hi)

lemma Unbound.undated {con : Con} (h : Unbound con) (i : ℕ) : ((Binding.start con).owner i).Undated := by
  refine ⟨?_, rfl, rfl, fun _ => rfl, rfl⟩
  have hfresh : ∀ p ∈ (Binding.start con).params, p = .fresh := fun p hp => by
    unfold Binding.params Binding.start at hp
    split at hp
    · cases hp
    · next stmt hstmt =>
      cases hps : stmt.paramData with
      | none =>
        rw [hps] at hp
        simp at hp
      | some ps =>
        rw [hps, h stmt hstmt ps hps] at hp
        exact List.eq_of_mem_replicate (List.mem_of_mem_take hp)
  unfold Binding.owner
  by_cases hi : i < (Binding.start con).params.length
  · rw [List.getD_eq_getElem _ _ hi, hfresh _ (List.getElem_mem hi)]
    rfl
  · rw [List.getD_eq_default _ _ (Nat.not_lt.mp hi)]
    rfl

/-- A statement whose prepare was answered is unbound. -/
lemma unbound_of_prepareOk {env : Env} {con : Con} {m : Memory UInt8} {p : ℕ}
    (h : con.stmt = some (prepareOkStmt env m p .fresh)) : Unbound con := by
  intro stmt hstmt ps hps
  rw [h] at hstmt
  cases hstmt
  change (if _ then _ else if _ then _ else _) = some ps at hps
  change ps = List.replicate (unpackInt2 m (p + 6)) .fresh
  split_ifs at hps
  · cases hps
  · cases hps
    rfl

/-- **Where the dates bound to a statement are deleted**: from an unbound statement on, closing it deletes every object
the setters made once, and nothing else, by flags that tell what the unions hold, exactly when each parameter is dated
last. -/
theorem datetimes_deleted_iff (env : Env) {con : Con} (h : Unbound con) (cs : List BindCall) :
    (run Binding.bind (.start con) cs).Tidy env ↔
      ∀ i < (Binding.start con).params.length, DatedLast (settersOf i cs) := by
  have hrest : ∀ i, (run Binding.bind (.start con) cs).params.length ≤ i →
      ((run Binding.bind (.start con) cs).slots i).Settled := fun i hi => by
    rw [Binding.run_length] at hi
    rw [Binding.run_slots _ hi]
    exact Slot.fresh_settled
  rw [tidy_iff env hrest, Binding.run_length]
  refine forall₂_congr fun i hi => ?_
  rw [Binding.run_owner _ hi]
  exact (h.undated i).tidy_run_iff _

/-- A connection with a prepared statement of one parameter. -/
def Con.oneParam : Con :=
  { Con.calm 0 with stmt := some { Stmt.fresh with paramCount := 1, paramData := some [.fresh], state := .prepared } }

/-- A call on the parameter of a statement that has one. -/
def bindFirst (s : Setter) : BindCall := { env := .calm, error := .at none, param := 0, setter := s }

/-- Noon of the first day of a year. -/
def noon (year : ℕ) : Datetime := ⟨year, 1, 1, 12, 0, 0, 0, false⟩

/-- A date that is bound once. -/
theorem datetimes_deleted_iff_once :
    (run Binding.bind (.start .oneParam) [bindFirst (.datetime (noon 2014))]).Tidy .calm ↔
      ∀ i < 1, DatedLast (settersOf i [bindFirst (.datetime (noon 2014))]) :=
  @datetimes_deleted_iff .calm .oneParam (fun _ hstmt _ hps => by cases hstmt; cases hps; rfl) _

/-- A time is never deleted, a date that is bound again is lost, and an integer that is bound after a date is deleted as
if it were one. -/
theorem dates_not_deleted :
    ¬ (run Binding.bind (.start .oneParam) [bindFirst (.time (noon 0))]).Tidy .calm ∧
      ¬ (run Binding.bind (.start .oneParam)
        [bindFirst (.datetime (noon 2014)), bindFirst (.datetime (noon 2015))]).Tidy .calm ∧
      ¬ (run Binding.bind (.start .oneParam)
        [bindFirst (.datetime (noon 2014)), bindFirst (.param 0x03 0 false (.int 7))]).Tidy .calm := by
  refine ⟨fun h => ?_, fun h => ?_, fun h => ?_⟩
  · cases (h.settled 0).none_left 0
  · cases (h.settled 0).none_left 0
  · cases (h.settled 0).only

end LibAttachSql
