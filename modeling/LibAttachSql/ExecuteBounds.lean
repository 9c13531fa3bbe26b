import LibAttachSql.ExecuteRoundTrip

/-!
# The room in the execution buffer

`attachsql_stmt_execute` asks for room three times: for the fixed part, for each value, and once more for the bytes of a
string.  None of the checks knows how much of the buffer is used, and each at most doubles it.  Here every store and
every check is listed with the size the buffer has then, and compared with the places that follow from the sizes of the
values alone.
-/

namespace LibAttachSql

open Lib

/-! ### Stores and checks -/

/-- What `attachsql_stmt_execute` does to its buffer: it stores so many bytes at a place, or goes on at a place after
`attachsql_stmt_check_buffer_size` has said yes to so many, in a buffer of a size. -/
inductive ExecEvent where
  | stored (p n size : ℕ)
  | checked (p required size : ℕ)
  deriving DecidableEq

/-- What is stored lies in the buffer, and what was checked for is free behind the place. -/
def ExecEvent.Inside : ExecEvent → Prop
  | stored p n size => p + n ≤ size
  | checked p required size => p + required ≤ size

/-- A store lies in the buffer; of a check nothing is asked. -/
def ExecEvent.StoredInside : ExecEvent → Prop
  | stored p n size => p + n ≤ size
  | checked _ _ _ => True

/-- The check for the length of a string, which is made for nothing else. -/
def checkString (env : Env) (stmt : Stmt) (p : StmtParam) : Option Stmt :=
  if isStringType p.type then stmtCheckBufferSize env stmt p.length else some stmt

/-- The check for a value, the check for a string and the store of the value. -/
def valueEvents (env : Env) (f : Fill) (p : StmtParam) : List ExecEvent :=
  match stmtCheckBufferSize env f.stmt sizeofDatetime with
  | none => []
  | some stmt =>
    .checked f.pos sizeofDatetime stmt.execBufferLength ::
      match checkString env stmt p with
      | none => []
      | some stmt =>
        .checked f.pos (if isStringType p.type then p.length else 0) stmt.execBufferLength ::
          match paramBytes p with
          | none => []
          | some bs => [.stored f.pos bs.length stmt.execBufferLength]

/-- The state of the loop when the type of a parameter is stored. -/
def Fill.typed (f : Fill) (i : ℕ) (p : StmtParam) : Fill := f.put (f.typePos + i * 2) (packInt2 (typeWord p))

/-- What a round of the loop does to the buffer. -/
def paramEvents (env : Env) (f : Fill) (i : ℕ) (p : StmtParam) : List ExecEvent :=
  if p.type = columnTypeNull then []
  else
    .stored (f.typePos + i * 2) 2 f.stmt.execBufferLength ::
      if p.isLongData then [] else valueEvents env (f.typed i p) p

/-- What the loop does to the buffer. -/
def fillEvents (env : Env) (f : Fill) (i : ℕ) : List StmtParam → List ExecEvent
  | [] => []
  | p :: ps =>
    paramEvents env f i p ++
      match fillParam env f i p with
      | .error _ => []
      | .ok f => fillEvents env f (i + 1) ps

/-- The parameters of a statement. -/
def Stmt.bound (stmt : Stmt) : List StmtParam := (stmt.paramData.getD []).take stmt.paramCount

/-- What `attachsql_stmt_execute` does to the buffer of a statement.  A statement without an array of parameters for its
number of them is left to crash. -/
def execEvents (env : Env) (stmt : Stmt) : List ExecEvent :=
  match stmtCheckBufferSize env stmt 2060 with
  | none => []
  | some stmt =>
    if stmt.bound.length ≠ stmt.paramCount then []
    else
      .checked 0 2060 stmt.execBufferLength :: .stored 0 (execHead stmt stmt.bound).length stmt.execBufferLength ::
        fillEvents env (execStart stmt stmt.bound) 0 stmt.bound

/-! ### Sizes and places -/

/-- The parameter has a value in the buffer. -/
def StmtParam.HasValue (p : StmtParam) : Prop := p.type ≠ columnTypeNull ∧ p.isLongData = false

instance (p : StmtParam) : Decidable p.HasValue := inferInstanceAs (Decidable (_ ∧ _))

/-- The bytes of the value of a parameter. -/
def StmtParam.wireLength (p : StmtParam) : ℕ := if p.HasValue then ((paramBytes p).getD []).length else 0

/-- The bytes the last check for a parameter asks for. -/
def StmtParam.stringLength (p : StmtParam) : ℕ := if isStringType p.type then p.length else 0

/-- The size of the buffer behind the checks for a parameter. -/
def StmtParam.roomAfter (p : StmtParam) (size : ℕ) : ℕ :=
  if p.HasValue then checkedSize (checkedSize size sizeofDatetime) p.stringLength else size

/-- A check for room is granted: the buffer is large enough, or memory for a larger one is there. -/
def Grants (env : Env) (size required : ℕ) : Prop :=
  size < required → (env.malloc.get (checkedSize size required)).isSome = true

instance (env : Env) (size required : ℕ) : Decidable (Grants env size required) := inferInstanceAs (Decidable (_ → _))

/-- The loop gets past a parameter. -/
def StmtParam.Passes (env : Env) (size : ℕ) (p : StmtParam) : Prop :=
  p.HasValue →
    Grants env size sizeofDatetime ∧ Grants env (checkedSize size sizeofDatetime) p.stringLength ∧
      (paramBytes p).isSome = true

instance (env : Env) (size : ℕ) (p : StmtParam) : Decidable (p.Passes env size) := inferInstanceAs (Decidable (_ → _))

/-- The size of the buffer when the loop comes to parameter `i`. -/
def bufferSizeAt (size : ℕ) (ps : List StmtParam) (i : ℕ) : ℕ := (ps.take i).foldl (fun n p => p.roomAfter n) size

/-- The place of the value of parameter `i`, when the first value is at `pos`. -/
def valuePlace (pos : ℕ) (ps : List StmtParam) (i : ℕ) : ℕ := pos + ((ps.take i).map StmtParam.wireLength).sum

/-- A parameter fits into a buffer of this size: its type word does, 24 bytes behind the place of its value are there,
and so are the bytes of a string without the length in front of them, and the bytes of the value. -/
def StmtParam.Fits (env : Env) (size typePos pos : ℕ) (p : StmtParam) : Prop :=
  p.type ≠ columnTypeNull →
    typePos + 2 ≤ size ∧
      (p.HasValue → Grants env size sizeofDatetime → pos + sizeofDatetime ≤ checkedSize size sizeofDatetime ∧
        (Grants env (checkedSize size sizeofDatetime) p.stringLength →
          pos + p.stringLength ≤ p.roomAfter size ∧ pos + p.wireLength ≤ p.roomAfter size))

section Checks

variable {env : Env} {stmt : Stmt} {required size : ℕ} {p : StmtParam}

lemma grants_zero (env : Env) (size : ℕ) : Grants env size 0 := fun h => absurd h (Nat.not_lt_zero _)

/-- A check for room. -/
lemma stmtCheckBufferSize_of_grants (h : Grants env stmt.execBufferLength required) :
    stmtCheckBufferSize env stmt required =
      some { stmt with execBufferLength := checkedSize stmt.execBufferLength required } := by
  cases hs : stmtCheckBufferSize env stmt required with
  | some stmt' => rw [stmtCheckBufferSize_eq_some hs]
  | none =>
    unfold stmtCheckBufferSize at hs
    by_cases hlt : stmt.execBufferLength < required
    · have hsome := h hlt
      unfold checkedSize at hsome
      rw [if_pos hlt] at hs hsome
      dsimp only at hs
      rw [if_pos hsome] at hs
      cases hs
    · rw [if_neg hlt] at hs
      cases hs

lemma stmtCheckBufferSize_of_not_grants (h : ¬ Grants env stmt.execBufferLength required) :
    stmtCheckBufferSize env stmt required = none := by
  unfold Grants at h
  push Not at h
  obtain ⟨hlt, hnone⟩ := h
  unfold checkedSize at hnone
  unfold stmtCheckBufferSize
  rw [if_pos hlt] at hnone ⊢
  exact if_neg hnone

lemma checkString_of_grants (h : Grants env stmt.execBufferLength p.stringLength) :
    checkString env stmt p =
      some { stmt with execBufferLength := checkedSize stmt.execBufferLength p.stringLength } := by
  unfold checkString
  unfold StmtParam.stringLength at h ⊢
  by_cases hp : isStringType p.type = true
  · rw [if_pos hp] at h ⊢
    rw [if_pos hp]
    exact stmtCheckBufferSize_of_grants h
  · rw [if_neg hp, if_neg hp, checkedSize_zero]

lemma checkString_of_not_grants (h : ¬ Grants env stmt.execBufferLength p.stringLength) :
    checkString env stmt p = none := by
  unfold checkString
  unfold StmtParam.stringLength at h
  by_cases hp : isStringType p.type = true
  · rw [if_pos hp] at h ⊢
    exact stmtCheckBufferSize_of_not_grants h
  · rw [if_neg hp] at h
    exact absurd (grants_zero env _) h

lemma le_checkedSize (size required : ℕ) : size ≤ checkedSize size required := by
  unfold checkedSize
  split_ifs <;> omega

end Checks

/-! ### A round -/

/-- The round from the checks on, when the type is stored. -/
def valueRound (env : Env) (f : Fill) (p : StmtParam) : Except ExecFailure Fill :=
  match stmtCheckBufferSize env f.stmt sizeofDatetime with
  | none => .error (.noMemory f.stmt)
  | some stmt =>
    match checkString env stmt p with
    | none => .error (.noMemory stmt)
    | some stmt =>
      match paramBytes p with
      | none => .error (.badParameter stmt)
      | some bs => .ok ({ f with stmt := stmt }.push bs)

section Round

variable {env : Env} {f f' : Fill} {i : ℕ} {p : StmtParam}

lemma StmtParam.HasValue.roomAfter (h : p.HasValue) (size : ℕ) :
    p.roomAfter size = checkedSize (checkedSize size sizeofDatetime) p.stringLength := if_pos h

lemma StmtParam.HasValue.wireLength (h : p.HasValue) : p.wireLength = ((paramBytes p).getD []).length := if_pos h

lemma fillParam_of_hasValue (h : p.HasValue) : fillParam env f i p = valueRound env (f.typed i p) p := by
  unfold fillParam
  rw [if_neg h.1, if_neg (Bool.eq_false_iff.mp h.2)]
  rfl

lemma paramEvents_of_hasValue (h : p.HasValue) : paramEvents env f i p =
    .stored (f.typePos + i * 2) 2 f.stmt.execBufferLength :: valueEvents env (f.typed i p) p := by
  unfold paramEvents
  rw [if_neg h.1, if_neg (Bool.eq_false_iff.mp h.2)]

/-- The loop stops at a check that is not granted, and at a type it does not know. -/
lemma valueRound_cases (h : p.HasValue) :
    let size := f.stmt.execBufferLength
    let checked := ExecEvent.checked f.pos sizeofDatetime (checkedSize size sizeofDatetime)
    let checkedString := ExecEvent.checked f.pos p.stringLength (p.roomAfter size)
    ¬ Grants env size sizeofDatetime ∧ (∃ e, valueRound env f p = .error e) ∧ valueEvents env f p = [] ∨
    Grants env size sizeofDatetime ∧ (¬ Grants env (checkedSize size sizeofDatetime) p.stringLength ∧
          (∃ e, valueRound env f p = .error e) ∧ valueEvents env f p = [checked] ∨
        Grants env (checkedSize size sizeofDatetime) p.stringLength ∧ (paramBytes p = none ∧
              (∃ e, valueRound env f p = .error e) ∧ valueEvents env f p = [checked, checkedString] ∨
            ∃ bs, paramBytes p = some bs ∧
              valueRound env f p =
                .ok ({ f with stmt := { f.stmt with execBufferLength := p.roomAfter size } }.push bs) ∧
              valueEvents env f p = [checked, checkedString, .stored f.pos bs.length (p.roomAfter size)])) := by
  intro size checked checkedString
  have hroom := h.roomAfter size
  unfold valueRound valueEvents
  by_cases hdate : Grants env size sizeofDatetime
  · rw [stmtCheckBufferSize_of_grants hdate]
    refine .inr ⟨hdate, ?_⟩
    generalize hstmt : ({ f.stmt with execBufferLength := checkedSize size sizeofDatetime } : Stmt) = stmt
    have hsize : checkedSize size sizeofDatetime = stmt.execBufferLength := by rw [← hstmt]
    by_cases hstring : Grants env (checkedSize size sizeofDatetime) p.stringLength
    · refine .inr ⟨hstring, ?_⟩
      rw [hsize] at hstring
      dsimp only
      rw [checkString_of_grants hstring, ← hsize, ← hroom]
      cases hbytes : paramBytes p with
      | none => exact .inl ⟨rfl, ⟨_, rfl⟩, rfl⟩
      | some bs =>
        refine .inr ⟨bs, rfl, ?_, rfl⟩
        rw [← hstmt]
    · refine .inl ⟨hstring, ?_⟩
      rw [hsize] at hstring
      dsimp only
      rw [checkString_of_not_grants hstring, ← hsize]
      exact ⟨⟨_, rfl⟩, rfl⟩
  · rw [stmtCheckBufferSize_of_not_grants hdate]
    exact .inl ⟨hdate, ⟨_, rfl⟩, rfl⟩

lemma fillParam_null (h : p.type = columnTypeNull) : fillParam env f i p = .ok f := by
  unfold fillParam
  rw [if_pos h]

lemma paramEvents_null (h : p.type = columnTypeNull) : paramEvents env f i p = [] := by
  unfold paramEvents
  rw [if_pos h]

section Long

variable (h : p.type ≠ columnTypeNull) (hv : ¬ p.HasValue)

include h hv

lemma isLongData_of_not_hasValue : p.isLongData = true :=
  Bool.eq_true_of_not_eq_false fun hl => hv ⟨h, hl⟩

/-- Of long data the type is stored alone. -/
lemma fillParam_long : fillParam env f i p = .ok (f.typed i p) := by
  unfold fillParam
  rw [if_neg h, if_pos (isLongData_of_not_hasValue h hv)]
  rfl

lemma paramEvents_long : paramEvents env f i p = [.stored (f.typePos + i * 2) 2 f.stmt.execBufferLength] := by
  unfold paramEvents
  rw [if_neg h, if_pos (isLongData_of_not_hasValue h hv)]

end Long

/-- A parameter fits exactly when everything that is done for it is inside. -/
lemma paramEvents_inside_iff : (∀ e ∈ paramEvents env f i p, e.Inside) ↔
    p.Fits env f.stmt.execBufferLength (f.typePos + i * 2) f.pos := by
  unfold StmtParam.Fits
  by_cases hnull : p.type = columnTypeNull
  · rw [paramEvents_null hnull]
    exact iff_of_true nofun fun h => absurd hnull h
  by_cases hv : p.HasValue
  · rw [paramEvents_of_hasValue hv, List.forall_mem_cons]
    have hle := le_checkedSize (checkedSize f.stmt.execBufferLength sizeofDatetime) p.stringLength
    rw [← hv.roomAfter] at hle
    have hwire := hv.wireLength
    have hcases := @valueRound_cases env (f.typed i p) p hv
    simp only [hnull, hv, ne_eq, not_false_eq_true, forall_true_left]
    refine and_congr_right fun _ => ?_
    rcases hcases with ⟨hd, -, he⟩ | ⟨hd, ⟨hs, -, he⟩ | ⟨hs, ⟨hb, -, he⟩ | ⟨bs, hb, -, he⟩⟩⟩
    · rw [he]
      exact iff_of_true nofun fun h => absurd h hd
    · rw [he, List.forall_mem_singleton]
      exact ⟨fun h _ => ⟨h, fun h' => absurd h' hs⟩, fun h => (h hd).1⟩
    · rw [he, List.forall_mem_cons, List.forall_mem_singleton]
      rw [hb] at hwire
      refine ⟨fun h _ => ⟨h.1, fun _ => ⟨h.2, ?_⟩⟩, fun h => ⟨(h hd).1, ((h hd).2 hs).1⟩⟩
      have hroom : f.pos + sizeofDatetime ≤ checkedSize f.stmt.execBufferLength sizeofDatetime := h.1
      rw [hwire]
      show f.pos + 0 ≤ _
      omega
    · rw [he, List.forall_mem_cons, List.forall_mem_cons, List.forall_mem_singleton]
      rw [hb] at hwire
      have hstore :
          ExecEvent.Inside (.stored (f.typed i p).pos bs.length (p.roomAfter (f.typed i p).stmt.execBufferLength)) ↔
            f.pos + p.wireLength ≤ p.roomAfter f.stmt.execBufferLength := by
        rw [hwire]
        exact Iff.rfl
      rw [hstore]
      exact ⟨fun h _ => ⟨h.1, fun _ => h.2⟩, fun h => ⟨(h hd).1, (h hd).2 hs⟩⟩
  · rw [paramEvents_long hnull hv, List.forall_mem_singleton]
    exact ⟨fun h _ => ⟨h, fun h' => absurd h' hv⟩, fun h => (h hnull).1⟩

/-- Where the loop stands behind a parameter it gets past. -/
lemma fillParam_passes (h : p.Passes env f.stmt.execBufferLength) : ∃ f', fillParam env f i p = .ok f' ∧
    f'.stmt.execBufferLength = p.roomAfter f.stmt.execBufferLength ∧ f'.typePos = f.typePos ∧
    f'.pos = f.pos + p.wireLength := by
  by_cases hv : p.HasValue
  · obtain ⟨hdate, hstring, hbytes⟩ := h hv
    rw [fillParam_of_hasValue hv]
    rcases @valueRound_cases env (f.typed i p) p hv with ⟨hd, -⟩ | ⟨-, ⟨hs, -⟩ | ⟨-, ⟨hb, -⟩ | ⟨bs, hb, hround, -⟩⟩⟩
    · exact absurd hdate hd
    · exact absurd hstring hs
    · rw [hb] at hbytes
      cases hbytes
    · refine ⟨_, hround, rfl, rfl, ?_⟩
      rw [hv.wireLength, hb]
      rfl
  · unfold StmtParam.roomAfter StmtParam.wireLength
    rw [if_neg hv, if_neg hv]
    by_cases hnull : p.type = columnTypeNull
    · exact ⟨f, fillParam_null hnull, rfl, rfl, rfl⟩
    · exact ⟨_, fillParam_long hnull hv, rfl, rfl, rfl⟩

lemma fillParam_stops (h : ¬ p.Passes env f.stmt.execBufferLength) : ∃ e, fillParam env f i p = .error e := by
  unfold StmtParam.Passes at h
  push Not at h
  obtain ⟨hv, hstop⟩ := h
  rw [fillParam_of_hasValue hv]
  rcases @valueRound_cases env (f.typed i p) p hv with ⟨-, he, -⟩ | ⟨hd, ⟨-, he, -⟩ | ⟨hs, ⟨-, he, -⟩ | ⟨bs, hb, -⟩⟩⟩
  · exact he
  · exact he
  · exact he
  · refine absurd ?_ (hstop hd hs)
    rw [hb]
    rfl

lemma typed_outside : (f.typed i p).outside = false ↔
    f.outside = false ∧ (ExecEvent.stored (f.typePos + i * 2) 2 f.stmt.execBufferLength).StoredInside :=
  put_outside_iff f _ _

/-- The flag of the model says whether every store of the list is inside. -/
lemma fillParam_outside (h : fillParam env f i p = .ok f') :
    f'.outside = false ↔ f.outside = false ∧ ∀ e ∈ paramEvents env f i p, e.StoredInside := by
  by_cases hnull : p.type = columnTypeNull
  · rw [fillParam_null hnull] at h
    cases h
    rw [paramEvents_null hnull]
    exact (and_iff_left nofun).symm
  by_cases hv : p.HasValue
  · rw [fillParam_of_hasValue hv] at h
    rw [paramEvents_of_hasValue hv, List.forall_mem_cons, ← and_assoc, ← @typed_outside f i p]
    rcases @valueRound_cases env (f.typed i p) p hv with ⟨-, ⟨e, he⟩, -⟩ | ⟨-, ⟨-, ⟨e, he⟩, -⟩ | ⟨-, ⟨-, ⟨e, he⟩, -⟩ |
      ⟨bs, -, hround, hevents⟩⟩⟩
    · cases he.symm.trans h
    · cases he.symm.trans h
    · cases he.symm.trans h
    · rw [← Except.ok.inj (hround.symm.trans h), hevents, List.forall_mem_cons, List.forall_mem_cons,
        List.forall_mem_singleton]
      refine (put_outside_iff _ _ _).trans (and_congr_right fun _ => ?_)
      exact ⟨fun h => ⟨trivial, trivial, h⟩, fun h => h.2.2⟩
  · rw [fillParam_long hnull hv] at h
    cases h
    rw [paramEvents_long hnull hv, List.forall_mem_singleton]
    exact typed_outside

end Round

/-! ### The loop -/

/-- Every parameter that the loop comes to fits, at the place that follows from the sizes of those before. -/
def AllFit (env : Env) (size typePos pos : ℕ) (ps : List StmtParam) : Prop :=
  ∀ (i : ℕ) (p : StmtParam), ps[i]? = some p →
    (∀ j < i, ∀ q : StmtParam, ps[j]? = some q → q.Passes env (bufferSizeAt size ps j)) →
      p.Fits env (bufferSizeAt size ps i) (typePos + i * 2) (valuePlace pos ps i)

section Loop

variable {env : Env} {f f' : Fill} {i : ℕ} {p : StmtParam} {ps : List StmtParam} {size typePos pos : ℕ}

lemma bufferSizeAt_succ (j : ℕ) : bufferSizeAt size (p :: ps) (j + 1) = bufferSizeAt (p.roomAfter size) ps j := rfl

lemma valuePlace_succ (j : ℕ) : valuePlace pos (p :: ps) (j + 1) = valuePlace (pos + p.wireLength) ps j := by
  unfold valuePlace
  rw [List.take_succ_cons, List.map_cons, List.sum_cons, Nat.add_assoc]

/-- The first parameter, and if the loop gets past it the others. -/
lemma allFit_cons : AllFit env size typePos pos (p :: ps) ↔
    p.Fits env size typePos pos ∧
      (p.Passes env size → AllFit env (p.roomAfter size) (typePos + 2) (pos + p.wireLength) ps) := by
  constructor
  · intro h
    refine ⟨?_, fun hp j q hq hpasses => ?_⟩
    · have hfirst := h 0 p rfl (fun j hj => absurd hj (Nat.not_lt_zero j))
      rw [Nat.zero_mul, Nat.add_zero] at hfirst
      exact hfirst
    · have hnext := h (j + 1) q hq fun k hk r hr => by
        cases k with
        | zero =>
          cases hr
          exact hp
        | succ k => exact hpasses k (Nat.lt_of_succ_lt_succ hk) r hr
      rw [bufferSizeAt_succ, valuePlace_succ] at hnext
      have hplace : typePos + (j + 1) * 2 = typePos + 2 + j * 2 := by omega
      rw [hplace] at hnext
      exact hnext
  · rintro ⟨hfirst, hrest⟩ j q hq hpasses
    cases j with
    | zero =>
      cases hq
      rw [Nat.zero_mul, Nat.add_zero]
      exact hfirst
    | succ j =>
      have hp := hpasses 0 (Nat.succ_pos j) p rfl
      have hnext := hrest hp j q hq fun k hk r hr => hpasses (k + 1) (Nat.succ_lt_succ hk) r hr
      have hplace : typePos + (j + 1) * 2 = typePos + 2 + j * 2 := by omega
      rw [bufferSizeAt_succ, valuePlace_succ, hplace]
      exact hnext

/-- **The loop**: everything that is done is inside exactly when every parameter fits. -/
lemma fillEvents_inside_iff (f : Fill) (i : ℕ) (ps : List StmtParam) : (∀ e ∈ fillEvents env f i ps, e.Inside) ↔
    AllFit env f.stmt.execBufferLength (f.typePos + i * 2) f.pos ps := by
  induction ps generalizing f i with
  | nil => exact iff_of_true nofun fun j p hp => by cases hp
  | cons p ps ih =>
    rw [fillEvents, List.forall_mem_append, allFit_cons, paramEvents_inside_iff]
    refine and_congr_right fun _ => ?_
    by_cases hp : p.Passes env f.stmt.execBufferLength
    · obtain ⟨f', hf', hsize, htype, hpos⟩ := @fillParam_passes env f i p hp
      rw [hf', forall_prop_of_true hp]
      dsimp only
      rw [ih f' (i + 1), hsize, htype, hpos]
      have hplace : f.typePos + (i + 1) * 2 = f.typePos + i * 2 + 2 := by omega
      rw [hplace]
    · obtain ⟨e, he⟩ := @fillParam_stops env f i p hp
      rw [he]
      exact iff_of_true nofun fun h => absurd h hp

/-- The flag of the model at the end of the loop says whether every store of the list is inside. -/
lemma fillParams_outside (h : fillParams env f i ps = .ok f') :
    f'.outside = false ↔ f.outside = false ∧ ∀ e ∈ fillEvents env f i ps, e.StoredInside := by
  induction ps generalizing f i with
  | nil =>
    cases h
    exact (and_iff_left nofun).symm
  | cons p ps ih =>
    rw [fillParams] at h
    rw [fillEvents, List.forall_mem_append]
    cases hp : fillParam env f i p with
    | error e =>
      rw [hp] at h
      cases h
    | ok g =>
      rw [hp] at h
      rw [ih h, fillParam_outside hp, and_assoc]

end Loop

/-! ### The whole buffer -/

/-- The fixed part fits, and so does every parameter that is come to: the types stand behind the fixed part, two bytes a
parameter, and the values behind the types of the parameters that are not NULL. -/
def ExecRoom (env : Env) (stmt : Stmt) : Prop :=
  Grants env stmt.execBufferLength 2060 → stmt.bound.length = stmt.paramCount →
    let size := checkedSize stmt.execBufferLength 2060
    let head := 10 + (stmt.bound.length + 7) / 8
    2060 ≤ size ∧ head ≤ size ∧ AllFit env size head (head + typed stmt.bound * 2) stmt.bound

section Exec

variable {env : Env} {stmt : Stmt}

lemma execEvents_of_grants (hg : Grants env stmt.execBufferLength 2060) (hn : stmt.bound.length = stmt.paramCount) :
    execEvents env stmt =
      .checked 0 2060 stmt.checked.execBufferLength ::
        .stored 0 (10 + (stmt.bound.length + 7) / 8) stmt.checked.execBufferLength ::
          fillEvents env (execStart stmt.checked stmt.bound) 0 stmt.bound := by
  unfold execEvents
  rw [stmtCheckBufferSize_of_grants hg]
  exact (if_neg (not_not_intro hn)).trans (by rw [length_execHead]; rfl)

lemma execEvents_of_missing (hg : Grants env stmt.execBufferLength 2060) (hn : stmt.bound.length ≠ stmt.paramCount) :
    execEvents env stmt = [] := by
  unfold execEvents
  rw [stmtCheckBufferSize_of_grants hg]
  exact if_pos hn

/-- A payload is built only of stores inside the buffer. -/
lemma stored_of_execPayload {r : Stmt × List UInt8} (h : execPayload env stmt = .ok r) :
    ∀ e ∈ execEvents env stmt, e.StoredInside := by
  unfold execPayload at h
  cases hcheck : stmtCheckBufferSize env stmt 2060 with
  | none =>
    rw [hcheck] at h
    cases h
  | some stmt' =>
    rw [hcheck] at h
    unfold execEvents
    rw [hcheck]
    change (if stmt'.bound.length ≠ stmt'.paramCount then _ else _) = _ at h
    dsimp only
    by_cases hn : stmt'.bound.length ≠ stmt'.paramCount
    · rw [if_pos hn]
      exact nofun
    · rw [if_neg hn] at h ⊢
      change (fillParams env (execStart stmt' stmt'.bound) 0 stmt'.bound).bind _ = _ at h
      cases hf : fillParams env (execStart stmt' stmt'.bound) 0 stmt'.bound with
      | error e =>
        rw [hf] at h
        cases h
      | ok f =>
        rw [hf] at h
        have hinside : f.outside = false := by
          by_contra hout
          have hout' : f.outside = true := Bool.eq_true_of_not_eq_false hout
          change (if f.outside = true ∨ _ then _ else _) = _ at h
          rw [if_pos (.inl hout')] at h
          cases h
        obtain ⟨hstart, hloop⟩ := (fillParams_outside hf).mp hinside
        rw [List.forall_mem_cons, List.forall_mem_cons]
        refine ⟨trivial, ?_, hloop⟩
        have hhead : (Fill.put ⟨stmt', 0, 0, false⟩ 0 (execHead stmt' stmt'.bound)).outside = false := hstart
        exact ((put_outside_iff _ _ _).mp hhead).2

/-- **Where `attachsql_stmt_execute` stays inside its buffer**: every store is inside the buffer as it is at that moment,
and every check that says yes leaves the bytes it was asked for free, exactly when everything fits at its place. -/
theorem exec_inside_iff (env : Env) (stmt : Stmt) :
    (∀ e ∈ execEvents env stmt, e.Inside) ↔ ExecRoom env stmt := by
  unfold ExecRoom
  by_cases hg : Grants env stmt.execBufferLength 2060
  · rw [forall_prop_of_true hg]
    by_cases hn : stmt.bound.length = stmt.paramCount
    · rw [forall_prop_of_true hn, execEvents_of_grants hg hn, List.forall_mem_cons, List.forall_mem_cons,
        fillEvents_inside_iff, execStart_typePos, execStart_pos, Nat.zero_mul, Nat.add_zero]
      refine and_congr ?_ (and_congr ?_ Iff.rfl)
      · show 0 + 2060 ≤ _ ↔ _
        rw [Nat.zero_add]
        rfl
      · show 0 + _ ≤ _ ↔ _
        rw [Nat.zero_add]
        rfl
    · rw [execEvents_of_missing hg hn]
      exact iff_of_true nofun fun h => absurd h hn
  · unfold execEvents
    rw [stmtCheckBufferSize_of_not_grants hg]
    exact iff_of_true nofun fun h => absurd h hg

end Exec

/-- A string of 16384 bytes. -/
def longString : StmtParam := setParam 0xfe 16384 false (.string (List.replicate 16384 0x61)) .fresh

lemma longString_wireLength : longString.wireLength = 3 + 16384 := by
  have hbytes : paramBytes longString = some (packData ((List.replicate 16384 0x61).take 16384)) := rfl
  have hlength : (packLength 16384).length = 3 := rfl
  unfold StmtParam.wireLength
  rw [if_pos ⟨by decide, rfl⟩, hbytes, Option.getD_some, packData, List.length_append, List.length_take,
    List.length_replicate, Nat.min_self, hlength]

/-- A string as long as the buffer of a new statement is found to fit into it, and is written behind its own length and
all that stands in front of it. -/
theorem exec_outside : ¬ ∀ e ∈ execEvents .calm (stmtWith [longString]), e.Inside := by
  intro h
  rw [execEvents_of_grants (by decide) rfl] at h
  have hall := (fillEvents_inside_iff _ _ _).mp fun e he => h e (List.mem_cons_of_mem _ (List.mem_cons_of_mem _ he))
  have hfits := hall 0 longString rfl nofun
  have hvalue := (((hfits (by decide)).2 ⟨by decide, rfl⟩ (by decide)).2 (by decide)).2
  rw [longString_wireLength] at hvalue
  revert hvalue
  decide

end LibAttachSql
