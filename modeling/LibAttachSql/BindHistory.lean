import LibAttachSql.ExecuteBounds

/-!
# The history of a parameter

A parameter can be bound again and again before its statement is executed.  Each setter writes the fields it needs: all
of them write the type, those for numbers the unsigned flag, those for strings the length.  Here two histories of the
same statement are compared that end with the same call for each parameter.
-/

namespace LibAttachSql

open Lib

/-! ### Setters -/

/-- A setter of `statement_getset.cc` with the value it is called with. -/
inductive Bind where
  | int (value : ℕ)
  | unsignedInt (value : ℕ)
  | bigint (value : ℕ)
  | unsignedBigint (value : ℕ)
  | double (value : List UInt8)
  | string (length : ℕ) (value : List UInt8)
  | binary (length : ℕ) (value : List UInt8)
  | null
  | datetime (value : Datetime)
  | time (value : Datetime)

namespace Bind

/-- What a setter does to its parameter. -/
def set : Bind → StmtParam → StmtParam
  | int value => setParam 0x03 0 false (.int value)
  | unsignedInt value => setParam 0x03 0 true (.int value)
  | bigint value => setParam 0x08 0 false (.bigint value)
  | unsignedBigint value => setParam 0x08 0 true (.bigint value)
  | double value => setParam 0x05 0 false (.double value)
  | string length value => setParam 0xfe length false (.string value)
  | binary length value => setParam 0xfc length false (.string value)
  | null => setParam columnTypeNull 0 false .none
  | datetime value => setDatetime value
  | time value => setTime value

/-- What a setter makes of the unsigned flag. -/
def flag : Bind → Option Bool
  | int _ | bigint _ | double _ => some false
  | unsignedInt _ | unsignedBigint _ => some true
  | _ => none

/-- The setter binds a value and leaves the unsigned flag. -/
def keepsFlag : Bind → Bool
  | string _ _ | binary _ _ | datetime _ | time _ => true
  | _ => false

/-- The type a setter writes. -/
def code : Bind → ℕ
  | int _ | unsignedInt _ => 0x03
  | bigint _ | unsignedBigint _ => 0x08
  | double _ => 0x05
  | string _ _ => 0xfe
  | binary _ _ => 0xfc
  | null => columnTypeNull
  | datetime _ => 0x0c
  | time _ => 0x0b

/-- The flag after some setters. -/
def flagAfter (flag : Bool) (bs : List Bind) : Bool := run (fun flag b => b.flag.getD flag) flag bs

variable (b : Bind) (p : StmtParam)

lemma set_isUnsigned : (b.set p).isUnsigned = b.flag.getD p.isUnsigned := by cases b <;> rfl

lemma set_type : (b.set p).type = b.code := by cases b <;> rfl

lemma set_isLongData : (b.set p).isLongData = p.isLongData := by cases b <;> rfl

lemma run_isUnsigned (bs : List Bind) :
    (run (fun p b => b.set p) p bs).isUnsigned = flagAfter p.isUnsigned bs :=
  run_map (fun p b => b.set_isUnsigned p) p bs

lemma run_isLongData (bs : List Bind) : (run (fun p b => b.set p) p bs).isLongData = p.isLongData := by
  induction bs generalizing p with
  | nil => rfl
  | cons b bs ih => rw [run_cons, ih, set_isLongData]

end Bind

/-! ### Encodings -/

/-- The two bytes of the type of a parameter and the bytes of its value, if it is not NULL. -/
def StmtParam.encoding (p : StmtParam) : Option (List UInt8 × Option (List UInt8)) :=
  if p.type = columnTypeNull then none
  else some (packInt2 (typeWord p), if p.isLongData then none else paramBytes p)

/-- Two parameters that the loop of `attachsql_stmt_execute` does not tell apart. -/
structure StmtParam.Same (p q : StmtParam) : Prop where
  type_eq : q.type = p.type
  long_eq : q.isLongData = p.isLongData
  word_eq : p.type ≠ columnTypeNull → typeWord q = typeWord p
  bytes_eq : p.type ≠ columnTypeNull → paramBytes q = paramBytes p
  length_eq : p.type ≠ columnTypeNull → q.stringLength = p.stringLength

section Same

variable {p q : StmtParam}

lemma StmtParam.Same.refl (p : StmtParam) : p.Same p := ⟨rfl, rfl, fun _ => rfl, fun _ => rfl, fun _ => rfl⟩

lemma StmtParam.Same.encoding_eq (h : p.Same q) : q.encoding = p.encoding := by
  unfold StmtParam.encoding
  by_cases hnull : p.type = columnTypeNull
  · rw [if_pos hnull, if_pos (h.type_eq.trans hnull)]
  · have hq : q.type ≠ columnTypeNull := fun hq => hnull (h.type_eq.symm.trans hq)
    rw [if_neg hnull, if_neg hq, h.long_eq, h.word_eq hnull, h.bytes_eq hnull]

lemma encodings_of_same {ps qs : List StmtParam} (h : List.Forall₂ StmtParam.Same ps qs) :
    qs.map StmtParam.encoding = ps.map StmtParam.encoding := by
  induction h with
  | nil => rfl
  | cons hp _ ih => rw [List.map_cons, List.map_cons, ih, hp.encoding_eq]

variable (b : Bind)

/-- After the same setter two parameters differ in the unsigned flag at most, and in that only where the setter leaves
it. -/
lemma Bind.same_set (hl : q.isLongData = p.isLongData) (hu : b.keepsFlag = true → q.isUnsigned = p.isUnsigned) :
    (b.set p).Same (b.set q) := by
  refine ⟨(b.set_type q).trans (b.set_type p).symm, ?_, fun hnull => ?_, fun hnull => ?_, fun hnull => ?_⟩
  · rw [set_isLongData, set_isLongData, hl]
  · have hflag : (b.set q).isUnsigned = (b.set p).isUnsigned := by
      cases b with
      | null => exact absurd rfl hnull
      | string _ _ | binary _ _ | datetime _ | time _ => exact hu rfl
      | _ => rfl
    unfold typeWord
    rw [hflag, set_type, set_type]
  · cases b with
    | null => exact absurd rfl hnull
    | _ => rfl
  · cases b with
    | null => exact absurd rfl hnull
    | _ => rfl

/-- The word of a type and the flag of it. -/
lemma word_injective {code : ℕ} (h : code ∈ [0xfe, 0xfc, 0x0c, 0x0b]) {u v : Bool}
    (hw : packInt2 (if u = true then code ||| stmtParamUnsignedBit else code) =
      packInt2 (if v = true then code ||| stmtParamUnsignedBit else code)) : u = v := by
  have hall : ∀ code ∈ [0xfe, 0xfc, 0x0c, 0x0b], ∀ u v : Bool,
      packInt2 (if u = true then code ||| stmtParamUnsignedBit else code) =
        packInt2 (if v = true then code ||| stmtParamUnsignedBit else code) → u = v := by decide
  exact hall code h u v hw

/-- Where the setter leaves the flag, the encoding shows it. -/
lemma Bind.flag_of_encoding (hb : b.keepsFlag = true) (h : (b.set q).encoding = (b.set p).encoding) :
    q.isUnsigned = p.isUnsigned := by
  have hcode : b.code ∈ [0xfe, 0xfc, 0x0c, 0x0b] := by
    cases b with
    | string _ _ | binary _ _ | datetime _ | time _ => simp [code]
    | _ => cases hb
  have hflag : b.flag = none := by
    cases b with
    | string _ _ | binary _ _ | datetime _ | time _ => rfl
    | _ => cases hb
  have hnull : ∀ r : StmtParam, (b.set r).type ≠ columnTypeNull := fun r hr => by
    rw [set_type] at hr
    rw [hr] at hcode
    revert hcode
    decide
  unfold StmtParam.encoding at h
  rw [if_neg (hnull p), if_neg (hnull q)] at h
  have hword := congrArg Prod.fst (Option.some.inj h)
  unfold typeWord at hword
  rw [set_type, set_type, set_isUnsigned, set_isUnsigned, hflag] at hword
  exact word_injective hcode hword

end Same

/-! ### The loop does not tell them apart -/

/-- The state of the loop on a statement with other parameters. -/
def Fill.onParams (f : Fill) (ps : Option (List StmtParam)) : Fill := { f with stmt := { f.stmt with paramData := ps } }

section Loop

variable {env : Env} {f : Fill} {i : ℕ} {p q : StmtParam} {ps qs : List StmtParam}

lemma StmtParam.Same.hasValue_iff (h : p.Same q) : q.HasValue ↔ p.HasValue := by
  unfold StmtParam.HasValue
  rw [h.type_eq, h.long_eq]

lemma StmtParam.Same.typed_onParams (h : p.Same q) (hnull : p.type ≠ columnTypeNull) (d : Option (List StmtParam)) :
    (f.onParams d).typed i q = (f.typed i p).onParams d := by
  unfold Fill.typed
  rw [h.word_eq hnull]
  rfl

lemma StmtParam.Same.passes_iff (h : p.Same q) (size : ℕ) : q.Passes env size ↔ p.Passes env size := by
  unfold StmtParam.Passes
  rw [h.hasValue_iff]
  refine forall_congr' fun hv => ?_
  rw [h.length_eq hv.1, h.bytes_eq hv.1]

/-- The round of a value in closed form. -/
lemma valueRound_toOption (h : p.HasValue) : (valueRound env f p).toOption =
    if p.Passes env f.stmt.execBufferLength then
      some ({ f with stmt := { f.stmt with execBufferLength := p.roomAfter f.stmt.execBufferLength } }.push
        ((paramBytes p).getD []))
    else none := by
  have hpasses : p.Passes env f.stmt.execBufferLength ↔ Grants env f.stmt.execBufferLength sizeofDatetime ∧
      Grants env (checkedSize f.stmt.execBufferLength sizeofDatetime) p.stringLength ∧ (paramBytes p).isSome = true :=
    forall_prop_of_true h
  rcases @valueRound_cases env f p h with ⟨hd, ⟨e, he⟩, -⟩ | ⟨hd, ⟨hs, ⟨e, he⟩, -⟩ | ⟨hs, ⟨hb, ⟨e, he⟩, -⟩ |
    ⟨bs, hb, hround, -⟩⟩⟩
  · rw [he, if_neg fun hp => hd (hpasses.mp hp).1]
    rfl
  · rw [he, if_neg fun hp => hs (hpasses.mp hp).2.1]
    rfl
  · rw [he, if_neg fun hp => ?_]
    · rfl
    · have hsome := (hpasses.mp hp).2.2
      rw [hb] at hsome
      cases hsome
  · rw [hround, if_pos (hpasses.mpr ⟨hd, hs, by rw [hb]; rfl⟩), hb]
    rfl

/-- A round does the same for parameters that are the same, whatever parameters the statement has. -/
lemma StmtParam.Same.fillParam_onParams (h : p.Same q) (d : Option (List StmtParam)) :
    (fillParam env (f.onParams d) i q).toOption = (fillParam env f i p).toOption.map (·.onParams d) := by
  by_cases hnull : p.type = columnTypeNull
  · rw [fillParam_null hnull, fillParam_null (h.type_eq.trans hnull)]
    rfl
  have hnull' : q.type ≠ columnTypeNull := fun hq => hnull (h.type_eq.symm.trans hq)
  by_cases hv : p.HasValue
  · have hv' := h.hasValue_iff.mpr hv
    have hroom : q.roomAfter = p.roomAfter := by
      funext size
      rw [hv.roomAfter, hv'.roomAfter, h.length_eq hnull]
    rw [fillParam_of_hasValue hv, fillParam_of_hasValue hv', h.typed_onParams hnull, valueRound_toOption hv,
      valueRound_toOption hv', h.bytes_eq hnull, hroom]
    have hiff := @StmtParam.Same.passes_iff env p q h (f.typed i p).stmt.execBufferLength
    by_cases hp : p.Passes env (f.typed i p).stmt.execBufferLength
    · rw [if_pos hp]
      exact if_pos (hiff.mpr hp)
    · rw [if_neg hp]
      exact if_neg fun hq => hp (hiff.mp hq)
  · have hv' : ¬ q.HasValue := fun hq => hv (h.hasValue_iff.mp hq)
    rw [fillParam_long hnull hv, fillParam_long hnull' hv', h.typed_onParams hnull]
    rfl

/-- The loop does the same for parameters that are the same. -/
lemma fillParams_onParams (h : List.Forall₂ StmtParam.Same ps qs) (d : Option (List StmtParam)) (f : Fill) (i : ℕ) :
    (fillParams env (f.onParams d) i qs).toOption = (fillParams env f i ps).toOption.map (·.onParams d) := by
  induction h generalizing f i with
  | nil => rfl
  | @cons p q ps qs hp _ ih =>
    have hround := @StmtParam.Same.fillParam_onParams env f i p q hp d
    rw [fillParams, fillParams]
    cases hf : fillParam env f i p with
    | error e =>
      rw [hf] at hround
      cases hg : fillParam env (f.onParams d) i q with
      | error e' => rfl
      | ok g =>
        rw [hg] at hround
        cases hround
    | ok f' =>
      rw [hf] at hround
      cases hg : fillParam env (f.onParams d) i q with
      | error e' =>
        rw [hg] at hround
        cases hround
      | ok g =>
        rw [hg] at hround
        obtain rfl : g = f'.onParams d := Option.some.inj hround
        exact ih f' (i + 1)

end Loop

/-! ### Payloads -/

/-- The bytes of the payload `attachsql_stmt_execute` builds, if it gets that far. -/
def execBytes (env : Env) (stmt : Stmt) : Option (List UInt8) := (execPayload env stmt).toOption.map Prod.snd

/-- What the loop makes of a statement, from the end of its fixed part on. -/
def execFill (env : Env) (stmt : Stmt) : Option (List UInt8) :=
  (fillParams env (execStart stmt stmt.bound) 0 stmt.bound).toOption.bind fun f =>
    if f.outside ∨ f.stmt.execBufferLength < f.pos then none else some (f.stmt.execBuffer.slice 0 f.pos)

lemma execBytes_eq (env : Env) (stmt : Stmt) : execBytes env stmt =
    (stmtCheckBufferSize env stmt 2060).bind fun stmt =>
      if stmt.bound.length ≠ stmt.paramCount then none else execFill env stmt := by
  unfold execBytes execPayload
  cases stmtCheckBufferSize env stmt 2060 with
  | none => rfl
  | some stmt =>
    change (if stmt.bound.length ≠ stmt.paramCount then _ else _ : Except ExecFailure _).toOption.map _ = _
    rw [Option.bind_some]
    by_cases hn : stmt.bound.length ≠ stmt.paramCount
    · rw [if_pos hn, if_pos hn]
      rfl
    · rw [if_neg hn, if_neg hn]
      change ((fillParams env (execStart stmt stmt.bound) 0 stmt.bound).bind _).toOption.map _ = _
      unfold execFill
      cases fillParams env (execStart stmt stmt.bound) 0 stmt.bound with
      | error e => rfl
      | ok f =>
        change (if f.outside = true ∨ f.stmt.execBufferLength < f.pos then _ else _ : Except ExecFailure _).toOption.map _ =
          if f.outside = true ∨ f.stmt.execBufferLength < f.pos then _ else _
        split_ifs
        · rfl
        · rfl

section Payload

variable {ps qs : List StmtParam}

lemma nullBitmap_congr (h : qs.map StmtParam.type = ps.map StmtParam.type) : nullBitmap qs = nullBitmap ps := by
  have hbit : ∀ (rs : List StmtParam) (k : ℕ),
      (rs[k]?).any (·.type = columnTypeNull) = ((rs.map StmtParam.type)[k]?).any (· = columnTypeNull) := fun rs k => by
    rw [List.getElem?_map]
    cases rs[k]? with
    | none => rfl
    | some r => rfl
  have hlength : qs.length = ps.length := by
    have hmap := congrArg List.length h
    rwa [List.length_map, List.length_map] at hmap
  unfold nullBitmap
  simp only [hbit, h, hlength]

lemma typed_congr (h : qs.map StmtParam.type = ps.map StmtParam.type) : typed qs = typed ps := by
  have hcount : ∀ rs : List StmtParam,
      typed rs = ((rs.map StmtParam.type).filter (· ≠ columnTypeNull)).length := fun rs => by
    unfold typed
    rw [List.filter_map, List.length_map]
    rfl
  rw [hcount, hcount, h]

lemma map_type_of_same (h : List.Forall₂ StmtParam.Same ps qs) : qs.map StmtParam.type = ps.map StmtParam.type := by
  induction h with
  | nil => rfl
  | cons hp _ ih => rw [List.map_cons, List.map_cons, ih, hp.type_eq]

lemma execStart_onParams (stmt : Stmt) (d : Option (List StmtParam))
    (h : qs.map StmtParam.type = ps.map StmtParam.type) :
    execStart { stmt with paramData := d } qs = (execStart stmt ps).onParams d := by
  have hhead : execHead { stmt with paramData := d } qs = execHead stmt ps := by
    unfold execHead
    rw [nullBitmap_congr h]
  unfold execStart
  rw [hhead, typed_congr h]
  rfl

lemma execFill_same {env : Env} {stmt : Stmt} {d : Option (List StmtParam)}
    (h : List.Forall₂ StmtParam.Same stmt.bound { stmt with paramData := d }.bound) :
    execFill env { stmt with paramData := d } = execFill env stmt := by
  unfold execFill
  rw [execStart_onParams stmt d (map_type_of_same h), fillParams_onParams h]
  cases (fillParams env (execStart stmt stmt.bound) 0 stmt.bound).toOption with
  | none => rfl
  | some f => rfl

/-- Statements with the same parameters have the same payload. -/
lemma execBytes_same {env : Env} {stmt : Stmt} {d : Option (List StmtParam)}
    (h : List.Forall₂ StmtParam.Same stmt.bound { stmt with paramData := d }.bound) :
    execBytes env { stmt with paramData := d } = execBytes env stmt := by
  rw [execBytes_eq, execBytes_eq]
  by_cases hg : Grants env stmt.execBufferLength 2060
  · rw [stmtCheckBufferSize_of_grants hg, @stmtCheckBufferSize_of_grants env { stmt with paramData := d } 2060 hg,
      Option.bind_some, Option.bind_some]
    have hlength := h.length_eq
    have hfill := @execFill_same env stmt.checked d h
    by_cases hn : stmt.bound.length ≠ stmt.paramCount
    · have hn' : { stmt with paramData := d }.bound.length ≠ stmt.paramCount := by rwa [← hlength]
      exact (if_pos hn').trans (if_pos hn).symm
    · have hn' : ¬ { stmt with paramData := d }.bound.length ≠ stmt.paramCount := by rwa [← hlength]
      exact (if_neg hn').trans (hfill.trans (if_neg hn).symm)
  · rw [stmtCheckBufferSize_of_not_grants hg, @stmtCheckBufferSize_of_not_grants env { stmt with paramData := d } 2060 hg]

end Payload

/-! ### Histories -/

/-- A setter called on the connection, in its surroundings. -/
structure SetCall where
  env : Env
  error : ErrorPtr
  param : ℕ
  bind : Bind

/-- What the call does. -/
def SetCall.apply (con : Con) (c : SetCall) : Con := (statementSet c.env con c.param c.error c.bind.set).1

/-- The setters of a history that are for a parameter. -/
def bindsOf (i : ℕ) (cs : List SetCall) : List Bind := (cs.filter (·.param = i)).map (·.bind)

/-- What a call does to the parameters of a statement that has this many. -/
def SetCall.onParams (n : ℕ) (ps : List StmtParam) (c : SetCall) : List StmtParam :=
  if n ≤ c.param then ps else ps.modify c.param c.bind.set

lemma SetCall.apply_stmt (con : Con) (c : SetCall) : (c.apply con).stmt = con.stmt.map fun stmt =>
    { stmt with paramData := stmt.paramData.map fun ps => c.onParams stmt.paramCount ps } := by
  unfold SetCall.apply SetCall.onParams statementSet
  cases hs : con.stmt with
  | none => exact hs
  | some stmt =>
    dsimp only
    rw [Option.map_some]
    by_cases hn : stmt.paramCount ≤ c.param
    · simp only [if_pos hn, Option.map_id']
      exact hs
    · simp only [if_neg hn]
      cases hd : stmt.paramData with
      | none =>
        have hsame : { stmt with paramData := (none : Option (List StmtParam)) } = stmt := by rw [← hd]
        exact hs.trans (congrArg some hsame.symm)
      | some ps => rfl

lemma SetCall.run_stmt (con : Con) (cs : List SetCall) : (run SetCall.apply con cs).stmt = con.stmt.map fun stmt =>
    { stmt with paramData := stmt.paramData.map fun ps => run (fun ps c => c.onParams stmt.paramCount ps) ps cs } := by
  induction cs generalizing con with
  | nil =>
    cases hs : con.stmt with
    | none => exact hs
    | some stmt =>
      rw [run_nil, hs]
      simp
  | cons c cs ih =>
    rw [run_cons, ih, apply_stmt]
    cases con.stmt with
    | none => rfl
    | some stmt =>
      rw [Option.map_some, Option.map_some, Option.map_some, Option.map_map]
      rfl

lemma SetCall.onParams_getElem? {n i : ℕ} (hi : i < n) (ps : List StmtParam) (c : SetCall) :
    (c.onParams n ps)[i]? = if c.param = i then (ps[i]?).map c.bind.set else ps[i]? := by
  unfold SetCall.onParams
  by_cases hn : n ≤ c.param
  · rw [if_pos hn, if_neg (by omega)]
  · rw [if_neg hn, List.getElem?_modify]
    split_ifs
    · rfl
    · rw [Option.map_eq_map, Option.map_id']

/-- What a history makes of a parameter is what the setters that are for it make of it. -/
lemma SetCall.run_getElem? {n i : ℕ} (hi : i < n) (ps : List StmtParam) (cs : List SetCall) :
    (run (fun ps c => SetCall.onParams n ps c) ps cs)[i]? =
      (ps[i]?).map fun p => run (fun p b => Bind.set b p) p (bindsOf i cs) := by
  induction cs generalizing ps with
  | nil => simp [bindsOf]
  | cons c cs ih =>
    rw [run_cons, ih, onParams_getElem? hi]
    unfold bindsOf
    rw [List.filter_cons]
    by_cases hc : c.param = i
    · rw [if_pos hc, if_pos (decide_eq_true hc), Option.map_map]
      rfl
    · rw [if_neg hc, if_neg fun h => hc (of_decide_eq_true h)]

/-! ### The last call -/

section LastCall

variable {p : StmtParam} {bs bs' : List Bind}

lemma Bind.flagAfter_of_last {flag : Bool} {b : Bind} (hb : b.keepsFlag = true) (bs : List Bind) :
    flagAfter flag (bs ++ [b]) = flagAfter flag bs := by
  unfold flagAfter
  rw [run_append, run_cons, run_nil]
  cases b with
  | string _ _ | binary _ _ | datetime _ | time _ => rfl
  | _ => cases hb

/-- Two histories of a parameter that end with the same call: the parameters are the same when the flags agree that the
call leaves, and have different encodings when they do not. -/
lemma Bind.same_of_last (h : bs.getLast? = bs'.getLast?) :
    ((∀ b ∈ bs.getLast?, b.keepsFlag = true → flagAfter p.isUnsigned bs' = flagAfter p.isUnsigned bs) →
      (run (fun p b => Bind.set b p) p bs).Same (run (fun p b => Bind.set b p) p bs')) ∧
    ((run (fun p b => Bind.set b p) p bs').encoding = (run (fun p b => Bind.set b p) p bs).encoding →
      ∀ b ∈ bs.getLast?, b.keepsFlag = true → flagAfter p.isUnsigned bs' = flagAfter p.isUnsigned bs) := by
  rcases List.eq_nil_or_concat bs with rfl | ⟨xs, b, rfl⟩
  · rw [List.getLast?_nil] at h
    obtain rfl := List.getLast?_eq_none_iff.mp h.symm
    exact ⟨fun _ => .refl p, fun _ _ hb => by cases hb⟩
  · rw [List.concat_eq_append, List.getLast?_append, List.getLast?_singleton, Option.some_or] at h ⊢
    obtain ⟨ys, rfl⟩ := List.getLast?_eq_some_iff.mp h.symm
    rw [run_append, run_append, run_cons, run_cons, run_nil, run_nil]
    constructor
    · intro hflag
      refine b.same_set ?_ fun hb => ?_
      · rw [run_isLongData, run_isLongData]
      · rw [run_isUnsigned, run_isUnsigned, ← flagAfter_of_last hb ys, ← flagAfter_of_last hb xs]
        exact hflag b rfl hb
    · intro henc b' hb' hkeep
      cases hb'
      have hflag := b.flag_of_encoding hkeep henc
      rw [run_isUnsigned, run_isUnsigned] at hflag
      rw [flagAfter_of_last hkeep, flagAfter_of_last hkeep]
      exact hflag

end LastCall

/-- The payload of an execution of the statement of the connection. -/
def Con.payload (env : Env) (con : Con) : Option (List UInt8) := con.stmt.bind (execBytes env)

/-- The encodings of the parameters of the statement of the connection. -/
def Con.encodings (con : Con) : Option (List (Option (List UInt8 × Option (List UInt8)))) :=
  con.stmt.map fun stmt => stmt.bound.map StmtParam.encoding

/-- A statement after some calls. -/
def Stmt.after (stmt : Stmt) (cs : List SetCall) : Stmt :=
  { stmt with paramData := stmt.paramData.map fun ps => run (fun ps c => SetCall.onParams stmt.paramCount ps c) ps cs }

lemma Stmt.after_bound (stmt : Stmt) (cs : List SetCall) :
    (stmt.after cs).bound = stmt.bound.mapIdx fun i p => run (fun p b => Bind.set b p) p (bindsOf i cs) := by
  refine List.ext_getElem? fun i => ?_
  rw [List.getElem?_mapIdx]
  unfold Stmt.bound Stmt.after
  rw [List.getElem?_take, List.getElem?_take]
  split_ifs with hi
  · cases stmt.paramData with
    | none => rfl
    | some ps => exact SetCall.run_getElem? hi ps cs
  · rfl

/-- **When the last bind wins**: two histories of a statement that end with the same call for each parameter encode the
parameters in the same way, and so lead to the same payload, exactly when they leave the same unsigned flag wherever the
last call binds a string, a blob, a date or a time. -/
theorem last_bind_wins_iff {con : Con} {stmt : Stmt} (hs : con.stmt = some stmt) (cs cs' : List SetCall)
    (hlast : ∀ i < stmt.bound.length, (bindsOf i cs).getLast? = (bindsOf i cs').getLast?) :
    ((run SetCall.apply con cs').encodings = (run SetCall.apply con cs).encodings ∧
        ∀ env, (run SetCall.apply con cs').payload env = (run SetCall.apply con cs).payload env) ↔
      ∀ i p, stmt.bound[i]? = some p → ∀ b ∈ (bindsOf i cs).getLast?, b.keepsFlag = true →
        Bind.flagAfter p.isUnsigned (bindsOf i cs') = Bind.flagAfter p.isUnsigned (bindsOf i cs) := by
  have hrun : ∀ cs, (run SetCall.apply con cs).stmt = some (stmt.after cs) := fun cs => by
    rw [SetCall.run_stmt, hs]
    rfl
  unfold Con.encodings Con.payload
  rw [hrun, hrun, Option.map_some, Option.map_some, stmt.after_bound, stmt.after_bound]
  constructor
  · rintro ⟨henc, -⟩ i p hp
    have hi : i < stmt.bound.length := (List.getElem?_eq_some_iff.mp hp).1
    have hone : ((stmt.bound.mapIdx _).map StmtParam.encoding)[i]? = ((stmt.bound.mapIdx _).map StmtParam.encoding)[i]? :=
      congrArg (fun l => l[i]?) (Option.some.inj henc)
    rw [List.getElem?_map, List.getElem?_map, List.getElem?_mapIdx, List.getElem?_mapIdx, hp] at hone
    exact (Bind.same_of_last (hlast i hi)).2 (Option.some.inj hone)
  · intro hflags
    have hsame : List.Forall₂ StmtParam.Same (stmt.after cs).bound (stmt.after cs').bound := by
      rw [stmt.after_bound, stmt.after_bound]
      refine List.forall₂_iff_get.mpr ⟨by rw [List.length_mapIdx, List.length_mapIdx], fun i hi hi' => ?_⟩
      rw [List.length_mapIdx] at hi
      rw [List.get_eq_getElem, List.get_eq_getElem, List.getElem_mapIdx, List.getElem_mapIdx]
      exact (Bind.same_of_last (hlast i hi)).1 (hflags i _ (List.getElem?_eq_getElem hi))
    refine ⟨?_, fun env => @execBytes_same env (stmt.after cs) (stmt.after cs').paramData hsame⟩
    rw [stmt.after_bound, stmt.after_bound] at hsame
    exact congrArg some (encodings_of_same hsame)

/-- A connection with a prepared statement of one parameter. -/
def Con.oneUnbound : Con := { Con.calm 0 with stmt := some (stmtWith [.fresh]) }

/-- A call on the parameter of a statement that has one. -/
def setFirst (b : Bind) : SetCall := { env := .calm, error := .at none, param := 0, bind := b }

/-- A string is bound at once, or after a number. -/
theorem last_bind_wins_rebound :
    (run SetCall.apply .oneUnbound [setFirst (.int 1), setFirst (.string 1 [0x61])]).encodings =
      (run SetCall.apply .oneUnbound [setFirst (.string 1 [0x61])]).encodings ∧
    ∀ env, (run SetCall.apply .oneUnbound [setFirst (.int 1), setFirst (.string 1 [0x61])]).payload env =
      (run SetCall.apply .oneUnbound [setFirst (.string 1 [0x61])]).payload env := by
  have hfirst : ∀ i < (stmtWith [.fresh]).bound.length, i = 0 := fun i hi => Nat.lt_one_iff.mp hi
  refine (@last_bind_wins_iff .oneUnbound _ rfl [setFirst (.string 1 [0x61])]
    [setFirst (.int 1), setFirst (.string 1 [0x61])] fun i hi => ?_).mpr fun i p hp b _ _ => ?_
  · rw [hfirst i hi]
    rfl
  · obtain rfl := hfirst i (List.getElem?_eq_some_iff.mp hp).1
    obtain rfl : StmtParam.fresh = p := Option.some.inj hp
    rfl

/-- A string that is bound after an unsigned number is sent as an unsigned string. -/
theorem last_bind_loses : ¬ ∀ (con : Con) (stmt : Stmt), con.stmt = some stmt → ∀ cs cs' : List SetCall,
    (∀ i < stmt.bound.length, (bindsOf i cs).getLast? = (bindsOf i cs').getLast?) →
      ∀ env, (run SetCall.apply con cs').payload env = (run SetCall.apply con cs).payload env := by
  intro h
  have hsame := h .oneUnbound _ rfl [setFirst (.string 1 [0x61])] [setFirst (.unsignedInt 1), setFirst (.string 1 [0x61])]
    (fun i hi => by
      rw [show i = 0 from Nat.lt_one_iff.mp hi]
      rfl) .calm
  revert hsame
  decide

end LibAttachSql
