import LibAttachSql.CompressedSend
import LibAttachSql.ResultRoundTrip

/-!
# Chains of results

The response to a query or an execution, as the server has it: a chain of answers, each an OK packet or a result, of which
all but the last announce a further one.  The application asks for each row behind the one it has, closes a result that was
read and goes on to the next.  For every number of columns, of rows and of answers, this module says which chains come
through: those of whose results the number of columns is read as it was sent.
-/

namespace LibAttachSql

open Lib

/-! ### What the server has -/

/-- An answer of a server: an OK packet, or a result, with the bytes of its rows. -/
inductive ServedAnswer where
  | ok (affectedRows insertId : ℕ) (status warnings : UInt16) (message : List UInt8)
  | result (r : ServedResult (List UInt8))

namespace ServedAnswer

/-- The turns of an answer. -/
def turns : ServedAnswer → List Turn
  | ok affectedRows insertId status warnings message => [.packet (.ok affectedRows insertId status warnings message)]
  | result r => r.turns id

def definitions : ServedAnswer → List Definition
  | ok .. => []
  | result r => r.definitions

def rows : ServedAnswer → List (List UInt8)
  | ok .. => []
  | result r => r.rows

/-- Whether a further answer is announced. -/
def more : ServedAnswer → Bool
  | ok _ _ status _ _ => moreResults status
  | result r => moreResults r.rowsEnd.2

/-- A result has columns, and no row of it is taken for an EOF packet. -/
def WellFormed : ServedAnswer → Prop
  | ok .. => True
  | result r => r.definitions ≠ [] ∧ ∀ row ∈ r.rows, RowBytes row

/-- The number of columns is read as it was sent: it is no byte that a `char` makes negative, and it fits in 16 bits. -/
def Counted (a : ServedAnswer) : Prop := LengthKept a.definitions.length ∧ a.definitions.length < 2 ^ 16

instance (a : ServedAnswer) : Decidable a.Counted := inferInstanceAs (Decidable (_ ∧ _))

end ServedAnswer

/-- All answers but the last announce a further one. -/
def Chained : List ServedAnswer → Prop
  | [] => True
  | [a] => a.more = false
  | a :: b :: rest => a.more = true ∧ Chained (b :: rest)

/-- The turns of a chain: behind each answer but the last, the result is closed and the next one asked for. -/
def chainTurns : List ServedAnswer → List Turn
  | [] => []
  | [a] => a.turns
  | a :: b :: rest => a.turns ++ ([.close, .next] ++ chainTurns (b :: rest))

/-! ### What the client makes of it -/

/-- The row that is in the buffer. -/
def rowInBuffer (_ : Env) (con : Con) : Option (List UInt8) :=
  if con.status = .idle ∧ con.commandStatus = .rowInBuffer then
    con.result.rowData.map fun p => con.buf.mem.slice p con.result.rowLength
  else none

/-- There are exactly `n` columns, whose definitions are read next. -/
def Con.Announces (con : Con) (n : ℕ) : Prop :=
  con.commandStatus = .readColumn ∧ ∃ columns, con.result.columns = some columns ∧ columns.length = n

/-- A packet is taken as one that was expected, and consumed; a row stays in the buffer.  A number of columns makes room for
as many. -/
def TurnTaken.Handled (con : Con) (t : TurnTaken) : Prop :=
  match t with
  | (.packet p, a) => a.Taken (apply con t) ∧
    match p with
    | .row _ => a.Passed (apply con t) 0
    | .header n => a.Passed (apply con t) p.payload.length ∧ (apply con t).Announces n
    | _ => a.Passed (apply con t) p.payload.length
  | _ => True

/-- The columns are those of the definitions, in their order. -/
structure Con.HasColumns (con : Con) (ds : List Definition) : Prop where
  columns : ∃ columns, con.result.columns = some columns ∧ columns.length = ds.length
  count : con.result.columnCount = ds.length
  stored : ∀ i, ∀ d ∈ ds[i]?, con.StoresColumn i d

/-- The turns give an answer: every packet is handled, the columns are there, the rows were in the buffer one after the
other, and nothing is expected any more. -/
structure Con.Gives (con : Con) (a : ServedAnswer) (ts : List TurnTaken) : Prop where
  handled : Along TurnTaken.apply TurnTaken.Handled con ts
  columns : a.definitions ≠ [] → (run TurnTaken.apply con ts).HasColumns a.definitions
  rows : rowsGot rowInBuffer con ts = a.rows.map some
  status : (run TurnTaken.apply con ts).status = .idle
  commandStatus : (run TurnTaken.apply con ts).commandStatus = .eof
  queue : (run TurnTaken.apply con ts).nextPacketQueue = []

/-- The turns give a chain, answer by answer. -/
def Con.GivesChain (con : Con) : List ServedAnswer → List TurnTaken → Prop
  | [], _ => True
  | a :: rest, ts =>
    con.Gives a (ts.take a.turns.length) ∧
      (run TurnTaken.apply con (ts.take (a.turns.length + 2))).GivesChain rest (ts.drop (a.turns.length + 2))

/-! ### Numbers of columns -/

section Header

variable {con : Con} {a : Arrival} {first : Bool} {n : ℕ}

/-- What a header leads to, whatever the number it is read as. -/
lemma packetReadHeader_columns (env : Env) {columns : List Column}
    (h : (packetReadHeader env con).result.columns = some columns) :
    columns.length = uint16 (unpackLength con.buf.mem con.buf.bufferReadPtr).length := by
  unfold packetReadHeader at h
  dsimp only at h
  rw [packetQueuePush_result] at h
  change (if _ then _ else _) = some columns at h
  split_ifs at h
  obtain rfl := Option.some.inj h
  exact List.length_replicate

/-- How a number of columns begins that is in one byte. -/
lemma packLength_small (hpos : 0 < n) (hle : n ≤ 0xfa) :
    packLength n = [byteAt n 0] ∧ (byteAt n 0).toNat = n := by
  refine ⟨if_pos hle, ?_⟩
  rw [toNat_byteAt]
  show n / 1 % 256 = n
  omega

/-- A byte that a `char` makes negative is read as another number. -/
lemma uint16_of_negative {m : Memory UInt8} {p : ℕ} (h : m.slice p (packLength n).length = packLength n) (hle : n ≤ 0xfa)
    (hneg : 0x80 ≤ n) : uint16 (unpackLength m p).length = 65280 + n := by
  obtain ⟨hbytes, hvalue⟩ := packLength_small (by omega) hle
  rw [hbytes] at h
  have hbyte : m p = byteAt n 0 := (List.cons.inj ((Memory.slice_succ m p 0).symm.trans h)).1
  have hsmall : m p < 0xfb := by
    rw [hbyte, UInt8.lt_iff_toNat_lt, hvalue]
    show n < 251
    omega
  unfold unpackLength
  rw [if_pos hsmall, hbyte]
  unfold signedChar
  rw [hvalue, if_neg (by omega)]
  unfold sizeT uint16
  dsimp only
  omega

/-- Columns are announced by a header only. -/
lemma packetReadHeader_of_readColumn (env : Env) {status : CommandStatus} (h : con.Awaiting [] status)
    (hne : status ≠ .readColumn ∧ status ≠ .readStmtParam)
    (hread : (packetReadResponse env con).commandStatus = .readColumn) :
    packetReadResponse env con = packetReadHeader env con := by
  unfold packetReadResponse at hread ⊢
  split_ifs at hread ⊢
  · change (if _ then CommandStatus.connected else .eof) = .readColumn at hread
    split_ifs at hread
  · cases hread
  · obtain ⟨con', he, hstatus⟩ : ∃ con' : Con, packetReadEof env con = eofNext env con' ∧
        con'.commandStatus = con.commandStatus := ⟨_, rfl, rfl⟩
    rw [he] at hread
    rw [h.commandStatus] at hstatus
    unfold eofNext at hread
    split at hread
    · next hc => exact absurd (hstatus.symm.trans hc) hne.1
    · next hc => exact absurd (hstatus.symm.trans hc) hne.2
    · cases hread
  · rfl

/-- **As many columns are announced as there are only if the number is read as it was sent.** -/
lemma counted_of_announces (hpos : 0 < n) (h : con.At (.answer first)) (hs : con.Stands a.con)
    (hb : a.con.Bears (ResponsePacket.header n).payload) (ha : (arrive con a).Announces n) :
    LengthKept n ∧ n < 2 ^ 16 := by
  obtain ⟨hexpects, -⟩ := h
  obtain ⟨hpayload, -⟩ := hb.opened .response
  have hopened := hexpects.opened hs.toWaits (ResponsePacket.header n).payload
  have harrive : arrive con a = packetReadResponse a.env (a.opened .response (ResponsePacket.header n).payload) :=
    deliver_of_bears hb (hs.queue_eq.trans hexpects.queue_eq)
  rw [harrive] at ha
  generalize a.opened .response (ResponsePacket.header n).payload = con₁ at *
  obtain ⟨hread, columns, hcolumns, hlength⟩ := ha
  rw [packetReadHeader_of_readColumn a.env hopened (by cases first <;> decide) hread] at hcolumns
  have hcount := hlength.symm.trans (packetReadHeader_columns a.env hcolumns)
  have hlt : n < 2 ^ 16 := by
    rw [hcount]
    unfold uint16
    omega
  refine ⟨?_, hlt⟩
  by_contra hkept
  unfold LengthKept at hkept
  rw [uint16_of_negative hpayload (by omega) (by omega)] at hcount
  omega

end Header

/-! ### Answers -/

section Answers

variable {con : Con} {φ φ' : ResponsePhase} {ts us : List TurnTaken} {first : Bool} {a : ServedAnswer}
  {r : ServedResult (List UInt8)}

/-- A turn that the protocol allows is handled. -/
lemma handled_turn {t : TurnTaken} (h : con.At φ) (hl : t.Legal con) (hn : φ.Next t.1 φ') :
    t.Handled con ∧ (t.apply con).At φ' := by
  obtain ⟨hshown, hnext⟩ := response_turn h hl hn
  refine ⟨?_, hnext⟩
  obtain ⟨turn, a⟩ := t
  rcases turn with p | _ | _ | _
  · obtain ⟨htaken, hfound, hpassed⟩ := hshown
    refine ⟨htaken, ?_⟩
    cases hn with
    | header _ _ _ =>
      obtain ⟨hawaits, -⟩ := hnext
      exact ⟨hpassed, hawaits.commandStatus, hfound⟩
    | ok _ _ => exact hpassed
    | err _ => exact hpassed
    | definition _ => exact hpassed
    | columnsEnd _ => exact hpassed
    | row _ => exact hpassed
    | rowsEnd => exact hpassed
  · trivial
  · trivial
  · trivial

lemma handled_turns (h : con.At φ) (hl : Along TurnTaken.apply TurnTaken.Legal con ts)
    (hp : Leads ResponsePhase.Next φ (ts.map Prod.fst) φ') :
    Along TurnTaken.apply TurnTaken.Handled con ts ∧ (run TurnTaken.apply con ts).At φ' := by
  refine run_simulates ?_ h hl hp
  intro con φ t φ' h hl hn
  exact handled_turn h hl hn

/-- Rows as they are in the buffer. -/
def rawRows : RowFormat (List UInt8) (Option (List UInt8)) where
  pack := id
  get := rowInBuffer
  shown := some
  Fits _ bytes := RowBytes bytes
  Ready _ _ := True
  rowBytes _ hfits _ := hfits
  got := by
    rintro env con ds bytes - ⟨hawaits, hidle, -⟩ ⟨p, hdata, hlength, hslice, -⟩ -
    unfold rowInBuffer
    rw [if_pos ⟨hidle, hawaits.commandStatus⟩, hdata, Option.map_some, hlength]
    exact congrArg some hslice

/-- Rows lead back to where the next row is expected. -/
lemma rows_lead {ds : List Definition} {rows : List (List UInt8)} (h : ∀ row ∈ rows, RowBytes row) :
    Leads ResponsePhase.Next (.rows ds) (rows.flatMap rowTurns) (.rows ds) := by
  induction rows with
  | nil => exact .nil _
  | cons row rows ih =>
    obtain ⟨hrow, hrows⟩ := List.forall_mem_cons.mp h
    exact .cons (.row hrow) (.cons .request (ih hrows))

/-- **A result whose columns are counted is given.** -/
lemma result_given (hw : (ServedAnswer.result r).WellFormed) (hkept : ∀ d ∈ r.definitions, d.Kept)
    (hc : (ServedAnswer.result r).Counted) (h : con.At (.answer first))
    (hl : Along TurnTaken.apply TurnTaken.Legal con ts) (hts : ts.map Prod.fst = r.turns id) :
    con.Gives (.result r) ts ∧ (run TurnTaken.apply con ts).At (.done r.definitions (moreResults r.rowsEnd.2)) := by
  obtain ⟨hne, hrows⟩ := hw
  obtain ⟨hn, hlt⟩ := hc
  have hpos : 0 < r.definitions.length := List.length_pos_of_ne_nil hne
  have hlegal : Along TurnTaken.apply (fun con t => t.Legal con ∧ t.AtRow rawRows.Ready con) con ts :=
    hl.imp fun _ _ hlegal => ⟨hlegal, fun _ => trivial⟩
  obtain ⟨hgot, hdone⟩ := result_through rawRows hpos hlt hn hrows h hlegal hts
  have hcolumns : Leads ResponsePhase.Next (.answer first) (columnTurns r.definitions r.columnsEnd) (.rows r.definitions) :=
    columnTurns_lead hpos hlt hn
  have hlead : Leads ResponsePhase.Next (.answer first)
      (columnTurns r.definitions r.columnsEnd ++ r.rows.flatMap rowTurns) (.rows r.definitions) :=
    hcolumns.append (rows_lead hrows)
  -- the last turn is cut off: before it the columns are there, and it leaves them
  have hsplit : ts.map Prod.fst = (columnTurns r.definitions r.columnsEnd ++ r.rows.flatMap rowTurns) ++ [eofTurn r.rowsEnd] :=
    hts.trans (List.append_assoc ..).symm
  obtain ⟨us, vs, rfl, hus, hvs⟩ := List.map_eq_append_iff.mp hsplit
  obtain ⟨⟨turn, a⟩, ws, rfl, rfl, hws⟩ := List.map_eq_cons_iff.mp hvs
  obtain rfl := List.map_eq_nil_iff.mp hws
  obtain ⟨hlu, hlv⟩ := (along_append _ _ _).mp hl
  rw [← hus] at hlead
  obtain ⟨hhandled, hrowsAt⟩ := handled_turns h hlu hlead
  obtain ⟨hlast, -⟩ := handled_turn hrowsAt hlv.1 .rowsEnd
  obtain ⟨-, -, -, -, ⟨hsome, hcount, hstored⟩⟩ := rowsEnd_ends hrowsAt hlv.1.1 hlv.1.2.1
  have hcolumns : (run TurnTaken.apply con (us ++ [(eofTurn r.rowsEnd, a)])).HasColumns r.definitions := by
    rw [run_append]
    exact ⟨hsome, hcount, fun i d hd => hstored i d hd (hkept d (List.mem_of_getElem? hd))⟩
  exact ⟨⟨(along_append _ _ _).mpr ⟨hhandled, hlast, trivial⟩, fun _ => hcolumns, hgot, hdone.2.1, hdone.1.commandStatus,
    hdone.1.queue_eq⟩, hdone⟩

/-- An OK packet is given, whatever its numbers. -/
lemma ok_given {affectedRows insertId : ℕ} {status warnings : UInt16} {message : List UInt8} (h : con.At (.answer first))
    (hl : Along TurnTaken.apply TurnTaken.Legal con ts)
    (hts : ts.map Prod.fst = (ServedAnswer.ok affectedRows insertId status warnings message).turns) :
    con.Gives (.ok affectedRows insertId status warnings message) ts ∧
      (run TurnTaken.apply con ts).At (.done [] (moreResults status)) := by
  obtain ⟨⟨turn, a⟩, us, rfl, rfl, hus⟩ := List.map_eq_cons_iff.mp hts
  obtain rfl := List.map_eq_nil_iff.mp hus
  obtain ⟨⟨hs, hb, -⟩, -⟩ := hl
  obtain ⟨-, hconsumed, hdone⟩ := ok_ends h hs hb
  obtain ⟨htaken, hpassed⟩ := hconsumed.passed hb
  exact ⟨⟨⟨⟨htaken, hpassed⟩, trivial⟩, fun hne => absurd rfl hne, rfl, hdone.2.1, hdone.1.commandStatus,
    hdone.1.queue_eq⟩, hdone⟩

/-- **An answer is given when its columns are counted.** -/
lemma answer_given (hw : a.WellFormed) (hkept : ∀ d ∈ a.definitions, d.Kept) (hc : a.Counted) (h : con.At (.answer first))
    (hl : Along TurnTaken.apply TurnTaken.Legal con ts) (hts : ts.map Prod.fst = a.turns) :
    con.Gives a ts ∧ (run TurnTaken.apply con ts).At (.done a.definitions a.more) := by
  cases a with
  | ok _ _ _ _ _ => exact ok_given h hl hts
  | result r => exact result_given hw hkept hc h hl hts

/-- **An answer is given only when its columns are counted.** -/
lemma counted_of_gives (hw : a.WellFormed) (h : con.At (.answer first)) (hl : Along TurnTaken.apply TurnTaken.Legal con ts)
    (hts : ts.map Prod.fst = a.turns) (hg : con.Gives a ts) : a.Counted := by
  cases a with
  | ok _ _ _ _ _ =>
    have hnone : (0 : ℕ) < 0x80 ∧ (0 : ℕ) < 2 ^ 16 := by decide
    exact ⟨.inl hnone.1, hnone.2⟩
  | result r =>
    obtain ⟨⟨turn, b⟩, us, rfl, rfl, -⟩ := List.map_eq_cons_iff.mp hts
    obtain ⟨⟨-, -, hannounced⟩, -⟩ := hg.handled
    exact counted_of_announces (List.length_pos_of_ne_nil hw.1) h hl.1.1 hl.1.2.1 hannounced

/-- A result that was read is closed, and the next answer is asked for. -/
lemma goes_on {ds : List Definition} (h : con.At (.done ds true)) (hl : Along TurnTaken.apply TurnTaken.Legal con ts)
    (hts : ts.map Prod.fst = [.close, .next]) : (run TurnTaken.apply con ts).At (.answer false) := by
  have hlead : Leads ResponsePhase.Next (.done ds true) (ts.map Prod.fst) (.answer false) := by
    rw [hts]
    exact .cons .close (.cons .next (.nil _))
  exact (handled_turns h hl hlead).2

end Answers

/-! ### Chains -/

section Chains

variable {con : Con} {ts : List TurnTaken} {first : Bool} {chain : List ServedAnswer}

/-- **A chain is given exactly when the columns of all its results are counted.** -/
lemma givesChain_iff (h : con.At (.answer first)) (hw : ∀ a ∈ chain, a.WellFormed)
    (hkept : ∀ a ∈ chain, ∀ d ∈ a.definitions, d.Kept) (hc : Chained chain)
    (hl : Along TurnTaken.apply TurnTaken.Legal con ts) (hts : ts.map Prod.fst = chainTurns chain) :
    con.GivesChain chain ts ↔ ∀ a ∈ chain, a.Counted := by
  induction chain generalizing con ts first with
  | nil => exact ⟨fun _ => List.forall_mem_nil _, fun _ => trivial⟩
  | cons a rest ih =>
    obtain ⟨hwa, hw⟩ := List.forall_mem_cons.mp hw
    obtain ⟨hka, hkept⟩ := List.forall_mem_cons.mp hkept
    rw [List.forall_mem_cons]
    cases rest with
    | nil =>
      have hall : ts.take a.turns.length = ts := by
        refine List.take_of_length_le ?_
        rw [← List.length_map (f := Prod.fst), hts]
        exact le_rfl
      unfold Con.GivesChain
      rw [hall]
      constructor
      · rintro ⟨hg, -⟩
        exact ⟨counted_of_gives hwa h hl hts hg, List.forall_mem_nil _⟩
      · rintro ⟨hca, -⟩
        exact ⟨(answer_given hwa hka hca h hl hts).1, trivial⟩
    | cons b rest =>
      obtain ⟨hmore, hc⟩ := hc
      obtain ⟨us, vs, rfl, hus, hvs⟩ := List.map_eq_append_iff.mp hts
      obtain ⟨vs, ws, rfl, hvs, hws⟩ := List.map_eq_append_iff.mp hvs
      obtain ⟨hlu, hl⟩ := (along_append _ _ _).mp hl
      obtain ⟨hlv, hlw⟩ := (along_append _ _ _).mp hl
      have hlen : us.length = a.turns.length := by rw [← hus, List.length_map]
      have hlen' : vs.length = 2 := by rw [← List.length_map (f := Prod.fst), hvs]; rfl
      have htake : (us ++ (vs ++ ws)).take a.turns.length = us := List.take_left' hlen
      have htake' : (us ++ (vs ++ ws)).take (a.turns.length + 2) = us ++ vs := by
        rw [← List.append_assoc]
        exact List.take_left' (by rw [List.length_append, hlen, hlen'])
      have hdrop : (us ++ (vs ++ ws)).drop (a.turns.length + 2) = ws := by
        rw [← List.append_assoc]
        exact List.drop_left' (by rw [List.length_append, hlen, hlen'])
      unfold Con.GivesChain
      rw [htake, htake', hdrop, run_append]
      -- an answer that is given leads to the next one
      have hnext : a.Counted → (run TurnTaken.apply (run TurnTaken.apply con us) vs).At (.answer false) := by
        intro hca
        obtain ⟨-, hdone⟩ := answer_given hwa hka hca h hlu hus
        rw [hmore] at hdone
        exact goes_on hdone hlv hvs
      constructor
      · rintro ⟨hg, hrest⟩
        have hca := counted_of_gives hwa h hlu hus hg
        exact ⟨hca, (ih (hnext hca) hw hkept hc hlw hws).mp hrest⟩
      · rintro ⟨hca, hrest⟩
        exact ⟨(answer_given hwa hka hca h hlu hus).1, (ih (hnext hca) hw hkept hc hlw hws).mpr hrest⟩

/-- **A chain of results.**  A query or an execution was sent, and nothing else is expected.  The packets of the response
arrive whole, with memory for the columns, and the application asks for each row and goes on from result to result.  Then the
client allocates as many columns as there are and fills them in order, has each row in its buffer, in order, and ends each
answer idle with nothing expected, exactly when the number of columns of every result is one that is read as it was sent. -/
theorem result_chain {env : Env} {cmd : Command} {data : List UInt8} (hq : con.nextPacketQueue = [])
    (hcmd : cmd = .query ∨ cmd = .stmtExecute) (hsent : (commandSend env con cmd data).1.nextPacketQueue = [.response])
    (hw : ∀ a ∈ chain, a.WellFormed) (hkept : ∀ a ∈ chain, ∀ d ∈ a.definitions, d.Kept) (hc : Chained chain)
    (hl : Along TurnTaken.apply TurnTaken.Legal (commandSend env con cmd data).1 ts)
    (hts : ts.map Prod.fst = chainTurns chain) :
    (commandSend env con cmd data).1.GivesChain chain ts ↔ ∀ a ∈ chain, a.Counted :=
  givesChain_iff (commandSend_answers env hq hcmd data hsent) hw hkept hc hl hts

end Chains

/-! ### Packets that arrive one at a time -/

/-- A read buffer with one packet in it. -/
def packetBuffer (payload : List UInt8) : BufferSt :=
  BufferSt.append ⟨4096, 2 ^ 25, 0, 4096, 4096, none, fun _ => 0⟩ (frame 1 payload)

/-- The bytes that arrive for a turn. -/
def Turn.payload : Turn → List UInt8
  | .packet p => p.payload
  | _ => []

/-- The packet fits in its header and in the memory there is. -/
def Turn.fits : Turn → Bool
  | .packet (.header n) => Env.calm.newArray n sizeofColumn
  | .packet p => decide (p.payload.length < 2 ^ 24)
  | _ => true

/-- Turns for each of which the bytes arrive alone. -/
def broughtTurns : Con → List Turn → List TurnTaken
  | _, [] => []
  | con, t :: ts =>
    let a : Arrival := ⟨.calm, { con with readBuffer := some (packetBuffer t.payload) }⟩
    (t, a) :: broughtTurns (TurnTaken.apply con (t, a)) ts

lemma packetBuffer_bears (con : Con) {payload : List UInt8} (h : payload.length < 2 ^ 24) :
    { con with readBuffer := some (packetBuffer payload) }.Bears payload := by
  have hempty : (⟨4096, 2 ^ 25, 0, 4096, 4096, none, fun _ => 0⟩ : BufferSt).Wf := by decide
  have hlength : (frame 1 payload).length = payload.length + 4 := by
    unfold frame packInt3
    simp only [List.length_append, List.length_cons, List.length_nil]
    omega
  have hwf : (packetBuffer payload).Wf := hempty.append (by
    rw [hlength]
    show 4096 + (payload.length + 4) ≤ 4096 + 2 ^ 25
    omega)
  have hunread : (packetBuffer payload).unread = frame 1 payload := by
    unfold packetBuffer
    rw [hempty.unread_append]
    rfl
  have hframe : takeFrame 3 1 (packetBuffer payload).unread = some (⟨[1], payload⟩, []) := by
    have htake := @takeFrame_append 3 1 (packInt3 payload.length) [1] payload [] rfl rfl
      ((littleEndian_packInt3_eq_iff _).mpr h).symm
    rw [hunread]
    unfold frame
    rw [List.append_nil] at htake
    rw [List.append_assoc]
    exact htake
  have hholds : Con.Holds { con with readBuffer := some (packetBuffer payload) } (packetBuffer payload) 1 payload :=
    (holds_iff_takeFrame hwf rfl).mpr ⟨_, hframe⟩
  have hseq : (packetBuffer payload).mem ((packetBuffer payload).bufferReadPtr + 3) = 1 := hholds.seq_eq
  have hspace : 4096 + 2 ^ 25 ≤ 2 ^ 64 := by decide
  refine ⟨?_, hwf, hspace⟩
  show Con.Holds _ (packetBuffer payload) ((packetBuffer payload).mem ((packetBuffer payload).bufferReadPtr + 3)) payload
  rw [hseq]
  exact hholds

lemma Turn.fits_packet {p : ResponsePacket} (h : (Turn.packet p).fits = true) :
    p.payload.length < 2 ^ 24 ∧ p.Affordable .calm := by
  cases p with
  | header n =>
    refine ⟨?_, h⟩
    show (packLength n).length < 2 ^ 24
    unfold packLength
    split_ifs
    · exact (by decide : 1 < 2 ^ 24)
    · exact (by decide : 3 < 2 ^ 24)
    · exact (by decide : 4 < 2 ^ 24)
    · exact (by decide : 9 < 2 ^ 24)
  | ok _ _ _ _ _ => exact ⟨of_decide_eq_true h, trivial⟩
  | err _ _ _ => exact ⟨of_decide_eq_true h, trivial⟩
  | definition _ => exact ⟨of_decide_eq_true h, trivial⟩
  | eof _ _ _ => exact ⟨of_decide_eq_true h, trivial⟩
  | row _ => exact ⟨of_decide_eq_true h, trivial⟩

/-- They are turns of the connection, when all of them fit. -/
lemma broughtTurns_legal (con : Con) {ts : List Turn} (h : ∀ t ∈ ts, t.fits = true) :
    Along TurnTaken.apply TurnTaken.Legal con (broughtTurns con ts) := by
  induction ts generalizing con with
  | nil => exact trivial
  | cons t ts ih =>
    obtain ⟨ht, hts⟩ := List.forall_mem_cons.mp h
    refine ⟨⟨?_, ?_⟩, ih _ hts⟩
    · exact
        { stmt_eq := rfl, queue_eq := rfl, commandStatus_eq := rfl, queueSize_eq := rfl, queueBytes_eq := rfl
          result_eq := rfl, status_eq := rfl, serverStatus_eq := rfl }
    · rcases t with p | _ | _ | _
      · obtain ⟨hlength, hmem⟩ := Turn.fits_packet ht
        exact ⟨packetBuffer_bears con hlength, hmem⟩
      · rfl
      · trivial
      · trivial

lemma broughtTurns_fst (con : Con) (ts : List Turn) : (broughtTurns con ts).map Prod.fst = ts := by
  induction ts generalizing con with
  | nil => rfl
  | cons t ts ih => exact congrArg _ (ih _)

/-- A query was sent on a calm connection. -/
def querySent : Con := (commandSend .calm queryable .query [0x53]).1

/-- The definition of a column `a`. -/
def columnA : Definition := ⟨[0x64], [], [], [], [0x61], [], 63, 0, 3, 0, 0⟩

/-- A result of one column and one row, and behind it an OK packet with 200 rows affected. -/
def resultAndOk : List ServedAnswer :=
  [.result ⟨[columnA], (0, 10), [[1, 0x37]], (0, 10)⟩, .ok 200 0 2 0 []]

theorem result_chain_two :
    querySent.GivesChain resultAndOk (broughtTurns querySent (chainTurns resultAndOk)) ↔ ∀ a ∈ resultAndOk, a.Counted := by
  refine result_chain rfl (.inl rfl) (by decide +kernel) ?_ (by decide) ⟨by decide, rfl⟩
    (broughtTurns_legal _ (by decide +kernel)) (broughtTurns_fst _ _)
  refine List.forall_mem_cons.mpr ⟨⟨List.cons_ne_nil _ _, ?_⟩, List.forall_mem_singleton.mpr trivial⟩
  exact List.forall_mem_singleton.mpr ⟨1, [0x37], rfl, by decide⟩

/-- A result of 200 columns, without a row. -/
def wideResult : ServedResult (List UInt8) := ⟨List.replicate 200 columnA, (0, 2), [], (0, 2)⟩

/-- Of 200 columns, 65480 are announced. -/
theorem result_chain_wide :
    querySent.nextPacketQueue = [.response] ∧ (ServedAnswer.result wideResult).WellFormed ∧
      (∀ d ∈ wideResult.definitions, d.Kept) ∧ Chained [.result wideResult] ∧
      Along TurnTaken.apply TurnTaken.Legal querySent (broughtTurns querySent (chainTurns [.result wideResult])) ∧
      (run TurnTaken.apply querySent (broughtTurns querySent [.packet (.header 200)])).result.columnCount = 65480 ∧
      ¬ querySent.GivesChain [.result wideResult] (broughtTurns querySent (chainTurns [.result wideResult])) := by
  have hsent : querySent.nextPacketQueue = [.response] := by decide +kernel
  have hwellFormed : (ServedAnswer.result wideResult).WellFormed := ⟨List.cons_ne_nil _ _, List.forall_mem_nil _⟩
  have hkept : ∀ d ∈ wideResult.definitions, d.Kept := by
    intro d hd
    rw [(List.mem_replicate.mp hd).2]
    decide
  have hlegal : Along TurnTaken.apply TurnTaken.Legal querySent
      (broughtTurns querySent (chainTurns [.result wideResult])) := broughtTurns_legal _ (by decide +kernel)
  refine ⟨hsent, hwellFormed, hkept, rfl, hlegal, by decide +kernel, fun hgiven => ?_⟩
  have hcounted := (givesChain_iff (commandSend_answers .calm rfl (.inl rfl) _ hsent)
    (List.forall_mem_singleton.mpr hwellFormed) (List.forall_mem_singleton.mpr hkept) rfl hlegal
    (broughtTurns_fst _ _)).mp hgiven
  exact absurd (hcounted _ (List.mem_singleton_self _)) (by decide +kernel)

end LibAttachSql
