import LibAttachSql.NullError
import LibAttachSql.Outcomes

/-!
# Queries that fail

`attachsql_query` marks the connection as in use and sets the query buffer before the steps that can fail.  Four of its
exits answer false: the connection is in use already, it cannot be opened, the command cannot be sent, or there is no
room for the text.  Only the first of them leaves the state of the query as it was.
-/

namespace LibAttachSql

open Lib

/-! ### The state of a query -/

/-- The fields of a connection that belong to its query. -/
structure QueryState where
  inQuery : Bool
  queryBuffer : List UInt8
  queryBufferAlloc : Bool
  queryBufferLength : ℕ
deriving DecidableEq

/-- The state of the query of a connection. -/
def Con.queryState (con : Con) : QueryState :=
  ⟨con.inQuery, con.queryBuffer, con.queryBufferAlloc, con.queryBufferLength⟩

/-- If the call answers false, it leaves the state of the query as it was. -/
def FailsCleanly (env : Env) (w : World) (con : Con) (statement : List UInt8) (parameters : List QueryParameter)
    (error : ErrorPtr) : Prop :=
  (query env w con statement parameters error).2.2 = false →
    (query env w con statement parameters error).1.queryState = con.queryState

/-- What runs inside a call closes no query: one that is in use stays so. -/
structure World.KeepsQuery (w : World) : Prop where
  uvRun : ∀ con, con.inQuery = true → (w.uvRun con).inQuery = true
  callback : ∀ event con, con.inQuery = true → (w.callback event con).inQuery = true

/-! ### The exits -/

/-- The connection a query is marked on. -/
def queryMarked (con : Con) : Con := { con with inQuery := true }.log .queryBegun

/-- The connection cannot be opened: `attachsql_do_connect` leaves it with an error, or busy. -/
def Con.OpenFails (env : Env) (w : World) (con : Con) : Prop :=
  (doConnect env w con).status = .busy ∨ (doConnect env w con).status.IsError

/-- The end of `attachsql_query` fails: the opening of a connection that was not opened yet, or the command. -/
def Con.EndFails (env : Env) (w : World) (con : Con) (text : List UInt8) : Prop :=
  if con.status = .notConnected then con.OpenFails env w else (commandSend env con .query text).2 = .sendFailed

/-- The call gets past the check that the connection is not in use, and the room for the text, the opening or the command
fails. -/
def QueryBreaks (env : Env) (w : World) (con : Con) (statement : List UInt8) (parameters : List QueryParameter) : Prop :=
  con.inQuery = false ∧
    if parameters = [] then
      (if con.status = .notConnected then queryKept con statement else queryMarked con).EndFails env w statement
    else env.newArray (statement.length + 1 + (parameters.map parameterRoom).sum) 1 ∨ statement = [] →
      (queryExpanded con statement parameters).EndFails env w (queryExpansion con statement parameters).2

section Exits

variable (env : Env) (w : World) (con : Con) (text : List UInt8) (error : ErrorPtr)

/-- The opening answers false exactly when it fails. -/
lemma connect_false_iff : (connect env w con error).2.2 = false ↔ con.OpenFails env w := by
  unfold connect Con.OpenFails
  dsimp only
  generalize doConnect env w con = con₁
  cases hs : con₁.status with
  | notConnected => exact iff_of_false nofun (by decide)
  | connecting => exact iff_of_false nofun (by decide)
  | idle => exact iff_of_false nofun (by decide)
  | busy => exact iff_of_true rfl (by decide)
  | parameterError => exact iff_of_true rfl (by decide)
  | connectFailed => exact iff_of_true rfl (by decide)
  | sslError => exact iff_of_true rfl (by decide)
  | netError => exact iff_of_true rfl (by decide)

/-- The end of the call answers false exactly when it fails. -/
lemma querySend_false_iff : (querySend env w con text error).2.2 = false ↔ con.EndFails env w text := by
  unfold querySend Con.EndFails
  split_ifs with hs
  · exact connect_false_iff env w con error
  · generalize commandSend env con .query text = r
    obtain ⟨con₁, ret⟩ := r
    dsimp only
    split
    · next h => exact iff_of_true rfl (Prod.mk.inj h).2
    · next hne heq =>
      refine iff_of_false nofun fun hfailed => hne ?_
      rw [← (Prod.mk.inj heq).2, hfailed]

/-- **When the call answers false**: the connection is in use, or a later step fails. -/
theorem query_false_iff (statement : List UInt8) (parameters : List QueryParameter) :
    (query env w con statement parameters error).2.2 = false ↔
      con.inQuery = true ∨ QueryBreaks env w con statement parameters := by
  cases hfree : con.inQuery with
  | true =>
    refine iff_of_true ?_ (.inl rfl)
    unfold query
    rw [if_pos hfree]
  | false =>
    have hbreaks : (query env w con statement parameters error).2.2 = false ↔
        QueryBreaks env w con statement parameters := by
      unfold QueryBreaks
      by_cases hparams : parameters = []
      · subst hparams
        rw [query_plain _ _ _ _ _ hfree, if_pos rfl, querySend_false_iff]
        exact ⟨fun h => ⟨hfree, h⟩, And.right⟩
      · rw [if_neg hparams]
        by_cases hroom : env.newArray (statement.length + 1 + (parameters.map parameterRoom).sum) 1 ∨ statement = []
        · rw [query_expanded _ _ _ _ _ hfree hparams hroom, querySend_false_iff]
          exact ⟨fun h => ⟨hfree, fun _ => h⟩, fun h => h.2 hroom⟩
        · refine iff_of_true ?_ ⟨hfree, fun h => absurd h hroom⟩
          unfold query
          rw [if_neg (by rw [hfree]; decide)]
          dsimp only
          rw [if_neg hparams, if_neg hroom]
    rw [hbreaks]
    exact ⟨.inr, fun h => h.resolve_left nofun⟩

end Exits

/-! ### The mark stays -/

section Mark

variable (env : Env) {w : World} (hw : w.KeepsQuery) {con : Con} (hquery : con.inQuery = true)

include hquery

lemma commandSend_marked (command : Command) (data : List UInt8) :
    (commandSend env con command data).1.inQuery = true := by
  obtain ⟨x, -, h⟩ := commandSend_follows env con command data
  have hmark := congrArg Aux.inQuery h.sends.aux
  exact hmark.trans hquery

include hw

lemma doConnect_marked : (doConnect env w con).inQuery = true := by
  have hrun : ∀ con : Con, con.inQuery = true → (runUvLoop w con).inQuery = true := fun con h => by
    unfold runUvLoop
    split_ifs
    · exact h
    · exact hw.uvRun con h
  unfold doConnect
  dsimp only
  split_ifs
  · exact hquery
  · exact hquery
  · split
    · exact hquery
    · exact hrun _ hquery
  · exact hrun _ hquery

lemma sendCallback_marked (event : Event) (error : ErrorPtr) : (sendCallback w con event error).inQuery = true := by
  unfold sendCallback
  split
  · exact hquery
  · split_ifs
    · exact hquery
    · exact hw.callback event _ hquery
    · exact hquery

lemma connect_marked (error : ErrorPtr) : (connect env w con error).1.inQuery = true := by
  have h := doConnect_marked env hw hquery
  unfold connect
  dsimp only
  generalize doConnect env w con = con₁ at h ⊢
  split
  · exact h
  · exact h
  · exact h
  · dsimp only
    split_ifs
    · exact sendCallback_marked hw h _ _
    · exact h
  · exact sendCallback_marked hw h _ _
  · exact sendCallback_marked hw h _ _
  · exact sendCallback_marked hw h _ _
  · exact sendCallback_marked hw h _ _

lemma querySend_marked (text : List UInt8) (error : ErrorPtr) : (querySend env w con text error).1.inQuery = true := by
  have h := commandSend_marked env hquery .query text
  unfold querySend
  split_ifs
  · exact connect_marked env hw hquery error
  · split
    · next hsend => rwa [hsend] at h
    · next hsend => rwa [hsend] at h

end Mark

/-- **Whatever the call answers, it leaves the connection in use.** -/
theorem query_marked (env : Env) {w : World} (hw : w.KeepsQuery) (con : Con) (statement : List UInt8)
    (parameters : List QueryParameter) (error : ErrorPtr) :
    (query env w con statement parameters error).1.inQuery = true := by
  unfold query
  by_cases huse : con.inQuery = true
  · rw [if_pos huse]
    exact huse
  · rw [if_neg huse]
    dsimp only
    by_cases hparams : parameters = []
    · rw [if_pos hparams]
      refine querySend_marked env hw ?_ statement error
      split_ifs
      · rfl
      · rfl
    · rw [if_neg hparams]
      split_ifs
      · exact querySend_marked env hw (expandQuery_keeps _ Con.inQuery (fun _ _ => rfl) statement parameters) _ error
      · rfl

/-! ### Failures that leave nothing behind -/

/-- **When a failing query leaves the state of the query as it was**: as long as nothing behind the check that the
connection is not in use fails.  What fails behind it leaves the connection in use, unless the callback closes the query. -/
theorem query_failure (env : Env) (w : World) (con : Con) (statement : List UInt8) (parameters : List QueryParameter)
    (error : ErrorPtr) :
    (¬ QueryBreaks env w con statement parameters → FailsCleanly env w con statement parameters error) ∧
      (w.KeepsQuery → FailsCleanly env w con statement parameters error →
        ¬ QueryBreaks env w con statement parameters) := by
  refine ⟨fun hbreaks hfalse => ?_, fun hw hclean hbreaks => ?_⟩
  · have huse := ((query_false_iff env w con error statement parameters).mp hfalse).resolve_right hbreaks
    unfold query
    rw [if_pos huse]
  · have hfalse := (query_false_iff env w con error statement parameters).mpr (.inr hbreaks)
    have hmark := query_marked env hw con statement parameters error
    have hsame := congrArg QueryState.inQuery (hclean hfalse)
    exact absurd (hmark.symm.trans (hsame.trans hbreaks.1)) (by decide)

/-- An environment in which the host is not found. -/
def Env.noHost : Env := { Env.calm with uvGetaddrinfo := some "EAI_NONAME" }

/-- The text `SELECT 1`. -/
def selectOne : List UInt8 := [0x53, 0x45, 0x4c, 0x45, 0x43, 0x54, 0x20, 0x31]

/-- With no host to be found the first query breaks, and the second is refused because of it and changes nothing. -/
theorem query_failure_twice :
    ¬ FailsCleanly .noHost (Setting.calm []).world (Con.calm 0) selectOne [] (.at none) ∧
      FailsCleanly .noHost (Setting.calm []).world (query .noHost (Setting.calm []).world (Con.calm 0) selectOne []
        (.at none)).1 selectOne [] (.at none) := by
  have hkeeps : (Setting.calm []).world.KeepsQuery := ⟨fun _ h => h, fun _ _ h => h⟩
  refine ⟨fun hclean => ?_, ?_⟩
  · refine (query_failure .noHost _ (Con.calm 0) selectOne [] (.at none)).2 hkeeps hclean ⟨rfl, ?_⟩
    exact .inr (by decide)
  · refine (query_failure .noHost _ _ selectOne [] (.at none)).1 fun hbreaks => ?_
    exact absurd hbreaks.1 (by decide)

/-- After the host was not found the connection is in use, with the text of the query that failed, and the next query is
refused. -/
theorem query_failure_refused :
    ¬ FailsCleanly .noHost (Setting.calm []).world (Con.calm 0) selectOne [] (.at none) ∧
      (query .noHost (Setting.calm []).world (Con.calm 0) selectOne [] (.at none)).1.queryState =
        ⟨true, selectOne, false, 8⟩ ∧
      (query .noHost (Setting.calm []).world (query .noHost (Setting.calm []).world (Con.calm 0) selectOne []
        (.at none)).1 selectOne [] (.at none)).2 =
        (.at (some (.client errorCodeOutOfSync "08002" "Connection already used for query")), false) := by
  refine ⟨fun hclean => ?_, rfl, rfl⟩
  have hsame := congrArg QueryState.inQuery (hclean rfl)
  exact absurd hsame (by decide)

end LibAttachSql
