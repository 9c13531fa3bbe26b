import Mathlib.Algebra.Ring.Int.Defs
import Mathlib.Algebra.Ring.Nat

/-!
# Constants

The enumerations and the numbers of `constants.h`, `return.h` and the public `constants.h`, as far as the modelled
functions use them.  A bit of a capability or server-status word is given by its number.
-/

namespace LibAttachSql

/-- `attachsql_con_status_t`. -/
inductive ConStatus where
  | parameterError | notConnected | connecting | connectFailed | busy | idle | sslError | netError
  deriving DecidableEq, Repr

/-- `attachsql_command_status_t`. -/
inductive CommandStatus where
  | eof | connected | send | sendFailed | readResponse | readColumn | readRow | readFailed | rowInBuffer
  | readStmtParam | readStmtColumn | readStmtRow
  deriving DecidableEq, Repr

/-- `attachsql_packet_type_t` without `NONE`, which stands for an empty queue and is `none` here. -/
inductive PacketType where
  | handshake | handshakeSsl | response | prepareResponse | prepareParameter | prepareColumn | column | row | stmtRow
  deriving DecidableEq, Repr

/-- `attachsql_ret_t`. -/
inductive Ret where
  | ok | parameterError | connecting | dnsError | connectError | outOfMemoryError | noScramble | userTooLong
  | schemaTooLong | netReadError | netSslError | netWriteError | packetOutOfSequence | badProtocol | noOldAuth
  | badScramble | compressionFailure | badStmtParameter
  deriving DecidableEq, Repr

/-- `attachsql_return_t`, what a poll answers. -/
inductive Return where
  | none | notConnected | connecting | processing | rowReady | error | eof
  deriving DecidableEq, Repr

/-- `attachsql_events_t`, what a pool callback is told. -/
inductive Event where
  | none | connected | error | eof | rowReady
  deriving DecidableEq, Repr

/-- `attachsql_con_protocol_t`. -/
inductive ConProtocol where
  | unknown | uds | tcp
  deriving DecidableEq, Repr

/-- `attachsql_stmt_state_t`. -/
inductive StmtState where
  | none | prepared | executed
  deriving DecidableEq, Repr

/-- The commands of `attachsql_command_t` that the library sends. -/
inductive Command where
  | query | stmtPrepare | stmtExecute | stmtSendLongData | stmtClose | stmtReset
  deriving DecidableEq, Repr

/-- The byte of a command on the wire. -/
def Command.code : Command → UInt8
  | .query => 0x03
  | .stmtPrepare => 0x16
  | .stmtExecute => 0x17
  | .stmtSendLongData => 0x18
  | .stmtClose => 0x19
  | .stmtReset => 0x1a

/-! ### Sizes -/

def maxServerVersionLen : ℕ := 32
def maxSchemaSize : ℕ := 64
def maxTableSize : ℕ := 64
def maxColumnSize : ℕ := 64
def maxDefaultValueSize : ℕ := 2048
def maxMessageLen : ℕ := 2048
def writeBufferSize : ℕ := 1024
def minimumCompressSize : ℕ := 50
def stmtExecDefaultSize : ℕ := 16 * 1024
def defaultPacketQueueSize : ℕ := 64
def defaultBufferSize : ℕ := 1024 * 1024
def bufferRowAllocSize : ℕ := 100
def sha1DigestLength : ℕ := 20
def messageSize : ℕ := 256

/-- `FLOAT_MAX_LEN`: 3 + FLT_MANT_DIG - FLT_MIN_EXP. -/
def floatMaxLen : ℕ := 3 + 24 + 125

/-- `DOUBLE_MAX_LEN`: 3 + DBL_MANT_DIG - DBL_MIN_EXP. -/
def doubleMaxLen : ℕ := 3 + 53 + 1021

/-- `ATTACHSQL_STMT_PARAM_UNSIGNED_BIT`. -/
def stmtParamUnsignedBit : ℕ := 0x8000

/-! ### Capabilities -/

def capabilityCompress : ℕ := 5
def capabilityProtocol41 : ℕ := 9
def capabilitySsl : ℕ := 11
def capabilityMultiResults : ℕ := 17

/-- `ATTACHSQL_CAPABILITY_CLIENT`: LONG_PASSWORD, FOUND_ROWS, LONG_FLAG, CONNECT_WITH_DB, PLUGIN_AUTH, TRANSACTIONS,
PROTOCOL_41 and SERCURE_CONNECTION. -/
def capabilityClient : ℕ := 2 ^ 0 + 2 ^ 1 + 2 ^ 2 + 2 ^ 3 + 2 ^ 19 + 2 ^ 13 + 2 ^ 9 + 2 ^ 15

/-! ### Server status -/

def serverStatusMoreResults : ℕ := 3
def serverStatusNoBackslashEscapes : ℕ := 9

/-! ### Error codes -/

def errorCodeUnknown : ℕ := 2000
def errorCodeConnect : ℕ := 2002
def errorCodeHostUnknown : ℕ := 2005
def errorCodeServerGone : ℕ := 2006
def errorCodeAlloc : ℕ := 2008
def errorCodeServerLost : ℕ := 2013
def errorCodeOutOfSync : ℕ := 2014
def errorCodeNoData : ℕ := 2051
def errorCodeParameter : ℕ := 3000
def errorCodeBufferedMode : ℕ := 3001
def errorCodeSsl : ℕ := 3003

/-! ### Machine integers -/

/-- A value stored in a `size_t` or `uint64_t`. -/
def sizeT (x : ℤ) : ℕ := (x % 2 ^ 64).toNat

/-- A value stored in a `uint32_t`. -/
def uint32 (x : ℤ) : ℕ := (x % 2 ^ 32).toNat

/-- A value stored in a `uint16_t`. -/
def uint16 (x : ℤ) : ℕ := (x % 2 ^ 16).toNat

lemma sizeT_of_lt {n : ℕ} (h : n < 2 ^ 64) : sizeT n = n := by
  unfold sizeT
  omega

lemma sizeT_sub {a b : ℕ} (hb : b ≤ a) (ha : a - b < 2 ^ 64) : sizeT ((a : ℤ) - b) = a - b := by
  unfold sizeT
  omega

lemma uint16_of_lt {n : ℕ} (h : n < 2 ^ 16) : uint16 n = n := by
  unfold uint16
  omega

end LibAttachSql
