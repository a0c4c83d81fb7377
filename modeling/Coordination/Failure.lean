import Coordination.Duration
import Coordination.Operation
import Coordination.Schema.Violation

/-!
# Failures

Why a client's call fails. Some failures are found before the store is asked for anything; the
others carry what the store said.
-/

namespace Coordination

/-- Why a client's call fails. -/
inductive Failure where
  /-- The store refused, and asking again is of no use. -/
  | store (error : StoreError)
  /-- The call makes no sense. -/
  | invalidArgument (message : String)
  /-- An operation is not allowed by its schema. -/
  | schemaViolation (index : Nat) (path : String) (violation : Violation)
  /-- The store was asked until the retry policy gave up. -/
  | retriesExhausted (attempts : Nat) (elapsed : Duration) (error : StoreError)
  /-- The store refused a transaction because of one of its operations. -/
  | transactionFailed (index : Nat) (path : String) (code : ErrorCode) (outcomes : List Outcome)
  /-- The configuration makes no sense. -/
  | invalidConfig (message : String)
  /-- The configuration cannot be read. -/
  | unreadableConfig
  /-- A file cannot be read. -/
  | unreadableFile
  /-- A callback failed. -/
  | callbackFailed (message : String)
  /-- The store's answer does not fit the question. -/
  | protocol (message : String)
  /-- The client has been closed. -/
  | shuttingDown
  deriving DecidableEq

namespace Failure

/-- The code of the store's refusal. -/
def code? : Failure → Option ErrorCode
  | store e => some e.code
  | retriesExhausted _ _ e => some e.code
  | transactionFailed _ _ code _ => some code
  | _ => none

/-- Whether the store was not asked for anything. -/
def isRejection : Failure → Bool
  | invalidArgument _ | schemaViolation .. | shuttingDown => true
  | _ => false

/-- A failure in words. -/
def message : Failure → String
  | store e => "store error: " ++ e.message
  | invalidArgument m => "invalid argument: " ++ m
  | schemaViolation index path violation =>
    "schema violation in operation " ++ Text.Decimal.natural index ++ " (" ++ path ++ "): "
      ++ violation.message
  | retriesExhausted attempts elapsed e =>
    "gave up after " ++ Text.Decimal.natural attempts ++ " attempts in " ++ elapsed.text ++ ": "
      ++ e.message
  | transactionFailed index path code _ =>
    "transaction aborted by operation " ++ Text.Decimal.natural index ++ " (" ++ path ++ "): "
      ++ code.message
  | invalidConfig m => "invalid configuration: " ++ m
  | unreadableConfig => "config parse error"
  | unreadableFile => "I/O error"
  | callbackFailed m => "background callback failed: " ++ m
  | protocol m => "protocol error: " ++ m
  | shuttingDown => "framework is shut down"

end Failure

/-- The namespace with a name, or the failure of a configuration that names it. -/
def Namespace.ofName (name : String) : Except Failure Namespace :=
  match ofName? name with
  | some n => .ok n
  | none => .error (.invalidConfig ("invalid namespace: " ++ Text.quoted name))

end Coordination
