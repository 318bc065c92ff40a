/-
The error types of `holochain_core_types`: `DnaError`, `RibosomeErrorCode` and
`HolochainError`, with their variants as the source declares them. Payloads that are
other crates' error types (`CryptoError`) are kept as their message.
-/
import Mathlib.Data.List.Basic

namespace Holochain

/-- `DnaError`. -/
inductive DnaError
  | zomeNotFound (msg : String)
  | traitNotFound (msg : String)
  | zomeFunctionNotFound (msg : String)
  deriving DecidableEq, Repr

/-- `RibosomeErrorCode`: the error codes a zome API function returns. -/
inductive RibosomeErrorCode
  | unspecified
  | argumentDeserializationFailed
  | outOfMemory
  | receivedWrongActionResult
  | callbackFailed
  | recursiveCallForbidden
  | responseSerializationFailed
  | notAnAllocation
  | zeroSizedAllocation
  | unknownEntryType
  | mismatchWasmCallDataType
  | entryNotFound
  | workflowFailed
  deriving DecidableEq, Repr

/-- `HolochainError`. -/
inductive HolochainError
  | errorGeneric (msg : String)
  | cryptoError (msg : String)
  | cryptoServiceError (msg : String)
  | notImplemented (msg : String)
  | loggingError
  | dnaMissing
  | dna (e : DnaError)
  | ioError (msg : String)
  | serializationError (msg : String)
  | invalidOperationOnSysEntry
  | capabilityCheckFailed
  | validationFailed (msg : String)
  | validationPending
  | ribosome (code : RibosomeErrorCode)
  | ribosomeFailed (msg : String)
  | configError (msg : String)
  | timeout (msg : String)
  | initializationFailed (msg : String)
  | lifecycleError (msg : String)
  | dnaHashMismatch (expected found : String)
  | entryNotFoundLocally
  | entryIsPrivate
  | list (errors : List HolochainError)
  deriving Repr

/-- `Display for DnaError`. -/
def DnaError.toString : DnaError → String
  | zomeNotFound msg | traitNotFound msg | zomeFunctionNotFound msg => msg

/-- `RibosomeErrorCode::as_str`. -/
def RibosomeErrorCode.asStr : RibosomeErrorCode → String
  | unspecified => "Unspecified"
  | argumentDeserializationFailed => "Argument deserialization failed"
  | outOfMemory => "Out of memory"
  | receivedWrongActionResult => "Received wrong action result"
  | callbackFailed => "Callback failed"
  | recursiveCallForbidden => "Recursive call forbidden"
  | responseSerializationFailed => "Response serialization failed"
  | notAnAllocation => "Not an allocation"
  | zeroSizedAllocation => "Zero-sized allocation"
  | unknownEntryType => "Unknown entry type"
  | mismatchWasmCallDataType => "Mismatched WasmCallData type"
  | entryNotFound => "Entry Could Not Be Found"
  | workflowFailed => "Workflow failed"

/-- `Display for HolochainError`. -/
def HolochainError.toString : HolochainError → String
  | errorGeneric msg | cryptoError msg | cryptoServiceError msg | ioError msg
  | serializationError msg | validationFailed msg | ribosomeFailed msg | configError msg
  | initializationFailed msg | lifecycleError msg => msg
  | notImplemented description => "not implemented: " ++ description
  | loggingError => "logging failed"
  | dnaMissing => "DNA is missing"
  | dna e => e.toString
  | invalidOperationOnSysEntry => "operation cannot be done on a system entry type"
  | capabilityCheckFailed => "Caller does not have Capability to make that call"
  | validationPending => "Entry validation could not be completed"
  | ribosome code => code.asStr
  | timeout s => "timeout " ++ s
  | dnaHashMismatch hash1 hash2 =>
    "Provided DNA hash does not match actual DNA hash! " ++ hash1 ++ " != " ++ hash2
  | entryNotFoundLocally => "The requested entry could not be found locally"
  | entryIsPrivate => "The requested entry is private and should not be shared via gossip"
  | list errors =>
    "A list of errors has been generated " ++ "\n".intercalate (errors.map toString)

end Holochain
