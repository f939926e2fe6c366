import Mathlib.Data.String.Basic

/-!
# Exceptions of the reference agent

An exception is its class and its message. `ExceptionClass.code` is the code under which the agent
reports it: the class attribute `code` where the class has one, the upper-cased class name
otherwise.
-/

namespace VeraMesh.Python

/-- The exception classes raised by the modelled code. -/
inductive ExceptionClass where
  | valueError
  | typeError
  | keyError
  | overflowError
  | runtimeError
  | assertionError
  | osError
  | fileNotFoundError
  | notADirectoryError
  | timeoutError
  | timeoutExpired
  | unicodeError
  | capabilityDenied
  | collisionBlocked
  | laneNotFound
  | staleFence
  | laneExpired
  | stateStoreError
  | idempotencyConflict
  | requestOutcomeUnknown
  | requestLedgerCapacityExceeded
  | pathOutsideRoots
  | processExecutionDisabled
  | fileReadLimitExceeded
  | fileVersionChanged
  | replaceCountMismatch
  | processHandleNotFound
  | processHandleOwnerMismatch
  | processOutputOffsetUnavailable
  | processInputUnavailable
  | workBridgeLocalError
  | workBridgePathDenied
  | streamProtocolError
  | frameTooLarge
  | streamClosed
  | noCurrentPath
  | ambiguousDelivery
  | binasciiError
  | unicodeEncodeError
  | lookupError
  | sessionAuthError
  | principalMismatch
  | keyMismatch
  | capabilityEscalation
  | challengeMismatch
  | signatureInvalid
  | cancelledError
  | logicalReadLaneError
  | logicalReadLaneNotFound
  | logicalReadLaneStaleFence
  | logicalReadLaneExpired
  | logicalReadLaneCloseIncomplete
  | controllerBootstrapError
  | controllerIdentityMismatch
  | workstationIdentityMismatch
  | gatewayOperationDenied
  | recursionError
  | structError
  | jsonDecodeError
  deriving DecidableEq

/-- The code reported for an exception: `getattr(exc, "code", exc.__class__.__name__.upper())`. -/
def ExceptionClass.code : ExceptionClass → String
  | valueError => "VALUEERROR"
  | typeError => "TYPEERROR"
  | keyError => "KEYERROR"
  | overflowError => "OVERFLOWERROR"
  | runtimeError => "RUNTIMEERROR"
  | assertionError => "ASSERTIONERROR"
  | osError => "OSERROR"
  | fileNotFoundError => "FILENOTFOUNDERROR"
  | notADirectoryError => "NOTADIRECTORYERROR"
  | timeoutError => "TIMEOUTERROR"
  | timeoutExpired => "TIMEOUTEXPIRED"
  | unicodeError => "UNICODEDECODEERROR"
  | capabilityDenied => "CAPABILITY_DENIED"
  | collisionBlocked => "COLLISION_BLOCKED"
  | laneNotFound => "LANE_NOT_FOUND"
  | staleFence => "STALE_FENCE"
  | laneExpired => "LANE_EXPIRED"
  | stateStoreError => "STATE_STORE_ERROR"
  | idempotencyConflict => "IDEMPOTENCY_CONFLICT"
  | requestOutcomeUnknown => "REQUEST_OUTCOME_UNKNOWN"
  | requestLedgerCapacityExceeded => "REQUEST_LEDGER_CAPACITY_EXCEEDED"
  | pathOutsideRoots => "PATHOUTSIDEROOTS"
  | processExecutionDisabled => "PROCESSEXECUTIONDISABLED"
  | fileReadLimitExceeded => "FILE_READ_LIMIT_EXCEEDED"
  | fileVersionChanged => "FILE_VERSION_CHANGED"
  | replaceCountMismatch => "REPLACE_COUNT_MISMATCH"
  | processHandleNotFound => "PROCESS_HANDLE_NOT_FOUND"
  | processHandleOwnerMismatch => "PROCESS_HANDLE_OWNER_MISMATCH"
  | processOutputOffsetUnavailable => "PROCESS_OUTPUT_OFFSET_UNAVAILABLE"
  | processInputUnavailable => "PROCESS_INPUT_UNAVAILABLE"
  | workBridgeLocalError => "WORKBRIDGE_LOCAL_ERROR"
  | workBridgePathDenied => "WORKBRIDGE_PATH_DENIED"
  | streamProtocolError => "STREAM_PROTOCOL_ERROR"
  | frameTooLarge => "FRAME_TOO_LARGE"
  | streamClosed => "STREAM_CLOSED"
  | noCurrentPath => "NO_CURRENT_PATH"
  | ambiguousDelivery => "AMBIGUOUS_DELIVERY"
  | binasciiError => "ERROR"
  | unicodeEncodeError => "UNICODEENCODEERROR"
  | lookupError => "LOOKUPERROR"
  | sessionAuthError => "SESSION_AUTH_ERROR"
  | principalMismatch => "PRINCIPAL_MISMATCH"
  | keyMismatch => "KEY_MISMATCH"
  | capabilityEscalation => "CAPABILITY_ESCALATION"
  | challengeMismatch => "CHALLENGE_MISMATCH"
  | signatureInvalid => "SIGNATURE_INVALID"
  | cancelledError => "CANCELLEDERROR"
  | logicalReadLaneError => "LOGICAL_READ_LANE_ERROR"
  | logicalReadLaneNotFound => "LOGICAL_READ_LANE_NOT_FOUND"
  | logicalReadLaneStaleFence => "LOGICAL_READ_LANE_STALE_FENCE"
  | logicalReadLaneExpired => "LOGICAL_READ_LANE_EXPIRED"
  | logicalReadLaneCloseIncomplete => "LOGICAL_READ_LANE_CLOSE_INCOMPLETE"
  | controllerBootstrapError => "CONTROLLER_BOOTSTRAP_ERROR"
  | controllerIdentityMismatch => "CONTROLLER_IDENTITY_MISMATCH"
  | workstationIdentityMismatch => "WORKSTATION_IDENTITY_MISMATCH"
  | gatewayOperationDenied => "GATEWAY_OPERATION_DENIED"
  | recursionError => "RECURSIONERROR"
  | structError => "ERROR"
  | jsonDecodeError => "JSONDECODEERROR"

/-- A raised exception. -/
structure PyError where
  cls : ExceptionClass
  message : String
  deriving DecidableEq

/-- `isinstance(exc, Exception)`. A cancellation is not one. -/
def PyError.isException (exc : PyError) : Bool := exc.cls != .cancelledError

end VeraMesh.Python
