import VeraMesh.Session.Messages

/-!
# Frames

`encode_frame_payload` and the errors of `stream.py`. What `json.dumps` does with a value is left
open: it returns the text, or raises what it raises.
-/

namespace VeraMesh

open Python

/-- `json.dumps(value, ...).encode("utf-8")`. -/
abbrev JsonDumps := Dict String PyValue → Except PyError (List UInt8)

/-- `isinstance(exc, (TypeError, ValueError))`. -/
def isEncodingError (exc : PyError) : Bool :=
  match exc.cls with
  | .typeError | .valueError | .unicodeError | .unicodeEncodeError | .binasciiError => true
  | _ => false

/-- `encode_frame_payload`. -/
def encodeFramePayload {Value : Type} (dumps : Value → Except PyError (List UInt8))
    (maxFrameBytes : ℕ) (value : Value) : Except PyError (List UInt8) :=
  match dumps value with
  | .error exc =>
    if isEncodingError exc = true then
      .error ⟨.streamProtocolError, "response is not strict JSON-serializable"⟩
    else .error exc
  | .ok raw =>
    if maxFrameBytes < raw.length then
      .error ⟨.frameTooLarge, s!"encoded frame size {raw.length} exceeds policy"⟩
    else .ok raw

/-- `value.get("request_id")`. -/
def requestIdOf (value : Dict String PyValue) : PyValue := (value.get? "request_id").getD .none

variable {Value : Type} {dumps : Value → Except PyError (List UInt8)} {maxFrameBytes : ℕ}
  {value : Value} {raw : List UInt8}

/-- What is encoded fits the limit. -/
theorem length_le_of_encodeFramePayload
    (h : encodeFramePayload dumps maxFrameBytes value = .ok raw) : raw.length ≤ maxFrameBytes := by
  rw [encodeFramePayload] at h
  split at h
  · split_ifs at h
  · split_ifs at h with hsize
    rw [← Except.ok.inj h]
    omega

end VeraMesh
