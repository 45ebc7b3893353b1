/-!
# Decoding errors

Why reading a payload stops.
-/

set_option autoImplicit false

namespace Dissect.Wire

/-- Why reading a payload stops. -/
inductive DecodeError where
  /-- The payload ends before the bytes that are read. -/
  | bufferTooShort (required available : Nat)
  /-- The end of the bytes that are read is no address. -/
  | offsetOutOfBounds (offset size : Nat)
  /-- A placeholder is reached. -/
  | unresolved (field reason : String)
deriving DecidableEq

/-- The text of a decoding error. -/
def DecodeError.message : DecodeError → String
  | .bufferTooShort required available =>
    s!"buffer too short: required {required} bytes, available {available} bytes"
  | .offsetOutOfBounds offset size =>
    s!"offset {offset} out of bounds for buffer of size {size}"
  | .unresolved field reason => s!"field '{field}' has no decoder: {reason}"

end Dissect.Wire
