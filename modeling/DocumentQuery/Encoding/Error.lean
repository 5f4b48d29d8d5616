/-!
# Errors of encoding

Encoding a host object fails for one of three causes: no encoder is known for its type, the
encoder found is for another type, or the encoder refuses the object.
-/

namespace DocumentQuery

/-- Why a host object has no encoding. -/
inductive EncodingError where
  /-- No encoder is known for the type. -/
  | noEncoder (type : String)
  /-- An encoder for the type named `expected` was given an object of another type, that with the
  identity `actual`. -/
  | typeMismatch (expected actual : String)
  /-- The encoder refuses the object, for the reason given. -/
  | refused (type reason : String)
  deriving DecidableEq, Repr

namespace EncodingError

def message : EncodingError → String
  | .noEncoder type => "No encoder found for type '" ++ type ++ "'"
  | .typeMismatch expected actual =>
    "Encoder for '" ++ expected ++ "' was given a value of type " ++ actual
  | .refused type reason => "Failed to encode '" ++ type ++ "': " ++ reason

/-- The cause is an encoder for another type. -/
def IsTypeMismatch : EncodingError → Prop
  | .typeMismatch _ _ => True
  | _ => False

end EncodingError

end DocumentQuery
