import DocumentQuery.Encoding.Registry

/-!
# Host documents

A `HostDocument` holds values side by side with host objects, and becomes a document once there is
a registry to encode the objects.

**Order.** Entries are encoded in the order in which they were appended, also those whose name
comes again later, and the first that fails is the error of the whole. Then they are inserted one
by one: a repeated name keeps its first place and takes its last value.
-/

namespace DocumentQuery

variable {H : HostTypes}

/-- A value whose host objects are not yet encoded. -/
inductive HostValue (H : HostTypes) where
  | value (v : Value)
  | object (o : HostObject H)
  | document (entries : List (String × HostValue H))
  | array (items : List (HostValue H))

/-- Names with host values, in the order in which they were appended. -/
abbrev HostDocument (H : HostTypes) := List (String × HostValue H)

namespace HostValue

mutual

/-- The value, with all host objects encoded. -/
def encode (R : Registry H) : HostValue H → Except EncodingError Value
  | .value v => .ok v
  | .object o => R.encode o
  | .document entries =>
    (encodeEntries R entries).map fun encoded => .document (OrderedMap.ofList encoded)
  | .array items => (encodeItems R items).map .array

def encodeEntries (R : Registry H) :
    List (String × HostValue H) → Except EncodingError (List (String × Value))
  | [] => .ok []
  | (name, x) :: rest => do
    let v ← encode R x
    let vs ← encodeEntries R rest
    return (name, v) :: vs

def encodeItems (R : Registry H) : List (HostValue H) → Except EncodingError (List Value)
  | [] => .ok []
  | item :: rest => do
    let v ← encode R item
    let vs ← encodeItems R rest
    return v :: vs

end

mutual

/-- The host objects, from left to right and depth first. -/
def objects : HostValue H → List (HostObject H)
  | .value _ => []
  | .object o => [o]
  | .document entries => objectsOfEntries entries
  | .array items => objectsOfItems items

def objectsOfEntries : List (String × HostValue H) → List (HostObject H)
  | [] => []
  | (_, x) :: rest => objects x ++ objectsOfEntries rest

def objectsOfItems : List (HostValue H) → List (HostObject H)
  | [] => []
  | item :: rest => objects item ++ objectsOfItems rest

end

end HostValue

namespace HostDocument

/-- The document, with all host objects encoded. -/
def encode (R : Registry H) (d : HostDocument H) : Except EncodingError Document :=
  (HostValue.encodeEntries R d).map OrderedMap.ofList

/-- The document with one more entry. -/
def append (d : HostDocument H) (name : String) (x : HostValue H) : HostDocument H :=
  d ++ [(name, x)]

def objects (d : HostDocument H) : List (HostObject H) := HostValue.objectsOfEntries d

end HostDocument

/-- Where a document comes from. -/
inductive DocumentSource (H : HostTypes) where
  | plain (d : Document)
  | host (d : HostDocument H)

namespace DocumentSource

/-- The document; a plain one needs no encoder. -/
def encode (R : Registry H) : DocumentSource H → Except EncodingError Document
  | .plain d => .ok d
  | .host d => d.encode R

def objects : DocumentSource H → List (HostObject H)
  | .plain _ => []
  | .host d => d.objects

end DocumentSource

end DocumentQuery
