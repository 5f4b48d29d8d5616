import DocumentQuery.Encoding.Encoder

/-!
# Registries of encoders

A `Registry` answers which encoder to use for a host type.

**Trees.** A registry is a leaf with a look-up of its own, or a chain of registries. A chain asks
its members in order; only the answer that no encoder is known sends it on to the next member, any
other error is its answer.

**Tables.** An `EncoderTable` maps types to encoders. Usually an encoder is registered for its own
type, but it can be put under any other.

**Encoding.** `Registry.encode` looks up the encoder of an object and runs its recipe. The parts
of the object are encoded through the same registry.
-/

namespace DocumentQuery

variable {H : HostTypes}

/-- An answer to the question for the encoder of a type. -/
abbrev LookupResult (H : HostTypes) := Except EncodingError (Encoder H)

/-- A source of encoders. -/
inductive Registry (H : HostTypes) where
  | leaf (name : String) (lookup : H.Code → LookupResult H)
  | chain (members : List (Registry H))

namespace Registry

def name : Registry H → String
  | .leaf name _ => name
  | .chain _ => "ChainedCodecRegistry"

mutual

/-- The encoder for a type. -/
def lookup (c : H.Code) : Registry H → LookupResult H
  | .leaf _ answer => answer c
  | .chain members => lookupFirst c members

/-- The first answer that is more than that no encoder is known. -/
def lookupFirst (c : H.Code) : List (Registry H) → LookupResult H
  | [] => .error (.noEncoder (H.name c))
  | member :: rest =>
    match lookup c member with
    | .error (.noEncoder _) => lookupFirst c rest
    | answer => answer

end

/-- The chain with one more member, asked last. Anything but a chain becomes the first member. -/
def push : Registry H → Registry H → Registry H
  | .chain members, r => .chain (members ++ [r])
  | first, r => .chain [first, r]

/-- A registry that is out of order: every look-up fails for the same reason. -/
def failing (name reason : String) : Registry H :=
  .leaf name fun c => .error (.refused (H.name c) reason)

/-- The value of an object. -/
def encode (R : Registry H) (o : HostObject H) : Except EncodingError Value :=
  match R.lookup o.type with
  | .error e => .error e
  | .ok encoder => (encoder.plan o).run fun part _smaller => R.encode part
termination_by o.size

mutual

/-- The leaves of a registry, from left to right. -/
def leaves : Registry H → List (Registry H)
  | .leaf name answer => [.leaf name answer]
  | .chain members => leavesOf members

def leavesOf : List (Registry H) → List (Registry H)
  | [] => []
  | member :: rest => leaves member ++ leavesOf rest

end

end Registry

namespace Encoder

/-- The encoder applied to an object of any type, with its parts encoded through a registry. -/
def encode (e : Encoder H) (o : HostObject H) (R : Registry H) : Except EncodingError Value :=
  (e.plan o).run fun part _ => R.encode part

end Encoder

theorem Registry.encode_eq (R : Registry H) (o : HostObject H) :
    R.encode o = (R.lookup o.type).bind fun encoder => encoder.encode o R := by
  rw [Registry.encode]
  cases R.lookup o.type <;> rfl

/-- Encoders by host type. -/
structure EncoderTable (H : HostTypes) where
  encoders : OrderedMap H.Code (Encoder H)

namespace EncoderTable

def empty : EncoderTable H := ⟨.empty⟩

instance : EmptyCollection (EncoderTable H) := ⟨empty⟩

/-- Puts an encoder under a type, in the place of the one that was there. -/
def insert (t : EncoderTable H) (c : H.Code) (e : Encoder H) : EncoderTable H :=
  ⟨t.encoders.insert c e⟩

/-- Puts an encoder under its own type. -/
def register (t : EncoderTable H) (e : Encoder H) : EncoderTable H := t.insert e.type e

def contains (t : EncoderTable H) (c : H.Code) : Bool := t.encoders.contains c

def size (t : EncoderTable H) : Nat := t.encoders.size

def isEmpty (t : EncoderTable H) : Bool := t.encoders.isEmpty

/-- The types that have an encoder. -/
def types (t : EncoderTable H) : List H.Code := t.encoders.keys

def lookup (t : EncoderTable H) (c : H.Code) : LookupResult H :=
  match t.encoders.get? c with
  | some e => .ok e
  | none => .error (.noEncoder (H.name c))

/-- The table as a registry. -/
def toRegistry (t : EncoderTable H) : Registry H := .leaf "SimpleCodecRegistry" t.lookup

end EncoderTable

end DocumentQuery
