import DocumentQuery.Encoding.Error
import DocumentQuery.Value.Basic

/-!
# Host types and encoders

Objects of the host program become values by way of encoders, one for each host type.

**Host types.** `HostTypes` lists the types of a host program. A type has a name, and an identity
that tells it from others; an object of an unexpected type shows only its identity. Each object has
a size, which is larger than that of the objects inside it.

**Recipes.** What an encoder does with one object is a `Recipe`: it finishes with a value, fails,
or asks for the encoding of a smaller object and goes on with the answer. So an encoder uses the
surrounding encoders only to encode what its object holds, and every recipe comes to an end.
-/

namespace DocumentQuery

/-- The types of a host program, with their objects. -/
structure HostTypes where
  Code : Type
  decEq : DecidableEq Code
  /-- The objects of a type. -/
  Carrier : Code → Type
  /-- The name of a type in messages. -/
  name : Code → String
  /-- How the identity of a type is written, where its name is not at hand. -/
  identity : Code → String
  /-- A bound on how deep objects are nested in an object. -/
  size : {c : Code} → Carrier c → Nat

instance (H : HostTypes) : DecidableEq H.Code := H.decEq

/-- An object of some host type. -/
structure HostObject (H : HostTypes) where
  type : H.Code
  value : H.Carrier type

namespace HostObject

variable {H : HostTypes}

def size (o : HostObject H) : Nat := H.size o.value

/-- The name of the object's type. -/
def typeName (o : HostObject H) : String := H.name o.type

/-- The identity of the object's type. -/
def typeIdentity (o : HostObject H) : String := H.identity o.type

end HostObject

/-- The steps that encode one object, all of whose parts are smaller than `bound`. -/
inductive Recipe (H : HostTypes) (bound : Nat) where
  | done (v : Value)
  | fail (e : EncodingError)
  /-- Asks for the encoding of a part. -/
  | ask (part : HostObject H) (smaller : part.size < bound)
    (next : Except EncodingError Value → Recipe H bound)

namespace Recipe

variable {H : HostTypes} {bound : Nat}

/-- The outcome, given the encodings of the parts. -/
def run (encode : (part : HostObject H) → part.size < bound → Except EncodingError Value) :
    Recipe H bound → Except EncodingError Value
  | .done v => .ok v
  | .fail e => .error e
  | .ask part smaller next => (next (encode part smaller)).run encode

/-- Encodes a part and goes on with its value, or fails as the part does. -/
def part (o : HostObject H) (smaller : o.size < bound) (next : Value → Recipe H bound) :
    Recipe H bound :=
  .ask o smaller fun
    | .ok v => next v
    | .error e => .fail e

/-- Encodes parts in order and goes on with their values, or fails as the first part that does. -/
def parts : (os : List (HostObject H)) → (∀ o ∈ os, o.size < bound) →
    (List Value → Recipe H bound) → Recipe H bound
  | [], _, next => next []
  | o :: os, smaller, next =>
    part o (smaller o (by simp)) fun v =>
      parts os (fun o' h => smaller o' (by simp [h])) fun vs => next (v :: vs)

/-- The recipe fails as its parts do: it stops at the first part without an encoding. -/
inductive Propagates : Recipe H bound → Prop
  | done (v : Value) : Propagates (.done v)
  | fail (e : EncodingError) : Propagates (.fail e)
  | ask {part : HostObject H} {smaller : part.size < bound}
    {next : Except EncodingError Value → Recipe H bound}
    (stops : ∀ e, next (.error e) = .fail e) (goesOn : ∀ v, Propagates (next (.ok v))) :
    Propagates (.ask part smaller next)

/-- The recipe reports a type mismatch only where one of its parts has done so. -/
inductive MakesNoMismatch : Recipe H bound → Prop
  | done (v : Value) : MakesNoMismatch (.done v)
  | fail {e : EncodingError} (h : ¬ e.IsTypeMismatch) : MakesNoMismatch (.fail e)
  | ask {part : HostObject H} {smaller : part.size < bound}
    {next : Except EncodingError Value → Recipe H bound}
    (onValue : ∀ v, MakesNoMismatch (next (.ok v)))
    (onError : ∀ e, ¬ e.IsTypeMismatch → MakesNoMismatch (next (.error e))) :
    MakesNoMismatch (.ask part smaller next)

end Recipe

/-- An encoder for the objects of one type. -/
structure Encoder (H : HostTypes) where
  type : H.Code
  recipe : (x : H.Carrier type) → Recipe H (H.size x)

namespace Encoder

variable {H : HostTypes}

/-- The name of the type that the encoder is for. -/
def typeName (e : Encoder H) : String := H.name e.type

/-- What the encoder does with any object. It refuses one of another type, of which it knows only
the identity. -/
def plan (e : Encoder H) (o : HostObject H) : Recipe H o.size :=
  if h : o.type = e.type then
    match o, h with
    | ⟨_, x⟩, rfl => e.recipe x
  else .fail (.typeMismatch e.typeName o.typeIdentity)

/-- The encoder fails as the parts of its object do. -/
def Propagates (e : Encoder H) : Prop := ∀ x, (e.recipe x).Propagates

/-- The encoder reports no type mismatch of its own. -/
def MakesNoMismatch (e : Encoder H) : Prop := ∀ x, (e.recipe x).MakesNoMismatch

theorem plan_mk (e : Encoder H) (x : H.Carrier e.type) : e.plan ⟨e.type, x⟩ = e.recipe x :=
  dif_pos rfl

theorem plan_of_ne {e : Encoder H} {o : HostObject H} (h : o.type ≠ e.type) :
    e.plan o = .fail (.typeMismatch e.typeName o.typeIdentity) :=
  dif_neg h

end Encoder

end DocumentQuery
