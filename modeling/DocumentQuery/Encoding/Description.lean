import DocumentQuery.Encoding.HostDocument
import DocumentQuery.Value.Description

/-!
# Descriptions of encoders and host documents

Texts that describe encoders, tables and host documents to people. A host object is described by
its type alone, since its contents are known only to its encoder.
-/

namespace DocumentQuery

open Text

variable {H : HostTypes}

def Encoder.description (e : Encoder H) : String := "FnEncoder<" ++ e.typeName ++ ">"

def EncoderTable.description (t : EncoderTable H) : String :=
  describeRecord "SimpleCodecRegistry" "encoders"
    (describeList (t.encoders.toList.map fun entry => describe entry.2.typeName))

def HostObject.description (o : HostObject H) : String := "HostObject<" ++ o.typeName ++ ">"

namespace HostValue

mutual

def description : HostValue H → String
  | .value v => describeTuple "Value" v.description
  | .object o => describeTuple "Object" o.description
  | .document entries =>
    describeTuple "Document"
      (describeRecord "HostDocument" "entries" (describeList (describeNamed entries)))
  | .array items => describeTuple "Array" (describeList (describeItems items))

def describeNamed : List (String × HostValue H) → List String
  | [] => []
  | (name, x) :: rest =>
    describeTuple "" (describe name ++ ", " ++ description x) :: describeNamed rest

def describeItems : List (HostValue H) → List String
  | [] => []
  | item :: rest => description item :: describeItems rest

end

end HostValue

def HostDocument.description (d : HostDocument H) : String :=
  describeRecord "HostDocument" "entries" (describeList (HostValue.describeNamed d))

def DocumentSource.description : DocumentSource H → String
  | .plain d => describeTuple "DocumentLiteral" d.description
  | .host d => describeTuple "DocumentLiteral" d.description

end DocumentQuery
