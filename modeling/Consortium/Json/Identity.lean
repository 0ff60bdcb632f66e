import Consortium.Identity.Business
import Consortium.Identity.LinearId
import Consortium.Identity.NetworkId
import Consortium.Identity.Role
import Consortium.Json.Codec
import Consortium.Time.Timestamp

/-!
The JSON form of identities.
-/

namespace Consortium.Json

instance : Codec PublicKey := .via PublicKey.bytes PublicKey.mk

/-- A signature is an array of its bytes. It is also read from a text that has as many bytes. -/
instance : Codec Signature where
  write signature := Codec.write signature.bytes
  read
    | .string literal =>
        ((Literal.readBytes? literal).bind Block.ofList?).map Signature.mk
    | value => (Codec.read value).map Signature.mk

instance : Codec Uuid := .viaPartial Uuid.toText Uuid.ofText?

instance : Codec LinearId where
  write id := record [("external_id", Codec.write id.externalId), ("id", Codec.write id.uuid)]
  read value := do
    match ← readRecord [.nullable "external_id", .required "id"] value with
    | [externalId, uuid] => some ⟨← readFieldOr none externalId, ← readField uuid⟩
    | _ => none

instance : Codec NetworkId := .via NetworkId.text NetworkId.mk

instance : Codec Party where
  write party :=
    record [("name", Codec.write party.name), ("owning_key", Codec.write party.owningKey)]
  read value := do
    match ← readRecord [.required "name", .required "owning_key"] value with
    | [name, owningKey] => some ⟨← readField name, ← readField owningKey⟩
    | _ => none

instance : Codec BusinessIdentity where
  write business :=
    record
      [("kind", Codec.write business.kind), ("attributes", Codec.write business.attributes)]
  read value := do
    match ← readRecord [.required "kind", .required "attributes"] value with
    | [kind, attributes] => some ⟨← readField kind, ← readField attributes⟩
    | _ => none

instance : Codec MemberIdentity where
  write identity :=
    record
      [("party", Codec.write identity.party),
        ("business_identity", Codec.write identity.business)]
  read value := do
    match ← readRecord [.required "party", .defaulted "business_identity"] value with
    | [party, business] => some ⟨← readField party, ← readFieldOr none business⟩
    | _ => none

instance : Codec Permission := .ofNames Permission.all Permission.name

instance : Codec Role where
  write role :=
    record [("name", Codec.write role.name), ("permissions", Codec.write role.permissions)]
  read value := do
    match ← readRecord [.required "name", .required "permissions"] value with
    | [name, permissions] => some ⟨← readField name, ← readField permissions⟩
    | _ => none

instance : Codec Timestamp := .via Timestamp.seconds Timestamp.mk

end Consortium.Json
