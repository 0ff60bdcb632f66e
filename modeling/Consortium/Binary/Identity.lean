import Consortium.Binary.Codec
import Consortium.Identity.Business
import Consortium.Identity.LinearId
import Consortium.Identity.NetworkId
import Consortium.Identity.Role
import Consortium.Time.Timestamp

/-!
The binary form of identities: fields in the order given here.
-/

namespace Consortium.Binary

instance : Codec PublicKey := .via PublicKey.bytes PublicKey.mk

instance : Codec Signature := @Codec.via _ _ .ofMeasuredBlock Signature.bytes Signature.mk

instance : Codec Uuid := @Codec.via _ _ .ofMeasuredBlock Uuid.bytes Uuid.mk

instance : Codec LinearId :=
  .via (fun id => (id.externalId, id.uuid)) fun (externalId, uuid) => ⟨externalId, uuid⟩

instance : Codec NetworkId := .via NetworkId.text NetworkId.mk

instance : Codec Party :=
  .via (fun party => (party.name, party.owningKey)) fun (name, owningKey) => ⟨name, owningKey⟩

instance : Codec BusinessIdentity :=
  .via (fun business => (business.kind, business.attributes))
    fun (kind, attributes) => ⟨kind, attributes⟩

instance : Codec MemberIdentity :=
  .via (fun identity => (identity.party, identity.business))
    fun (party, business) => ⟨party, business⟩

instance : Codec Permission := .ofAlternatives Permission.all

instance : Codec Role :=
  .via (fun role => (role.name, role.permissions)) fun (name, permissions) => ⟨name, permissions⟩

instance : Codec Timestamp := .via Timestamp.seconds Timestamp.mk

end Consortium.Binary
