import WsTrust.Json
import WsTrust.Payload

/-!
# Messages as JSON

Every record is an object whose fields are the things that were said, in a
fixed order; what was not said is left out.  Names are in Clark notation, so
prefixes are lost and nothing else is.
-/

namespace WsTrust

def QName.toJson (name : QName) : Json :=
  .string name.clark

def Attribute.toJson (whole : Attribute) : Json :=
  .object [("name", whole.name.toJson), ("value", .string whole.value)]

namespace Node

def elementJson
    (name : QName)
    (attributes : List Attribute)
    (children : List Json) : Json :=
  .object
    [("name", name.toJson),
      ("attributes", .array (attributes.map Attribute.toJson)),
      ("children", .array children)]

mutual

def toJson : Node → Json
  | .text content => .string content
  | .element name attributes children =>
      elementJson name attributes (toJsonAll children)

def toJsonAll : List Node → List Json
  | [] => []
  | node :: rest => node.toJson :: toJsonAll rest

end

end Node

def Element.toJson (element : Element) : Json :=
  element.toNode.toJson

def wrappedJson (fragment : Element) : Json :=
  .object [("any", fragment.toJson)]

/-! ## Values -/

def Uri.toJson (uri : Uri) : Json :=
  .string uri.text

def Lifetime.toJson (lifetime : Lifetime) : Json :=
  .object
    (Json.optional "created"
        (lifetime.created.map fun created => .string created.text) ++
      [("expires", .string lifetime.expires.text)])

/-- The fields of a secret: its type, if it has one, and its bytes. -/
def BinarySecret.jsonFields (secret : BinarySecret) : List (String × Json) :=
  Json.optional "type" (secret.type.map .string) ++
    [("value",
      .array (secret.value.map fun byte => .number byte.toNat))]

def Entropy.toJson (entropy : Entropy) : Json :=
  .object
    (Json.optional "binary_secret"
      (entropy.binarySecret.map fun secret => .object secret.jsonFields))

def ProofToken.toJson : ProofToken → Json
  | .binarySecret secret =>
      .object (("kind", .string "binary_secret") :: secret.jsonFields)
  | .computedKey algorithm =>
      .object
        [("kind", .string "computed_key"), ("algorithm", .string algorithm)]
  | .none => .object [("kind", .string "none")]

def RequestedToken.toJson (token : RequestedToken) : Json :=
  .object [("any", .array (token.any.map Element.toJson))]

/-- Names in Clark notation with their values, in the order of the names. -/
def AttributeMap.toJson (map : AttributeMap) : Json :=
  .object (map.entries.map fun (name, value) => (name.clark, .string value))

def TokenReference.toJson (reference : TokenReference) : Json :=
  .object
    (Json.optional "id" (reference.id.map .string) ++
      Json.optional "usage" (reference.usage.map .string) ++
      [("other_attributes", reference.otherAttributes.toJson),
        ("any", .array (reference.any.map Element.toJson))])

def TokenReference.toWrappedJson (reference : TokenReference) : Json :=
  .object [("security_token_reference", reference.toJson)]

def Status.toJson (status : Status) : Json :=
  .object [("code", .string status.code), ("reason", .string status.reason)]

def Renewing.toJson (renewing : Renewing) : Json :=
  .object [("allow", .boolean renewing.allow), ("ok", .boolean renewing.ok)]

def AppliesTo.toJson : AppliesTo → Json
  | .endpointReference address =>
      .object
        [("kind", .string "endpoint_reference"),
          ("value", .object [("address", .string address)])]
  | .value text =>
      .object [("kind", .string "value"), ("value", .string text)]
  | .fragment content =>
      .object [("kind", .string "fragment"), ("value", content.toJson)]

/-! ## Records -/

def Response.toJson (response : Response) : Json :=
  .object
    ([("context", .string response.context)] ++
      Json.optional "request_type" (response.requestType.map Uri.toJson) ++
      Json.optional "token_type" (response.tokenType.map Uri.toJson) ++
      Json.optional "key_type" (response.keyType.map Uri.toJson) ++
      Json.optional "lifetime" (response.lifetime.map Lifetime.toJson) ++
      Json.optional "on_behalf_of"
        (response.onBehalfOf.map fun delegation =>
          wrappedJson delegation.any) ++
      Json.optional "key_size" (response.keySize.map .number) ++
      Json.optional "entropy" (response.entropy.map Entropy.toJson) ++
      Json.optional "use_key"
        (response.useKey.map fun key => wrappedJson key.any) ++
      [("requested_token_cancelled", .boolean response.cancelled)] ++
      Json.optional "requested_proof_token"
        (response.proofToken.map ProofToken.toJson) ++
      Json.optional "requested_security_token"
        (response.requestedToken.map RequestedToken.toJson) ++
      Json.optional "requested_attached_reference"
        (response.attachedReference.map TokenReference.toWrappedJson) ++
      Json.optional "requested_unattached_reference"
        (response.unattachedReference.map TokenReference.toWrappedJson) ++
      Json.optional "status" (response.status.map Status.toJson) ++
      Json.optional "renewing" (response.renewing.map Renewing.toJson) ++
      Json.optional "applies_to" (response.appliesTo.map AppliesTo.toJson))

def Request.toJson (request : Request) : Json :=
  .object
    ([("context", .string request.context)] ++
      Json.optional "request_type" (request.requestType.map Uri.toJson) ++
      Json.optional "token_type" (request.tokenType.map Uri.toJson) ++
      Json.optional "key_type" (request.keyType.map Uri.toJson) ++
      Json.optional "applies_to" (request.appliesTo.map AppliesTo.toJson) ++
      Json.optional "lifetime" (request.lifetime.map Lifetime.toJson) ++
      Json.optional "on_behalf_of"
        (request.onBehalfOf.map fun delegation =>
          wrappedJson delegation.any) ++
      Json.optional "key_size" (request.keySize.map .number) ++
      Json.optional "entropy" (request.entropy.map Entropy.toJson) ++
      Json.optional "use_key"
        (request.useKey.map fun key => wrappedJson key.any) ++
      Json.optional "renewing" (request.renewing.map Renewing.toJson) ++
      Json.optional "computed_key_algorithm"
        (request.computedKeyAlgorithm.map Uri.toJson) ++
      Json.optional "signature_algorithm"
        (request.signatureAlgorithm.map Uri.toJson) ++
      Json.optional "encryption_algorithm"
        (request.encryptionAlgorithm.map Uri.toJson) ++
      Json.optional "canonicalization_algorithm"
        (request.canonicalizationAlgorithm.map Uri.toJson) ++
      Json.optional "validate_target"
        (request.validateTarget.map Element.toJson) ++
      Json.optional "renew_target"
        (request.renewTarget.map Element.toJson) ++
      Json.optional "cancel_target"
        (request.cancelTarget.map Element.toJson))

def Payload.toJson : Payload → Json
  | .request single =>
      .object [("type", .string "request"), ("payload", single.toJson)]
  | .requestCollection members =>
      .object
        [("type", .string "request_collection"),
          ("payload", .array (members.map Request.toJson))]
  | .response single =>
      .object [("type", .string "response"), ("payload", single.toJson)]
  | .responseCollection members =>
      .object
        [("type", .string "response_collection"),
          ("payload", .array (members.map Response.toJson))]

end WsTrust
