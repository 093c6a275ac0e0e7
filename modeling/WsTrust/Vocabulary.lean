/-!
# Namespaces of the message formats

The namespace URIs that decide how a message is read.
-/

namespace WsTrust.Vocabulary

/-- The namespace of WS-Trust 1.3. -/
def trust : String :=
  "http://docs.oasis-open.org/ws-sx/ws-trust/200512"

/-- The namespace of WS-Policy, which `AppliesTo` belongs to. -/
def policy : String :=
  "http://schemas.xmlsoap.org/ws/2004/09/policy"

/-- The namespace of the WS-Security extension elements. -/
def security : String :=
  "http://docs.oasis-open.org/wss/2004/01/oasis-200401-wss-wssecurity-secext-1.0.xsd"

/-- The namespace of the WS-Security utility attributes. -/
def utility : String :=
  "http://docs.oasis-open.org/wss/2004/01/oasis-200401-wss-wssecurity-utility-1.0.xsd"

/-- The namespace that namespace declarations themselves are in. -/
def declarations : String :=
  "http://www.w3.org/2000/xmlns/"

/-- The namespace that `xml` is bound to in every document. -/
def reserved : String :=
  "http://www.w3.org/XML/1998/namespace"

end WsTrust.Vocabulary
