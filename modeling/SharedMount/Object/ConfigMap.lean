import SharedMount.Object.Resource

/-! # ConfigMaps -/

namespace SharedMount

/-- Plain data kept in the cluster. -/
structure ConfigMap where
  metadata : Metadata := {}
  data : Option TextMap := none
  immutable : Option Bool := none
deriving DecidableEq, Inhabited

namespace ConfigMap

/-- Write a ConfigMap as a document. -/
def encode (map : ConfigMap) : Json :=
  .record
    [("apiVersion", some (.str "v1")),
      ("data", map.data.map .ofTextMap),
      ("immutable", map.immutable.map .bool),
      ("kind", some (.str "ConfigMap")),
      ("metadata", some map.metadata.encode)]

/-- Read a ConfigMap from a document. -/
def decode? (json : Json) : Option ConfigMap := do
  let fields ← Resource.coreFields? "ConfigMap" json
  return {
    metadata := ← Resource.coreMetadata? fields
    data := ← Json.optionalField "data" Json.textMap? fields
    immutable := ← Json.optionalField "immutable" Json.flag? fields }

end ConfigMap

instance : Resource ConfigMap where
  kind := "ConfigMap"
  blank := {}
  metadata := ConfigMap.metadata
  withMetadata map metadata := { map with metadata }
  encode := ConfigMap.encode
  decode? := ConfigMap.decode?

end SharedMount
