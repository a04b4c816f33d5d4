/-
# Certificates of the members

A `CertConfig` asks for the certificate of one component. Three members can have one; the issued
bundle is an authority certificate, a certificate and its key.
-/
import TenantFleet.Error
import TenantFleet.Object.Node

namespace TenantFleet

/-! ## Requests -/

/-- A request for a certificate. -/
structure CertConfig where
  metadata : Metadata
  /-- Whether bare domains may be alternative names. -/
  allowBareDomains : Bool
  /-- The alternative names. -/
  altNames : List String := []
  /-- The component. -/
  component : String
  /-- The cluster. -/
  clusterId : String
  /-- The common name. -/
  commonName : String
  /-- Whether the certificate is kept for good. -/
  disableRegeneration : Bool := false
  /-- The alternative addresses. -/
  ipSans : List String := []
  /-- The validity. -/
  ttl : String
  /-- The version of the contract with the issuer. -/
  bundleVersion : String
  deriving DecidableEq, Inhabited

namespace CertConfig

/-- The kind of a certificate request. -/
def kind : ObjectKind := ⟨"core.giantswarm.io", "v1alpha1", "CertConfig", "certconfigs"⟩

/-- The version of the contract. -/
def readBundle : Reader String := fun x => do
  let ms ← Reader.members ["version"] x
  Reader.required Reader.text ms "version"

/-- Reads a certificate request. -/
def read : Reader CertConfig := fun x => do
  let ms ← Reader.members ["metadata", "spec"] x
  let metadata ← Reader.required Metadata.read ms "metadata"
  let spec ← Reader.find? ms "spec"
  let ss ← Reader.members ["cert", "versionBundle"] spec
  let cert ← Reader.find? ss "cert"
  let cs ← Reader.members ["allowBareDomains", "altNames", "clusterComponent", "clusterId",
    "commonName", "disableRegeneration", "ipSans", "ttl"] cert
  return {
    metadata := metadata
    allowBareDomains := ← Reader.required Reader.bool cs "allowBareDomains"
    altNames := ← Reader.defaulted (Reader.list Reader.text) [] cs "altNames"
    component := ← Reader.required Reader.text cs "clusterComponent"
    clusterId := ← Reader.required Reader.text cs "clusterId"
    commonName := ← Reader.required Reader.text cs "commonName"
    disableRegeneration := ← Reader.defaulted Reader.bool false cs "disableRegeneration"
    ipSans := ← Reader.defaulted (Reader.list Reader.text) [] cs "ipSans"
    ttl := ← Reader.required Reader.text cs "ttl"
    bundleVersion := ← Reader.required readBundle ss "versionBundle" }

/-- The document of a certificate request. -/
def toJson (c : CertConfig) : Json :=
  objectJson kind c.metadata
    (.record [
      ("cert", some (.record [
        ("allowBareDomains", some (.bool c.allowBareDomains)),
        ("altNames", some (.ofTextList c.altNames)),
        ("clusterComponent", some (.str c.component)),
        ("clusterId", some (.str c.clusterId)),
        ("commonName", some (.str c.commonName)),
        ("disableRegeneration", some (.bool c.disableRegeneration)),
        ("ipSans", some (.ofTextList c.ipSans)),
        ("ttl", some (.str c.ttl))])),
      ("versionBundle", some (.record [("version", some (.str c.bundleVersion))]))])
    none

end CertConfig

/-! ## Bundles -/

/-- The namespace of the issued certificates. -/
def certificateNamespace : String := "default"

/-- The members that can have a certificate. -/
inductive EtcdCert
  | etcd1
  | etcd2
  | etcd3
  deriving DecidableEq, Inhabited

namespace EtcdCert

/-- The name of a member. -/
def name : EtcdCert → String
  | .etcd1 => "etcd1"
  | .etcd2 => "etcd2"
  | .etcd3 => "etcd3"

/-- The member of a name. -/
def ofName? (s : String) : Option EtcdCert := [etcd1, etcd2, etcd3].find? (fun c => c.name = s)

@[simp] theorem ofName?_name (c : EtcdCert) : ofName? c.name = some c := by
  cases c <;> rfl

end EtcdCert

/-- An issued bundle. -/
structure Tls where
  /-- The certificate of the authority. -/
  ca : String := ""
  /-- The certificate. -/
  crt : String := ""
  /-- The private key. -/
  key : String := ""
  deriving DecidableEq, Inhabited

namespace Tls

/-- A description of a bundle that shows sizes and hides the key. -/
def describe (t : Tls) : String :=
  "Tls \x7b ca: " ++ toString t.ca.utf8ByteSize ++ ", crt: " ++ toString t.crt.utf8ByteSize ++
    ", key: \"<redacted>\" \x7d"

/-- A part of a bundle: the text of a field that is not empty. -/
def field (s : Secret) (name key : String) : Except CertFault String :=
  match ((s.bytes? key).bind fun bytes => (Utf8.decode bytes).toOption).filter fun t =>
    !t.isEmpty with
  | some text => .ok text
  | none => .error (.incompleteSecret name key)

/-- The bundle in the secret of the given name. -/
def ofSecret (name : String) (s : Secret) : Except CertFault Tls := do
  return { ca := ← field s name "ca", crt := ← field s name "crt", key := ← field s name "key" }

end Tls

end TenantFleet
