import MySQLOperator.Certificates.Names

/-!
# The certificate lifecycle manager

`src/pkg/controller/certificates.go`, on a store of the objects it reads and writes: cert-manager's
issuers and certificates, the instance's service, the secrets, and the events recorded. Calls run
one after another, with no other party acting in between; `Race.lean` interleaves the secret
accesses with other writers.

`CreateOrPatchCertificate` and `CreateOrPatchSecret` of kmodules are one helper, `createOrPatch`:
a missing object is created from `transform` of a fresh one, and an existing one is patched with the
merge patch from it to `transform` of it, or left alone when that patch is empty. Against the object
it was computed from, that patch gives back `transform`'s result. The three `manage…Cert` functions
are `manageCert` at their own `ensure…Cert`, suffix and event texts, and the two client
certificates are `clientCertificate` at their own suffix.

`mysql.Spec.TLS.IssuerRef` is a pointer that the source reads without a `nil` check, in the issuer
check and in each `ensure…Cert`: every such read is `MySQL.issuerRef`, a runtime panic on `nil`.
-/

namespace MySQLOperator

/-- An object's key in the store: its namespace and name. -/
abbrev ObjKey := String × String

/-- `metav1.ObjectMeta`, with the fields this core sets or reads. -/
structure ObjectMeta where
  name : String
  ns : String
  labels : StrMap := ∅
  ownerReferences : List OwnerReference := []
  uid : Nat := 0
  deriving DecidableEq

/-- The key of the object that `meta` names. -/
def ObjectMeta.key (meta : ObjectMeta) : ObjKey := (meta.ns, meta.name)

/-! ## The instance and the objects it owns -/

/-- The operator's overrides of the certificates, `mysql.Spec.TLS.Certificate`. -/
structure CertificateOverrides where
  organization : List String
  duration : Option String
  renewBefore : Option String
  dnsNames : List String
  ipAddresses : List String
  uriSANs : List String
  deriving DecidableEq

/-- `mysql.Spec.TLS.IssuerRef`. -/
structure IssuerRef where
  name : String
  kind : String
  deriving DecidableEq

/-- `mysql.Spec.TLS`; both fields are pointers, `none` when `nil`. -/
structure TLSConfig where
  issuerRef : Option IssuerRef
  certificate : Option CertificateOverrides
  deriving DecidableEq

/-- A TLS-enabled `MySQL` object, with the fields this core reads. -/
structure MySQL where
  name : String
  ns : String
  uid : Nat
  labels : StrMap
  tls : TLSConfig

/-- `cm_api.KeyUsage`. -/
inductive KeyUsage where
  | digitalSignature
  | keyEncipherment
  | serverAuth
  | clientAuth
  deriving DecidableEq, Repr

/-- `cmmeta.ObjectReference`: the issuer of a certificate. -/
structure ObjectReference where
  name : String
  kind : String
  deriving DecidableEq, Inhabited

/-- `cm_api.CertificateSpec`. -/
structure CertificateSpec where
  commonName : String
  organization : List String
  duration : Option String
  renewBefore : Option String
  dnsNames : List String
  ipAddresses : List String
  uriSANs : List String
  secretName : String
  issuerRef : ObjectReference
  isCA : Bool
  usages : List KeyUsage
  deriving DecidableEq, Inhabited

/-- `cm_api.Certificate`. -/
structure Certificate where
  objectMeta : ObjectMeta
  spec : CertificateSpec
  deriving DecidableEq

/-- `core.Secret`: the data and type are cert-manager's, the owners are what this core adds. -/
structure Secret where
  objectMeta : ObjectMeta
  type : String
  data : StrMap
  deriving DecidableEq

/-- An entry of `service.Status.LoadBalancer.Ingress`. -/
structure LoadBalancerIngress where
  ip : String
  hostname : String

/-- `core.Service`, with its load balancer's ingress entries. -/
structure Service where
  ingress : List LoadBalancerIngress

/-- An event recorded on the instance. -/
structure Event where
  involvedObject : String
  type : String
  reason : String
  message : String
  deriving DecidableEq

/-- The objects the certificate manager reads and writes. `nextUID` is the uid that the server
gives the next object created. -/
structure Store where
  issuers : List ObjKey
  clusterIssuers : List String
  services : ObjKey → Option Service
  certificates : ObjKey → Option Certificate
  secrets : ObjKey → Option Secret
  events : List Event
  nextUID : Nat

/-! ## Constants of the libraries -/

/-- `cm_api.IssuerKind`. -/
def IssuerKind : String := "Issuer"

/-- `cm_api.ClusterIssuerKind`. -/
def ClusterIssuerKind : String := "ClusterIssuer"

/-- `cm_api.CertificateKind`. -/
def CertificateKind : String := "Certificate"

/-- `api.ResourceKindMySQL`. -/
def ResourceKindMySQL : String := "MySQL"

/-- `core.EventTypeNormal`. -/
def EventTypeNormal : String := "Normal"

/-- `eventer.EventReasonSuccessful`. -/
def EventReasonSuccessful : String := "Successful"

/-- The runtime panic of a field access through a `nil` pointer. -/
def nilPointerDereference : GoError := .panic "invalid memory address or nil pointer dereference"

/-- A read of a field of `mysql.Spec.TLS.IssuerRef`, which the source makes without a `nil` check. -/
def MySQL.issuerRef (m : MySQL) : Except GoError IssuerRef :=
  match m.tls.issuerRef with
  | none => .error nilPointerDereference
  | some ref => .ok ref

/-- `metav1.NewControllerRef(mysql, …WithKind(api.ResourceKindMySQL))`. -/
def newControllerRef (m : MySQL) : OwnerReference :=
  { apiVersion := "kubedb.com/v1alpha1", kind := ResourceKindMySQL, name := m.name, uid := m.uid,
    controller := true, blockOwnerDeletion := true }

/-- `core_util.NewOwnerRef(certificate, …WithKind(cm_api.CertificateKind))`. -/
def newOwnerRef (c : Certificate) : OwnerReference :=
  { apiVersion := "cert-manager.io/v1alpha2", kind := CertificateKind, name := c.objectMeta.name,
    uid := c.objectMeta.uid, controller := false, blockOwnerDeletion := false }

/-! ## The desired certificates -/

/-- `getServiceURL`. -/
def getServiceURL (m : MySQL) : String := m.name ++ "." ++ m.ns ++ ".svc"

/-- The loop of `getServiceHosts` over the ingress entries: a host name goes to the DNS names,
and an IP address to the IP addresses only when the entry has no host name. -/
def ingressHosts : List LoadBalancerIngress → List String × List String → List String × List String
  | [], acc => acc
  | item :: rest, (dnsNames, ipAddresses) =>
    if item.hostname ≠ "" then ingressHosts rest (dnsNames ++ [item.hostname], ipAddresses)
    else if item.ip ≠ "" then ingressHosts rest (dnsNames, ipAddresses ++ [item.ip])
    else ingressHosts rest (dnsNames, ipAddresses)

/-- `getServiceHosts`: the DNS names and IP addresses of the instance's service, and the error of
its `Get`. -/
def getServiceHosts (st : Store) (m : MySQL) : List String × List String × Option GoError :=
  match st.services (m.ns, m.name) with
  | none => ([], [], some (.notFound "services" m.name))
  | some service =>
    let (dnsNames, ipAddresses) :=
      ingressHosts service.ingress ([getServiceURL m, "localhost"], ["127.0.0.1"])
    (dnsNames, ipAddresses, none)

/-- The owner reference that each `ensure…Cert` puts on its certificate. -/
def certificateOwners (m : MySQL) : List OwnerReference :=
  ensureOwnerReference [] (newControllerRef m)

/-- The `cert` that `ensureServerCert` builds from the issuer reference and the service's hosts.
With overrides, the source appends them, and builds the IP addresses as
`append(dnsNames, IPAddresses...)`. -/
def serverCertificate (m : MySQL) (ref : IssuerRef) (hostDNSNames hostIPAddresses : List String) :
    Certificate :=
  let (dnsNames, ipAddresses, duration, renewBefore, organization, uriSANs) :=
    match m.tls.certificate with
    | none => (hostDNSNames, hostIPAddresses, none, none, [], [])
    | some o =>
      (hostDNSNames ++ o.dnsNames, (hostDNSNames ++ o.dnsNames) ++ o.ipAddresses, o.duration,
        o.renewBefore, o.organization, o.uriSANs)
  { objectMeta :=
      { name := certificateName m.name MySQLServerCertSuffix, ns := m.ns, labels := m.labels,
        ownerReferences := certificateOwners m }
    spec :=
      { commonName := getServiceURL m, organization := organization ++ ["kubedb:server"],
        duration, renewBefore, dnsNames, ipAddresses, uriSANs,
        secretName := certificateName m.name MySQLServerCertSuffix,
        issuerRef := ⟨ref.name, ref.kind⟩, isCA := false,
        usages := [.digitalSignature, .keyEncipherment, .serverAuth] } }

/-- The `cert` that `ensureClientCert` and `ensureExporterClientCert` build, at their suffix. -/
def clientCertificate (m : MySQL) (ref : IssuerRef) (suffix : String) : Certificate :=
  { objectMeta :=
      { name := certificateName m.name suffix, ns := m.ns, labels := m.labels,
        ownerReferences := certificateOwners m }
    spec :=
      { commonName := getServiceURL m, organization := [], duration := none, renewBefore := none,
        dnsNames := [getServiceURL m, "localhost"], ipAddresses := ["127.0.0.1"], uriSANs := [],
        secretName := certificateName m.name suffix,
        issuerRef := ⟨ref.name, ref.kind⟩, isCA := false,
        usages := [.digitalSignature, .keyEncipherment, .clientAuth] } }

/-! ## Writes -/

/-- `CreateOrPatch…` of kmodules on one kind of object: a missing object is created from
`transform fresh`; an existing `cur` is patched to `transform cur`, unless that is `cur` again. -/
def createOrPatch {α : Type} [DecidableEq α] (objs : ObjKey → Option α) (key : ObjKey) (fresh : α)
    (transform : α → α) : (ObjKey → Option α) × Verb :=
  match objs key with
  | none => (Function.update objs key (some (transform fresh)), .created)
  | some cur =>
    let mod := transform cur
    if cur = mod then (objs, .unchanged) else (Function.update objs key (some mod), .patched)

/-- The uid the server gives the next object: one more after a create. -/
def stampUID (nextUID : Nat) : Verb → Nat
  | .created => nextUID + 1
  | _ => nextUID

/-- `cm_util.CreateOrPatchCertificate`; the server stamps a created certificate with a new uid. -/
def createOrPatchCertificate (st : Store) (meta : ObjectMeta)
    (transform : Certificate → Certificate) : Store × Verb :=
  let r := createOrPatch st.certificates meta.key ⟨{ meta with uid := st.nextUID }, default⟩ transform
  ({ st with certificates := r.1, nextUID := stampUID st.nextUID r.2 }, r.2)

/-- `core_util.CreateOrPatchSecret`; a created secret has no data and no type. -/
def createOrPatchSecret (st : Store) (meta : ObjectMeta) (transform : Secret → Secret) :
    Store × Verb :=
  let r := createOrPatch st.secrets meta.key ⟨{ meta with uid := st.nextUID }, "", ∅⟩ transform
  ({ st with secrets := r.1, nextUID := stampUID st.nextUID r.2 }, r.2)

/-- What each `ensure…Cert` does with its `cert`: `CreateOrPatchCertificate` of its meta, with a
transform that replaces the spec. -/
def ensureCertificate (st : Store) (cert : Certificate) : Store × Verb :=
  createOrPatchCertificate st cert.objectMeta fun cur => { cur with spec := cert.spec }

/-- `ensureServerCert`: the error of the service `Get` is returned before the `cert` is built. -/
def ensureServerCert (st : Store) (m : MySQL) : Except GoError (Store × Verb) :=
  let (dnsNames, ipAddresses, err) := getServiceHosts st m
  match err with
  | some e => .error e
  | none => do
    let ref ← m.issuerRef
    return ensureCertificate st (serverCertificate m ref dnsNames ipAddresses)

/-- `ensureClientCert`. -/
def ensureClientCert (st : Store) (m : MySQL) : Except GoError (Store × Verb) := do
  let ref ← m.issuerRef
  return ensureCertificate st (clientCertificate m ref MySQLClientCertSuffix)

/-- `ensureExporterClientCert`. -/
def ensureExporterClientCert (st : Store) (m : MySQL) : Except GoError (Store × Verb) := do
  let ref ← m.issuerRef
  return ensureCertificate st (clientCertificate m ref MySQLExporterClientCertSuffix)

/-- `secretExists`. -/
def secretExists (st : Store) (meta : ObjectMeta) : Bool := (st.secrets meta.key).isSome

/-- The transform of `AddOwnerReferenceToSecret`: ensure the certificate, then the instance. -/
def addOwners (ref1 ref2 : OwnerReference) (s : Secret) : Secret :=
  { s with objectMeta.ownerReferences :=
      ensureOwnerReference (ensureOwnerReference s.objectMeta.ownerReferences ref1) ref2 }

/-- `AddOwnerReferenceToSecret`. -/
def addOwnerReferenceToSecret (st : Store) (m : MySQL) (secretMeta : ObjectMeta) :
    Except GoError (Store × Verb) :=
  match st.certificates secretMeta.key with
  | none => .error (.notFound "certificates" secretMeta.name)
  | some certificate =>
    .ok (createOrPatchSecret st secretMeta (addOwners (newOwnerRef certificate) (newControllerRef m)))

/-- `c.recorder.Event(mysql, core.EventTypeNormal, eventer.EventReasonSuccessful, message)`. -/
def recordEvent (st : Store) (m : MySQL) (message : String) : Store :=
  { st with events := st.events ++ [⟨m.name, EventTypeNormal, EventReasonSuccessful, message⟩] }

/-- The events of a `manage…Cert`: one for a created or a patched certificate, none otherwise. -/
def recordVerb (st : Store) (m : MySQL) (createdMessage patchedMessage : String) : Verb → Store
  | .created => recordEvent st m createdMessage
  | .patched => recordEvent st m patchedMessage
  | .unchanged => st

/-- The body shared by `manageServerCert`, `manageClientCert` and `manageExporterClientCert`:
ensure the certificate, record an event unless it was unchanged, and, once the secret exists,
add the owners to it. -/
def manageCert (ensure : Store → MySQL → Except GoError (Store × Verb))
    (suffix createdMessage patchedMessage : String) (st : Store) (m : MySQL) :
    Except GoError Store := do
  let (st, certVerb) ← ensure st m
  let st := recordVerb st m createdMessage patchedMessage certVerb
  let ref : ObjectMeta := { name := certificateName m.name suffix, ns := m.ns }
  if secretExists st ref then
    let (st, _) ← addOwnerReferenceToSecret st m ref
    return st
  else
    return st

/-- `manageServerCert`. -/
def manageServerCert : Store → MySQL → Except GoError Store :=
  manageCert ensureServerCert MySQLServerCertSuffix
    "Successfully created MySQL server certificates" "Successfully patched MySQL server certificates"

/-- `manageClientCert`. -/
def manageClientCert : Store → MySQL → Except GoError Store :=
  manageCert ensureClientCert MySQLClientCertSuffix
    "Successfully created MySQL client-certificates" "Successfully patched MySQL client-certificates"

/-- `manageExporterClientCert`. -/
def manageExporterClientCert : Store → MySQL → Except GoError Store :=
  manageCert ensureExporterClientCert MySQLExporterClientCertSuffix
    "Successfully created MySQL exporter client-certificates"
    "Successfully patched MySQL exporter client-certificates"

/-- The issuer check at the top of `manageTLS`. -/
def checkIssuer (st : Store) (m : MySQL) : Except GoError Unit := do
  let ref ← m.issuerRef
  if ref.kind = IssuerKind then
    if (m.ns, ref.name) ∈ st.issuers then .ok ()
    else .error (.notFound "issuers" ref.name)
  else if ref.kind = ClusterIssuerKind then
    if ref.name ∈ st.clusterIssuers then .ok ()
    else .error (.notFound "clusterissuers" ref.name)
  else .error (.msg "mysql.Spec.TLS.Client.IssuerRef.Kind is not either Issuer or ClusterIssuer")

/-- `manageTLS`. -/
def manageTLS (st : Store) (m : MySQL) : Except GoError Store := do
  checkIssuer st m
  let st ← manageServerCert st m
  let st ← manageClientCert st m
  manageExporterClientCert st m

/-- A `Get` of a secret. -/
def getSecret (st : Store) (ns name : String) : Except GoError Secret :=
  match st.secrets (ns, name) with
  | none => .error (.notFound "secrets" name)
  | some s => .ok s

/-- `checkTLSCerts`: the client, server and exporter client secrets, in that order, must exist. -/
def checkTLSCerts (st : Store) (m : MySQL) : Except GoError Unit := do
  let _ ← getSecret st m.ns (certificateName m.name MySQLClientCertSuffix)
  let _ ← getSecret st m.ns (certificateName m.name MySQLServerCertSuffix)
  let _ ← getSecret st m.ns (certificateName m.name MySQLExporterClientCertSuffix)
  return ()

end MySQLOperator
