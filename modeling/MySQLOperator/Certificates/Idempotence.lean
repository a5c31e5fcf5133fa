import MySQLOperator.Certificates.Steps

/-!
# Running `manageTLS` twice

A second `manageTLS` on the store that a successful one left returns that store as it is, so it
records no event; each `ensure…Cert` reports `unchanged`, and each ownership patch of a secret is
empty (`manageTLS_idempotent`).

The proof names the state that a pass leaves, `Settled`: the issuer is there, and for each
purpose the certificate has the spec that `ensure…Cert` computes from the store, and the secret,
if any, has owners that ensuring them again keeps. A pass establishes it (`manageTLS_settled`),
since each `manage…Cert` settles its own key and writes no other (`manageCert_ok`), and the three
keys of an instance differ (`certKey_injective`). From a settled store a pass changes nothing
(`manageTLS_of_settled`). The desired specs read the store only through the service, which no step
writes, so the second pass computes the specs that the first one wrote.
-/

namespace MySQLOperator

/-- The `ensure…Cert` of each purpose. -/
def Purpose.ensure : Purpose → Store → MySQL → Except GoError (Store × Verb)
  | .server => ensureServerCert
  | .client => ensureClientCert
  | .exporterClient => ensureExporterClientCert

/-- The `manage…Cert` of each purpose. -/
def Purpose.manage : Purpose → Store → MySQL → Except GoError Store
  | .server => manageServerCert
  | .client => manageClientCert
  | .exporterClient => manageExporterClientCert

/-- The certificate that each `ensure…Cert` builds in `st`, or its error: that of the service
`Get`, or the panic of a `nil` issuer reference. -/
def desiredCertificate (st : Store) (m : MySQL) : Purpose → Except GoError Certificate
  | .server =>
    let (dnsNames, ipAddresses, err) := getServiceHosts st m
    match err with
    | some e => .error e
    | none => m.issuerRef.map fun ref => serverCertificate m ref dnsNames ipAddresses
  | .client => m.issuerRef.map fun ref => clientCertificate m ref MySQLClientCertSuffix
  | .exporterClient => m.issuerRef.map fun ref => clientCertificate m ref MySQLExporterClientCertSuffix

/-- The key of a purpose's certificate and secret. -/
def certKey (m : MySQL) (p : Purpose) : ObjKey := (m.ns, certificateName m.name p.suffix)

variable {st st' : Store} {m : MySQL}

/-- Each `ensure…Cert` is `ensureCertificate` of its desired certificate. -/
theorem ensure_eq (p : Purpose) :
    p.ensure st m = (desiredCertificate st m p).map (ensureCertificate st) := by
  cases p
  · simp only [Purpose.ensure, ensureServerCert, desiredCertificate]
    obtain ⟨d, i, _ | e⟩ := getServiceHosts st m
    · cases m.issuerRef <;> rfl
    · rfl
  all_goals simp only [Purpose.ensure, ensureClientCert, ensureExporterClientCert, desiredCertificate]
  all_goals cases m.issuerRef <;> rfl

/-- Each `manage…Cert` is `manageCert` at its own `ensure…Cert` and suffix. -/
theorem manage_eq (p : Purpose) : ∃ cm pm, p.manage = manageCert p.ensure p.suffix cm pm := by
  cases p <;> exact ⟨_, _, rfl⟩

/-- The desired certificate of a purpose sits at the purpose's key and issues into the secret of
the purpose's name. -/
theorem desiredCertificate_name {p : Purpose} {cert : Certificate}
    (h : desiredCertificate st m p = .ok cert) :
    cert.objectMeta.key = certKey m p ∧ cert.spec.secretName = certificateName m.name p.suffix := by
  cases p <;> simp only [desiredCertificate] at h
  · generalize getServiceHosts st m = r at h
    rcases r with ⟨d, i, _ | e⟩
    · cases hr : m.issuerRef <;> rw [hr] at h <;> cases h
      exact ⟨rfl, rfl⟩
    · cases h
  all_goals cases hr : m.issuerRef <;> rw [hr] at h <;> cases h; exact ⟨rfl, rfl⟩

/-- The desired certificates read the store only through the services. -/
theorem desiredCertificate_congr (h : st'.services = st.services) (p : Purpose) :
    desiredCertificate st' m p = desiredCertificate st m p := by
  cases p <;> simp [desiredCertificate, getServiceHosts, h]

/-- The issuer check reads only the issuers. -/
theorem checkIssuer_congr (h₁ : st'.issuers = st.issuers)
    (h₂ : st'.clusterIssuers = st.clusterIssuers) : checkIssuer st' m = checkIssuer st m := by
  simp [checkIssuer, h₁, h₂]

/-- The three keys of an instance differ: `n-exporter` is never `n`. -/
theorem certKey_injective {p q : Purpose} (h : certKey m p = certKey m q) : p = q := by
  rcases certificateName_eq_iff.mp (congrArg Prod.snd h) with ⟨-, hpq⟩ | ⟨hn, -⟩ | ⟨hn, -⟩
  · exact hpq
  all_goals
    have hl := congrArg String.length hn
    have h9 : "-exporter".length = 9 := rfl
    simp only [String.length_append, h9] at hl
    omega

/-- A successful `manage…Cert` settles its purpose's key and writes no other. -/
theorem manage_ok (p : Purpose) (h : p.manage st m = .ok st') :
    Frame (certKey m p) st st' ∧
      ∃ cert, desiredCertificate st m p = .ok cert ∧ CertSettled (certKey m p) m cert st' := by
  obtain ⟨cm, pm, hm⟩ := manage_eq p
  rw [hm] at h
  cases hd : desiredCertificate st m p with
  | error e => simp [manageCert, ensure_eq, hd, bind, Except.bind, Except.map] at h
  | ok cert =>
    have hens : p.ensure st m = .ok (ensureCertificate st cert) := by rw [ensure_eq, hd]; rfl
    obtain ⟨hf, hs⟩ := manageCert_ok hens ((desiredCertificate_name hd).1) h
    exact ⟨hf, cert, rfl, hs⟩

/-- What a successful `manageTLS` of `m` leaves. -/
structure Settled (st : Store) (m : MySQL) : Prop where
  /-- The issuer exists. -/
  issuer : checkIssuer st m = .ok ()
  /-- Each purpose's certificate has its desired spec, and its secret settled owners. -/
  purpose : ∀ p, ∃ cert, desiredCertificate st m p = .ok cert ∧ CertSettled (certKey m p) m cert st

/-- A successful `manageTLS` leaves the store settled. -/
theorem manageTLS_settled (h : manageTLS st m = .ok st') : Settled st' m := by
  obtain ⟨u, hi, h⟩ := except_bind_eq_ok.mp h
  obtain ⟨st₁, h₁, h⟩ := except_bind_eq_ok.mp h
  obtain ⟨st₂, h₂, h₃⟩ := except_bind_eq_ok.mp h
  obtain ⟨f₁, c₁, d₁, s₁⟩ := manage_ok .server h₁
  obtain ⟨f₂, c₂, d₂, s₂⟩ := manage_ok .client h₂
  obtain ⟨f₃, c₃, d₃, s₃⟩ := manage_ok .exporterClient h₃
  have ne : ∀ p q, p ≠ q → certKey m p ≠ certKey m q := fun _ _ hpq h => hpq (certKey_injective h)
  have e₂ : st'.services = st₂.services := f₃.services
  have e₁ : st'.services = st₁.services := e₂.trans f₂.services
  refine ⟨?_, fun p => ?_⟩
  · rw [checkIssuer_congr (f₃.issuers.trans (f₂.issuers.trans f₁.issuers))
      (f₃.clusterIssuers.trans (f₂.clusterIssuers.trans f₁.clusterIssuers)), hi]
  · cases p
    · refine ⟨c₁, by rw [desiredCertificate_congr (e₁.trans f₁.services), d₁], ?_⟩
      exact (s₁.frame f₂ (ne _ _ (by decide))).frame f₃ (ne _ _ (by decide))
    · exact ⟨c₂, by rw [desiredCertificate_congr e₁, d₂], s₂.frame f₃ (ne _ _ (by decide))⟩
    · exact ⟨c₃, by rw [desiredCertificate_congr e₂, d₃], s₃⟩

/-- From a settled store, each `ensure…Cert` reports `unchanged`, each `manage…Cert` returns the
store as it is, and each ownership patch of an existing secret is empty. -/
theorem manage_of_settled (hs : Settled st m) (p : Purpose) :
    p.ensure st m = .ok (st, .unchanged) ∧ p.manage st m = .ok st ∧
      ∀ s, st.secrets (certKey m p) = some s →
        addOwnerReferenceToSecret st m { name := certificateName m.name p.suffix, ns := m.ns } =
          .ok (st, .unchanged) := by
  obtain ⟨cert, hd, ⟨c, hc, hspec⟩, hsec⟩ := hs.purpose p
  have hens : p.ensure st m = .ok (st, .unchanged) := by
    rw [ensure_eq, hd]
    exact congrArg Except.ok (ensureCertificate_of_spec (by rw [(desiredCertificate_name hd).1]; exact hc) hspec)
  obtain ⟨cm, pm, hm⟩ := manage_eq p
  refine ⟨hens, hm ▸ manageCert_of_settled hens hc (fun s hs => hsec c s hc hs), fun s hs' => ?_⟩
  exact addOwnerReferenceToSecret_of_fixed _ hc hs' (hsec c s hc hs')

/-- From a settled store, `manageTLS` returns the store as it is. -/
theorem manageTLS_of_settled (hs : Settled st m) : manageTLS st m = .ok st := by
  have h₁ : manageServerCert st m = .ok st := (manage_of_settled hs .server).2.1
  have h₂ : manageClientCert st m = .ok st := (manage_of_settled hs .client).2.1
  have h₃ : manageExporterClientCert st m = .ok st := (manage_of_settled hs .exporterClient).2.1
  simp only [manageTLS, hs.issuer, h₁, h₂, h₃, bind, Except.bind]

/-- An instance `db-0` in namespace `ns`, TLS-enabled with the cluster issuer `ca-issuer`. -/
def db0 : MySQL :=
  { name := "db-0", ns := "ns", uid := 1, labels := ∅,
    tls := { issuerRef := some ⟨"ca-issuer", ClusterIssuerKind⟩, certificate := none } }

/-- A store with `db-0`'s service behind a load balancer, the issuer, and a server secret that
cert-manager has issued already. -/
def db0Store : Store :=
  { issuers := [], clusterIssuers := ["ca-issuer"],
    services := fun k => if k = ("ns", "db-0") then some ⟨[⟨"10.0.0.1", ""⟩]⟩ else none,
    certificates := fun _ => none,
    secrets := fun k => if k = ("ns", "db-0-server") then
      some ⟨{ name := "db-0-server", ns := "ns" }, "kubernetes.io/tls", ∅⟩ else none,
    events := [], nextUID := 100 }

/-- Running `manageTLS` again on the store a successful run left changes nothing: it returns that
store, with no event added, each `ensure…Cert` reports `unchanged`, and the ownership patch of
each existing secret is empty. -/
theorem manageTLS_idempotent (h : manageTLS st m = .ok st') :
    manageTLS st' m = .ok st' ∧ (∀ p : Purpose, p.ensure st' m = .ok (st', .unchanged)) ∧
      ∀ (p : Purpose) (s : Secret), st'.secrets (certKey m p) = some s →
        addOwnerReferenceToSecret st' m { name := certificateName m.name p.suffix, ns := m.ns } =
          .ok (st', .unchanged) := by
  have hs := manageTLS_settled h
  exact ⟨manageTLS_of_settled hs, fun p => (manage_of_settled hs p).1,
    fun p => (manage_of_settled hs p).2.2⟩

/-- On `db-0` with its issued server secret, `manageTLS` succeeds, and a second run returns the
store the first left. -/
theorem manageTLS_idempotent_db0 :
    ∃ st', manageTLS db0Store db0 = .ok st' ∧ manageTLS st' db0 = .ok st' := by
  have hok : (manageTLS db0Store db0).toBool = true := by decide
  cases h : manageTLS db0Store db0 with
  | error e => rw [h] at hok; cases hok
  | ok st' => exact ⟨st', rfl, (manageTLS_idempotent h).1⟩

end MySQLOperator
