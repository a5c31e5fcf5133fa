import MySQLOperator.Certificates.Idempotence

/-!
# What the server certificate holds

`ensureServerCert` merges the service's load-balancer hosts and the operator's overrides into the
server certificate. The loop of `getServiceHosts` keeps, in order, every ingress host name, and the
IP address of every entry without one (`ingressHosts_eq`). The overrides are appended after them.
`ensureServerCert_spec` states the certificate that a successful call leaves, for every instance,
override set and ingress list.

Without overrides the IP addresses are `127.0.0.1` and the ingress addresses. With overrides the
source builds them as `append(dnsNames, IPAddresses...)`: the DNS names, already merged, followed
by the override addresses. That list loses `127.0.0.1` and the ingress addresses, and it holds
every DNS name; `ensureServerCert_drops_loopback` evaluates it on overrides that add nothing.
-/

namespace MySQLOperator

/-- The host names of the ingress entries that have one. -/
def ingressDNSNames (ingress : List LoadBalancerIngress) : List String :=
  (ingress.filter fun e => e.hostname ≠ "").map (·.hostname)

/-- The IP addresses of the ingress entries that have no host name. -/
def ingressIPAddresses (ingress : List LoadBalancerIngress) : List String :=
  (ingress.filter fun e => e.hostname = "" ∧ e.ip ≠ "").map (·.ip)

/-- The loop of `getServiceHosts` appends the ingress host names to the DNS names, and the other
entries' addresses to the IP addresses. -/
theorem ingressHosts_eq (ingress : List LoadBalancerIngress) (dnsNames ipAddresses : List String) :
    ingressHosts ingress (dnsNames, ipAddresses) =
      (dnsNames ++ ingressDNSNames ingress, ipAddresses ++ ingressIPAddresses ingress) := by
  induction ingress generalizing dnsNames ipAddresses with
  | nil => simp [ingressHosts, ingressDNSNames, ingressIPAddresses]
  | cons e rest ih =>
    by_cases h₁ : e.hostname = "" <;> by_cases h₂ : e.ip = "" <;>
      simp [ingressHosts, ingressDNSNames, ingressIPAddresses, ih, h₁, h₂, List.filter_cons]

/-- The overrides of an instance, empty when it has none. -/
def MySQL.overrides (m : MySQL) : CertificateOverrides :=
  m.tls.certificate.getD ⟨[], none, none, [], [], []⟩

/-- The server certificate's spec, from the issuer reference and the service's hosts `d` and `i`:
the IP addresses are `i` and the override addresses without overrides, and the DNS names and
override addresses with them. -/
theorem serverCertificate_spec (m : MySQL) (ref : IssuerRef) (d i : List String) :
    (serverCertificate m ref d i).spec =
      { commonName := getServiceURL m,
        organization := m.overrides.organization ++ ["kubedb:server"],
        duration := m.overrides.duration, renewBefore := m.overrides.renewBefore,
        dnsNames := d ++ m.overrides.dnsNames,
        ipAddresses := match m.tls.certificate with
          | none => i
          | some o => (d ++ o.dnsNames) ++ o.ipAddresses,
        uriSANs := m.overrides.uriSANs,
        secretName := certificateName m.name MySQLServerCertSuffix,
        issuerRef := ⟨ref.name, ref.kind⟩, isCA := false,
        usages := [.digitalSignature, .keyEncipherment, .serverAuth] } := by
  unfold serverCertificate MySQL.overrides
  cases m.tls.certificate <;> simp

/-- The instance `x` in namespace `ns`, with overrides that add nothing. -/
def overridden : MySQL :=
  { name := "x", ns := "ns", uid := 1, labels := ∅,
    tls := { issuerRef := some ⟨"ca", IssuerKind⟩, certificate := some ⟨[], none, none, [], [], []⟩ } }

/-- A store with `x`'s service, without load-balancer ingress, and no certificate yet. -/
def overriddenStore : Store :=
  { issuers := [("ns", "ca")], clusterIssuers := [],
    services := fun k => if k = ("ns", "x") then some ⟨[]⟩ else none,
    certificates := fun _ => none, secrets := fun _ => none, events := [], nextUID := 1 }

/-- What a successful `ensureServerCert` leaves at the server certificate's key, for every
instance, override set and ingress list: the common name is the service URL; the DNS names
are the service URL, `localhost`, the ingress host names and the override names; the organization
is the override organization and `kubedb:server`; and the IP addresses are `127.0.0.1` and the
ingress addresses without overrides, or the DNS names followed by the override addresses with
them. -/
theorem ensureServerCert_spec {st st' : Store} {m : MySQL} {v : Verb}
    (h : ensureServerCert st m = .ok (st', v)) :
    ∃ service c, st.services (m.ns, m.name) = some service ∧
      st'.certificates (certKey m .server) = some c ∧
      c.spec.commonName = getServiceURL m ∧
      c.spec.dnsNames = [getServiceURL m, "localhost"] ++ ingressDNSNames service.ingress ++
        m.overrides.dnsNames ∧
      c.spec.ipAddresses = (match m.tls.certificate with
        | none => ["127.0.0.1"] ++ ingressIPAddresses service.ingress
        | some o => c.spec.dnsNames ++ o.ipAddresses) ∧
      c.spec.organization = m.overrides.organization ++ ["kubedb:server"] ∧
      c.spec.usages = [.digitalSignature, .keyEncipherment, .serverAuth] := by
  cases hsvc : st.services (m.ns, m.name) with
  | none => simp [ensureServerCert, getServiceHosts, hsvc] at h
  | some service =>
    obtain ⟨ref, href⟩ : ∃ ref, m.issuerRef = .ok ref := by
      cases hr : m.issuerRef with
      | ok ref => exact ⟨ref, rfl⟩
      | error e => simp [ensureServerCert, getServiceHosts, hsvc, hr, bind, Except.bind] at h
    simp only [ensureServerCert, getServiceHosts, hsvc, ingressHosts_eq, href, bind, Except.bind,
      pure, Except.pure, Except.ok.injEq] at h
    obtain ⟨c, hc, hspec⟩ := ensureCertificate_self st
      (serverCertificate m ref ([getServiceURL m, "localhost"] ++ ingressDNSNames service.ingress)
        (["127.0.0.1"] ++ ingressIPAddresses service.ingress))
    rw [h] at hc
    rw [serverCertificate_spec] at hspec
    refine ⟨service, c, rfl, hc, ?_⟩
    rw [hspec]
    cases hcert : m.tls.certificate <;> simp [MySQL.overrides, hcert]

/-- With overrides that add no address, the server certificate of `x` lists its DNS names as its
IP addresses. -/
theorem ensureServerCert_spec_overridden :
    ∃ st' v service c, ensureServerCert overriddenStore overridden = .ok (st', v) ∧
      overriddenStore.services ("ns", "x") = some service ∧
      st'.certificates (certKey overridden .server) = some c ∧ c.spec.ipAddresses = c.spec.dnsNames := by
  obtain ⟨st', v, h⟩ : ∃ st' v, ensureServerCert overriddenStore overridden = .ok (st', v) :=
    ⟨_, _, rfl⟩
  obtain ⟨service, c, hs, hc, -, -, hip, -⟩ := ensureServerCert_spec h
  exact ⟨st', v, service, c, h, hs, hc, by simpa [overridden] using hip⟩

/-- With overrides on `x`, the server certificate's IP addresses are its two DNS names: the
loopback address `127.0.0.1` is not among them. -/
theorem ensureServerCert_drops_loopback :
    (match ensureServerCert overriddenStore overridden with
      | .ok (st, _) => (st.certificates ("ns", "x-server")).map (·.spec.ipAddresses)
      | .error _ => none) = some ["x.ns.svc", "localhost"] := by
  decide

end MySQLOperator
