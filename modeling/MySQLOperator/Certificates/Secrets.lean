import MySQLOperator.Certificates.Idempotence

/-!
# The secrets of the certificates

Two facts about the secrets that cert-manager issues and this core owns.

Naming: for each purpose, the certificate that `ensure…Cert` writes, its `secretName`, the only
secret that `manage…Cert` writes, and the secret that `checkTLSCerts` requires all have the name
`certificateName name suffix`. Across instances and purposes these names differ except for the
pair that `certificateName_eq_iff` names.

Owners: `EnsureOwnerReference` matches references by uid. On an existing secret whose references
have unique uids, with the certificate of the same name present, `AddOwnerReferenceToSecret`
leaves exactly one reference of the certificate's uid and exactly one, the controller reference,
of the instance's; it keeps every other reference and the uniqueness of uids, and a second call is
a no-op (`addOwnerReferenceToSecret_owners`). Uniqueness by kind and name is not kept: a stale
reference to an earlier certificate of the same name, of another uid, stays beside the new one
(`addOwnerReferenceToSecret_keeps_stale_owner`).
-/

namespace MySQLOperator

variable {st st' : Store} {m : MySQL}

/-- A statement about every purpose is one about each of the three. -/
theorem Purpose.forall_iff {P : Purpose → Prop} :
    (∀ p, P p) ↔ P .server ∧ P .client ∧ P .exporterClient :=
  ⟨fun h => ⟨h _, h _, h _⟩, fun ⟨h₁, h₂, h₃⟩ p => by cases p <;> assumption⟩

/-- `checkTLSCerts` succeeds exactly when the three secrets exist. -/
theorem checkTLSCerts_eq_ok (st : Store) (m : MySQL) :
    checkTLSCerts st m = .ok () ↔ ∀ p, (st.secrets (certKey m p)).isSome := by
  rw [Purpose.forall_iff]
  simp only [checkTLSCerts, getSecret, certKey, Purpose.suffix, bind, Except.bind]
  cases st.secrets (m.ns, certificateName m.name MySQLClientCertSuffix) <;>
    cases st.secrets (m.ns, certificateName m.name MySQLServerCertSuffix) <;>
    cases st.secrets (m.ns, certificateName m.name MySQLExporterClientCertSuffix) <;>
    simp [pure, Except.pure]

/-- Certificate and secret names collide only between the instance `n-exporter`'s client
certificate and `n`'s exporter client certificate. For each instance and purpose, the
certificate that `ensure…Cert` writes sits under the name `certificateName name suffix` and
issues into the secret of that name; `manage…Cert` writes no secret but that one; and
`checkTLSCerts` requires exactly the three secrets of those names. -/
theorem certificateName_collisions_and_agreement :
    (∀ (n₁ n₂ : String) (p₁ p₂ : Purpose),
      certificateName n₁ p₁.suffix = certificateName n₂ p₂.suffix ↔
        (n₁ = n₂ ∧ p₁ = p₂) ∨
          (n₁ = n₂ ++ "-exporter" ∧ p₁ = .client ∧ p₂ = .exporterClient) ∨
          (n₂ = n₁ ++ "-exporter" ∧ p₁ = .exporterClient ∧ p₂ = .client)) ∧
    (∀ (st st' : Store) (m : MySQL) (p : Purpose) (v : Verb), p.ensure st m = .ok (st', v) →
      ∃ c, st'.certificates (m.ns, certificateName m.name p.suffix) = some c ∧
        c.spec.secretName = certificateName m.name p.suffix) ∧
    (∀ (st st' : Store) (m : MySQL) (p : Purpose), p.manage st m = .ok st' →
      ∀ k, k ≠ (m.ns, certificateName m.name p.suffix) → st'.secrets k = st.secrets k) ∧
    (∀ (st : Store) (m : MySQL), checkTLSCerts st m = .ok () ↔
      ∀ p : Purpose, (st.secrets (m.ns, certificateName m.name p.suffix)).isSome) := by
  refine ⟨fun _ _ _ _ => certificateName_eq_iff, ?_, ?_, checkTLSCerts_eq_ok⟩
  · intro st st' m p v h
    rw [ensure_eq] at h
    cases hd : desiredCertificate st m p with
    | error e => simp [hd, Except.map] at h
    | ok cert =>
      simp only [hd, Except.map, Except.ok.injEq] at h
      obtain ⟨c, hc, hspec⟩ := ensureCertificate_self st cert
      rw [h, (desiredCertificate_name hd).1] at hc
      exact ⟨c, hc, hspec ▸ (desiredCertificate_name hd).2⟩
  · intro st st' m p h
    exact (manage_ok p h).1.secrets

/-- `x-exporter` and `x` are both valid instance names, and the client certificate of the first has
the name of the exporter client certificate of the second. -/
theorem certificateName_collision :
    isDNS1123Label "x-exporter" = true ∧ isDNS1123Label "x" = true ∧
      ("x-exporter", Purpose.client) ≠ ("x", Purpose.exporterClient) ∧
      certificateName "x-exporter" Purpose.client.suffix =
        certificateName "x" Purpose.exporterClient.suffix := by
  decide

/-- The meta by which `manageServerCert` of `db-0` names its secret. -/
def db0ServerMeta : ObjectMeta := { name := "db-0-server", ns := "ns" }

/-- `db-0`'s server certificate, with uid 7. -/
def db0ServerCertificate : Certificate := ⟨{ name := "db-0-server", ns := "ns", uid := 7 }, default⟩

/-- `db-0`'s server secret with a stale reference to an earlier certificate of that name, of
uid 3, and a reference to another owner. -/
def db0StaleSecret : Secret :=
  { objectMeta :=
      { name := "db-0-server", ns := "ns",
        ownerReferences :=
          [⟨"cert-manager.io/v1alpha2", CertificateKind, "db-0-server", 3, false, false⟩,
            ⟨"v1", "ConfigMap", "other", 5, false, false⟩] },
    type := "kubernetes.io/tls", data := ∅ }

/-- A store that holds the two. -/
def ownedStore : Store :=
  { issuers := [], clusterIssuers := ["ca-issuer"], services := fun _ => none,
    certificates := fun k => if k = ("ns", "db-0-server") then some db0ServerCertificate else none,
    secrets := fun k => if k = ("ns", "db-0-server") then some db0StaleSecret else none,
    events := [], nextUID := 100 }

/-- On an existing secret whose references have unique uids, with the certificate of the same name
present and of a uid other than the instance's, a successful `AddOwnerReferenceToSecret` leaves
exactly one reference of the certificate's uid, the certificate's, and exactly one of the
instance's, its controller reference; it keeps every other reference and the uniqueness of uids;
and calling it again changes nothing. -/
theorem addOwnerReferenceToSecret_owners {meta : ObjectMeta} {c : Certificate} {s : Secret}
    {v : Verb} (hc : st.certificates meta.key = some c) (hs : st.secrets meta.key = some s)
    (hnd : NoDupUIDs s.objectMeta.ownerReferences) (huid : c.objectMeta.uid ≠ m.uid)
    (h : addOwnerReferenceToSecret st m meta = .ok (st', v)) :
    ∃ s', st'.secrets meta.key = some s' ∧
      s'.objectMeta.ownerReferences.filter (fun r => r.uid = c.objectMeta.uid) = [newOwnerRef c] ∧
      s'.objectMeta.ownerReferences.filter (fun r => r.uid = m.uid) = [newControllerRef m] ∧
      (newControllerRef m).controller = true ∧
      (∀ r ∈ s.objectMeta.ownerReferences, r.uid ≠ c.objectMeta.uid → r.uid ≠ m.uid →
        r ∈ s'.objectMeta.ownerReferences) ∧
      NoDupUIDs s'.objectMeta.ownerReferences ∧
      addOwnerReferenceToSecret st' m meta = .ok (st', .unchanged) := by
  rw [addOwnerReferenceToSecret_of_some meta hc, Except.ok.injEq] at h
  obtain rfl := congrArg Prod.fst h
  have hs' : (createOrPatchSecret st meta (addOwners (newOwnerRef c) (newControllerRef m))).1.secrets
      meta.key = some (addOwners (newOwnerRef c) (newControllerRef m) s) := by
    simp only [createOrPatchSecret, createOrPatch_fst_self, hs, Option.getD_some]
  have hnd₁ := noDupUIDs_ensureOwnerReference hnd (newOwnerRef c)
  have hcert : (ensureOwnerReference (ensureOwnerReference s.objectMeta.ownerReferences
      (newOwnerRef c)) (newControllerRef m)).filter (fun r => r.uid = (newOwnerRef c).uid) =
        [newOwnerRef c] := by
    rw [filter_ensureOwnerReference_of_ne _ (Ne.symm huid), filter_ensureOwnerReference hnd]
  exact ⟨_, hs', hcert, filter_ensureOwnerReference hnd₁ (newControllerRef m), rfl,
    fun r hr h₁ h₂ => mem_ensureOwnerReference (mem_ensureOwnerReference hr h₁) h₂,
    noDupUIDs_ensureOwnerReference hnd₁ _,
    addOwnerReferenceToSecret_of_fixed meta hc hs' (addOwners_addOwners _ _ s)⟩

/-- The certificate `db-0-server` and `db-0` have different uids, and the stale secret's references
have unique uids. -/
theorem addOwnerReferenceToSecret_owners_db0 :
    ∃ st' v s', addOwnerReferenceToSecret ownedStore db0 db0ServerMeta = .ok (st', v) ∧
      st'.secrets db0ServerMeta.key = some s' ∧
      s'.objectMeta.ownerReferences.filter (fun r => r.uid = db0.uid) = [newControllerRef db0] := by
  have hc : ownedStore.certificates db0ServerMeta.key = some db0ServerCertificate := rfl
  have hs : ownedStore.secrets db0ServerMeta.key = some db0StaleSecret := rfl
  have h : addOwnerReferenceToSecret ownedStore db0 db0ServerMeta = _ :=
    addOwnerReferenceToSecret_of_some db0ServerMeta hc
  obtain ⟨s', hs', -, h₂, -⟩ :=
    addOwnerReferenceToSecret_owners hc hs (by unfold NoDupUIDs; decide) (by decide) h
  exact ⟨_, _, s', h, hs', h₂⟩

/-- Owners are matched by uid, not by kind and name: on `db0StaleSecret`, whose owners are unique
by kind and name, `AddOwnerReferenceToSecret` keeps the stale reference to the certificate
`db-0-server` of uid 3 and appends the certificate's own, so the secret names that certificate
twice. -/
theorem addOwnerReferenceToSecret_keeps_stale_owner :
    NoDupOwners db0StaleSecret.objectMeta.ownerReferences ∧
      ∃ st' v s', addOwnerReferenceToSecret ownedStore db0 db0ServerMeta = .ok (st', v) ∧
        st'.secrets db0ServerMeta.key = some s' ∧
        s'.objectMeta.ownerReferences = db0StaleSecret.objectMeta.ownerReferences ++
          [newOwnerRef db0ServerCertificate, newControllerRef db0] ∧
        ¬ NoDupOwners s'.objectMeta.ownerReferences :=
  ⟨by unfold NoDupOwners; decide, _, _, _, rfl, rfl, rfl, by unfold NoDupOwners; decide⟩

end MySQLOperator
