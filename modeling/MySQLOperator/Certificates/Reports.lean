import MySQLOperator.Certificates.Instances

/-!
# What the certificate reconcile reports

`manageTLS` reports to its caller by its error, and to the cluster's users by events.

Its errors have four sources: the read of a `nil` issuer reference, a panic; the issuer check;
the `Get` of the instance's service in `ensureServerCert`; and the `Get` of the certificate in
`AddOwnerReferenceToSecret`. The issuer check reads the reference first, so the later reads in
`ensure…Cert` never find it `nil`, and a panic is only ever that first read
(`tlsError_eq_panic_iff`). The `Get` of the certificate never fails: it gets the certificate that
`ensure…Cert` has just created or patched at the same key (`manageCert_isOk`). The other sources
read the instance, the issuers and the services, which no step writes, and all come before the
first write. So the error of `manageTLS` is a function of what it reads, `tlsError`
(`manageTLS_eq_error`), and a pass over many instances fails exactly with the error of the first
instance whose `tlsError` is set on the store the pass started from (`manageAll_eq_error`): what
the earlier instances wrote does not matter.

Its events: each `manage…Cert` records one `Normal`, `Successful` event when its certificate was
created or patched, and none when it was unchanged. Since `createOrPatch` reports `unchanged`
exactly when it writes nothing (`createOrPatch_unchanged_iff`), and each pass writes its own key,
a `manageTLS` records, in the order server, client, exporter client, one event for each of the
instance's certificates that it changes and none for the others (`manageTLS_events`).
-/

namespace MySQLOperator

/-- The error `manageTLS` meets on `st`, from the objects it reads and never writes: the issuer
check first, with the panic of a `nil` issuer reference, then the `Get` of the instance's
service. -/
def tlsError (st : Store) (m : MySQL) : Option GoError :=
  match checkIssuer st m with
  | .error e => some e
  | .ok () => if (st.services (m.ns, m.name)).isNone then some (.notFound "services" m.name) else none

/-- `tlsError` reads only the issuers, the cluster issuers and the services. -/
theorem tlsError_congr {st st' : Store} (m : MySQL) (h₁ : st'.issuers = st.issuers)
    (h₂ : st'.clusterIssuers = st.clusterIssuers) (h₃ : st'.services = st.services) :
    tlsError st' m = tlsError st m := by
  simp only [tlsError, checkIssuer_congr h₁ h₂, h₃]

/-- The only panic that `tlsError` finds is the read of a `nil` issuer reference. -/
theorem tlsError_eq_panic_iff (st : Store) (m : MySQL) (t : String) :
    tlsError st m = some (.panic t) ↔
      m.tls.issuerRef = none ∧ GoError.panic t = nilPointerDereference := by
  cases hr : m.tls.issuerRef with
  | none => simp [tlsError, checkIssuer, MySQL.issuerRef, hr, bind, Except.bind, eq_comm]
  | some ref =>
    simp only [tlsError, checkIssuer, MySQL.issuerRef, hr, bind, Except.bind, reduceCtorEq,
      false_and, iff_false]
    split_ifs <;> simp

variable {ensure : Store → MySQL → Except GoError (Store × Verb)} {suffix cm pm : String}

/-- A `manageCert` whose `ensure` ensured a certificate at its own key succeeds: the
`AddOwnerReferenceToSecret` after it finds that certificate. -/
theorem manageCert_isOk {st : Store} {m : MySQL} {cert : Certificate}
    (hens : ensure st m = .ok (ensureCertificate st cert))
    (hkey : cert.objectMeta.key = (m.ns, certificateName m.name suffix)) :
    ∃ st', manageCert ensure suffix cm pm st m = .ok st' := by
  obtain ⟨c, hc, -⟩ := ensureCertificate_self st cert
  rw [hkey] at hc
  simp only [manageCert, hens, bind, Except.bind]
  split
  · have hc₁ : (recordVerb (ensureCertificate st cert).1 m cm pm (ensureCertificate st cert).2).certificates
        (m.ns, certificateName m.name suffix) = some c := by
      cases (ensureCertificate st cert).2 <;> exact hc
    rw [addOwnerReferenceToSecret_of_some { name := certificateName m.name suffix, ns := m.ns } hc₁]
    exact ⟨_, rfl⟩
  · exact ⟨_, rfl⟩

/-- An issuer check that passes has read a non-`nil` issuer reference. -/
theorem issuerRef_of_checkIssuer {st : Store} {m : MySQL} (h : checkIssuer st m = .ok ()) :
    ∃ ref, m.issuerRef = .ok ref := by
  cases hr : m.issuerRef with
  | ok ref => exact ⟨ref, rfl⟩
  | error e => simp [checkIssuer, hr, bind, Except.bind] at h

/-- Without the instance's service, the server certificate cannot be built. -/
theorem desiredCertificate_of_service {st : Store} {m : MySQL}
    (hs : st.services (m.ns, m.name) = none) :
    desiredCertificate st m .server = .error (.notFound "services" m.name) := by
  simp [desiredCertificate, getServiceHosts, hs]

/-- With a non-`nil` issuer reference, every certificate can be built, the server certificate once
the instance's service is there. -/
theorem desiredCertificate_isOk {st : Store} {m : MySQL} {ref : IssuerRef}
    (hr : m.issuerRef = .ok ref) (p : Purpose) (hs : p = .server → (st.services (m.ns, m.name)).isSome) :
    ∃ c, desiredCertificate st m p = .ok c := by
  cases p
  · obtain ⟨svc, hsvc⟩ := Option.isSome_iff_exists.mp (hs rfl)
    simp [desiredCertificate, getServiceHosts, hsvc, hr, Except.map]
  all_goals simp [desiredCertificate, hr, Except.map]

/-- With a non-`nil` issuer reference, every `manage…Cert` succeeds, the server one once the
instance's service is there. -/
theorem manage_isOk (p : Purpose) {st : Store} {m : MySQL} {ref : IssuerRef}
    (hr : m.issuerRef = .ok ref) (hs : p = .server → (st.services (m.ns, m.name)).isSome) :
    ∃ st', p.manage st m = .ok st' := by
  obtain ⟨cert, hd⟩ := desiredCertificate_isOk hr p hs
  obtain ⟨cm, pm, hm⟩ := manage_eq p
  rw [hm]
  exact manageCert_isOk (by rw [ensure_eq, hd]; rfl) (desiredCertificate_name hd).1

/-- A `manage…Cert` whose desired certificate cannot be built fails with the same error. -/
theorem manage_of_error (p : Purpose) {st : Store} {m : MySQL} {e : GoError}
    (hd : desiredCertificate st m p = .error e) : p.manage st m = .error e := by
  obtain ⟨cm, pm, hm⟩ := manage_eq p
  simp [hm, manageCert, ensure_eq, hd, bind, Except.bind, Except.map]

/-- `manageTLS` succeeds when the issuer exists and so does the instance's service. -/
theorem manageTLS_isOk {st : Store} {m : MySQL} (hi : checkIssuer st m = .ok ())
    (hs : (st.services (m.ns, m.name)).isSome) : ∃ st', manageTLS st m = .ok st' := by
  obtain ⟨ref, hr⟩ := issuerRef_of_checkIssuer hi
  obtain ⟨st₁, h₁⟩ : ∃ st₁, manageServerCert st m = .ok st₁ := manage_isOk .server hr fun _ => hs
  obtain ⟨st₂, h₂⟩ : ∃ st₂, manageClientCert st₁ m = .ok st₂ := manage_isOk .client hr (by simp)
  obtain ⟨st₃, h₃⟩ : ∃ st₃, manageExporterClientCert st₂ m = .ok st₃ :=
    manage_isOk .exporterClient hr (by simp)
  exact ⟨st₃, by simp only [manageTLS, hi, h₁, h₂, h₃, bind, Except.bind]⟩

/-- `manageTLS` fails exactly with `tlsError`: the `NotFound` of a certificate in
`AddOwnerReferenceToSecret` never escapes. -/
theorem manageTLS_eq_error (st : Store) (m : MySQL) (e : GoError) :
    manageTLS st m = .error e ↔ tlsError st m = some e := by
  cases hi : checkIssuer st m with
  | error e' => simp [manageTLS, tlsError, hi, bind, Except.bind]
  | ok u =>
    cases hs : st.services (m.ns, m.name) with
    | none =>
      have h₁ : manageServerCert st m = .error (.notFound "services" m.name) :=
        manage_of_error .server (desiredCertificate_of_service hs)
      simp [manageTLS, tlsError, hi, hs, h₁, bind, Except.bind, eq_comm]
    | some svc =>
      obtain ⟨st', h⟩ := manageTLS_isOk hi (by simp [hs])
      simp [tlsError, hi, hs, h]

/-- A pass over instances fails exactly with the error of the first instance that `tlsError` finds
on the store the pass started from, a `nil` issuer reference's panic included, and succeeds when
there is none. -/
theorem manageAll_eq_error (st : Store) (ms : List MySQL) (e : GoError) :
    manageAll st ms = .error e ↔ ms.findSome? (tlsError st) = some e := by
  induction ms generalizing st with
  | nil => simp [manageAll]
  | cons m ms ih =>
    cases h : manageTLS st m with
    | error e' =>
      have he : tlsError st m = some e' := (manageTLS_eq_error st m e').mp h
      simp [manageAll, h, he, bind, Except.bind]
    | ok st₁ =>
      have hn : tlsError st m = none := by
        cases he : tlsError st m with
        | none => rfl
        | some e' => cases h.symm.trans ((manageTLS_eq_error st m e').mpr he)
      have hf := manageTLS_frame h
      have hread : tlsError st₁ = tlsError st :=
        funext fun m' => tlsError_congr m' hf.issuers hf.clusterIssuers hf.services
      simp only [manageAll, h, bind, Except.bind, List.findSome?_cons, hn]
      rw [ih, hread]

/-- On `db0Store`, `db-0` has its service and `db-1` has none: a pass over both stops at `db-1`. -/
example : [db0, db1].findSome? (tlsError db0Store) = some (.notFound "services" "db-1") := by
  decide

/-- A pass over `db-0` and an instance whose issuer reference is `nil` panics at the latter. -/
example : [db0, { db1 with tls := { issuerRef := none, certificate := none } }].findSome?
    (tlsError db0Store) = some nilPointerDereference := by
  decide

/-! ## The events -/

/-- `createOrPatch` reports `unchanged` exactly when it leaves the objects as they were. -/
theorem createOrPatch_unchanged_iff {α : Type} [DecidableEq α] {objs : ObjKey → Option α} {key : ObjKey}
    {fresh : α} {transform : α → α} :
    (createOrPatch objs key fresh transform).2 = .unchanged ↔
      (createOrPatch objs key fresh transform).1 = objs := by
  unfold createOrPatch
  cases h : objs key with
  | none =>
    refine ⟨fun hv => (by cases hv), fun he => ?_⟩
    have hk := congrFun he key
    simp [h] at hk
  | some cur =>
    simp only
    split_ifs with hfix
    · exact ⟨fun _ => rfl, fun _ => rfl⟩
    · refine ⟨fun hv => (by cases hv), fun he => ?_⟩
      have hk := congrFun he key
      simp only [Function.update_same, h, Option.some.injEq] at hk
      exact absurd hk.symm hfix

/-- An event of a pass of `m`: `Normal`, `Successful`, about the instance. -/
def Event.OfPass (m : MySQL) (ev : Event) : Prop :=
  ev.involvedObject = m.name ∧ ev.type = EventTypeNormal ∧ ev.reason = EventReasonSuccessful

/-- `recordVerb` records one event of the pass for a created or a patched certificate, and none
for an unchanged one. -/
theorem recordVerb_events (st : Store) (m : MySQL) (cm pm : String) (v : Verb) :
    ∃ new, (recordVerb st m cm pm v).events = st.events ++ new ∧ new.length ≤ 1 ∧
      (∀ ev ∈ new, ev.OfPass m) ∧ (new = [] ↔ v = .unchanged) := by
  cases v
  · exact ⟨[], (List.append_nil _).symm, by simp, by simp, by simp⟩
  all_goals
    exact ⟨[_], rfl, by simp, fun ev hev => by
      rw [List.mem_singleton.mp hev]; exact ⟨rfl, rfl, rfl⟩, by simp⟩

/-- `AddOwnerReferenceToSecret` records no event and writes no certificate. -/
theorem addOwnerReferenceToSecret_events {meta : ObjectMeta} {v : Verb}
    (h : addOwnerReferenceToSecret st m meta = .ok (st', v)) :
    st'.events = st.events ∧ st'.certificates = st.certificates := by
  unfold addOwnerReferenceToSecret at h
  split at h
  · cases h
  · cases h
    exact ⟨rfl, rfl⟩

/-- Across a step that writes only at `key`, the certificates are unchanged exactly when the one at
`key` is. -/
theorem Frame.certificates_eq_iff {key : ObjKey} (hf : Frame key st st') :
    st'.certificates = st.certificates ↔ st'.certificates key = st.certificates key :=
  ⟨fun h => congrFun h key, fun h => funext fun k => by
    by_cases hk : k = key
    · subst hk; exact h
    · exact hf.certificates k hk⟩

/-- A successful `manage…Cert` records at most one event of the pass, and records one exactly when
it changes its certificate. -/
theorem manage_events (p : Purpose) (h : p.manage st m = .ok st') :
    ∃ new, st'.events = st.events ++ new ∧ new.length ≤ 1 ∧ (∀ ev ∈ new, ev.OfPass m) ∧
      (new = [] ↔ st'.certificates (certKey m p) = st.certificates (certKey m p)) := by
  have hf := (manage_ok p h).1
  obtain ⟨cert, hd⟩ : ∃ cert, desiredCertificate st m p = .ok cert := by
    cases hd : desiredCertificate st m p with
    | ok c => exact ⟨c, rfl⟩
    | error e => rw [manage_of_error p hd] at h; cases h
  obtain ⟨cm, pm, hm⟩ := manage_eq p
  rw [hm] at h
  have hens : p.ensure st m = .ok (ensureCertificate st cert) := by rw [ensure_eq, hd]; rfl
  simp only [manageCert, hens, bind, Except.bind] at h
  generalize hr : ensureCertificate st cert = r at h
  obtain ⟨new, hev, hlen, hof, hnew⟩ := recordVerb_events r.1 m cm pm r.2
  have hcert : (recordVerb r.1 m cm pm r.2).certificates = r.1.certificates := by cases r.2 <;> rfl
  -- the secret step adds no event and writes no certificate
  have hst' : st'.events = (recordVerb r.1 m cm pm r.2).events ∧
      st'.certificates = (recordVerb r.1 m cm pm r.2).certificates := by
    split at h
    · obtain ⟨⟨st₃, v⟩, h₂, h₃⟩ := except_bind_eq_ok.mp h
      cases h₃
      exact addOwnerReferenceToSecret_events h₂
    · cases h
      exact ⟨rfl, rfl⟩
  refine ⟨new, by rw [hst'.1, hev, ← hr]; rfl, hlen, hof, ?_⟩
  rw [← hf.certificates_eq_iff, hnew, hst'.2, hcert, ← hr]
  exact createOrPatch_unchanged_iff

/-- A successful `manageTLS` records, in the order server, client, exporter client, one event for
each of the instance's certificates that it creates or patches and none for one it leaves; each
event is `Normal` and `Successful` about the instance. -/
theorem manageTLS_events (h : manageTLS st m = .ok st') :
    ∃ new : Purpose → List Event,
      st'.events = st.events ++ new .server ++ new .client ++ new .exporterClient ∧
      ∀ p, (new p).length ≤ 1 ∧ (∀ ev ∈ new p, ev.OfPass m) ∧
        (new p = [] ↔ st'.certificates (certKey m p) = st.certificates (certKey m p)) := by
  obtain ⟨-, -, h⟩ := except_bind_eq_ok.mp h
  obtain ⟨st₁, h₁, h⟩ := except_bind_eq_ok.mp h
  obtain ⟨st₂, h₂, h₃⟩ := except_bind_eq_ok.mp h
  obtain ⟨n₁, e₁, l₁, o₁, c₁⟩ := manage_events .server h₁
  obtain ⟨n₂, e₂, l₂, o₂, c₂⟩ := manage_events .client h₂
  obtain ⟨n₃, e₃, l₃, o₃, c₃⟩ := manage_events .exporterClient h₃
  obtain ⟨f₁, -⟩ := manage_ok .server h₁
  obtain ⟨f₂, -⟩ := manage_ok .client h₂
  obtain ⟨f₃, -⟩ := manage_ok .exporterClient h₃
  -- each pass writes only its own key, which the other passes leave
  have k₁₂ : certKey m .server ≠ certKey m .client := fun h => by cases certKey_injective h
  have k₁₃ : certKey m .server ≠ certKey m .exporterClient := fun h => by cases certKey_injective h
  have k₂₃ : certKey m .client ≠ certKey m .exporterClient := fun h => by cases certKey_injective h
  refine ⟨fun | .server => n₁ | .client => n₂ | .exporterClient => n₃,
    by simp only [e₃, e₂, e₁, List.append_assoc], fun p => ?_⟩
  cases p
  · exact ⟨l₁, o₁, by rw [c₁, f₃.certificates _ k₁₃, f₂.certificates _ k₁₂]⟩
  · exact ⟨l₂, o₂, by rw [c₂, f₃.certificates _ k₂₃, f₁.certificates _ k₁₂.symm]⟩
  · exact ⟨l₃, o₃, by rw [c₃, f₂.certificates _ k₂₃.symm, f₁.certificates _ k₁₃.symm]⟩

/-- The pass over `db-0` on `db0Store` succeeds. -/
theorem manageTLS_events_db0 :
    ∃ st', manageTLS db0Store db0 = .ok st' ∧ ∃ new : Purpose → List Event,
      st'.events = db0Store.events ++ new .server ++ new .client ++ new .exporterClient ∧
      ∀ p, (new p).length ≤ 1 ∧ (∀ ev ∈ new p, ev.OfPass db0) ∧
        (new p = [] ↔ st'.certificates (certKey db0 p) = db0Store.certificates (certKey db0 p)) := by
  have hok : (manageTLS db0Store db0).toBool = true := by decide
  cases h : manageTLS db0Store db0 with
  | error e => rw [h] at hok; cases hok
  | ok st' => exact ⟨st', rfl, manageTLS_events h⟩

end MySQLOperator
