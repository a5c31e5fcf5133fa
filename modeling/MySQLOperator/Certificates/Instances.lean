import MySQLOperator.Certificates.Secrets

/-!
# Many instances on one store

The operator calls `manageTLS` for every TLS-enabled `MySQL` it reconciles, one after another, on
the same objects, here with no other party acting in between. A pass of `manageTLS` writes only
the certificates and secrets at its instance's three keys (`manageTLS_frame`), and there it creates
no secret, deletes none, and changes the type and data of none: only their owners
(`manageTLS_keeps_issued`), so whether the secrets that `checkTLSCerts` asks for exist is not
changed by the pass. (`Race.lean` shows that with a deletion in between, the pass can create one.)
A pass keeps settled every other instance whose keys are apart from those
(`Settled.of_tlsFrame`). A pass over instances whose keys are pairwise apart therefore leaves
all of them settled, and a second pass changes nothing (`manageAll_idempotent`). Two instances
named `n` and `n-exporter` in one namespace are not apart: the exporter client certificate of `n`
is the client certificate of `n-exporter`. Two instances that share a key but want different specs
there are never settled together, so no store is left as it is by the passes of both
(`manageTLS_no_common_fixpoint`): their reconciles rewrite the shared certificate forever.
-/

namespace MySQLOperator

/-- A pass of the operator over TLS-enabled instances: each is reconciled by `manageTLS` on the
store the previous one left, and the first error ends the pass. -/
def manageAll (st : Store) : List MySQL → Except GoError Store
  | [] => .ok st
  | m :: ms => manageTLS st m >>= fun st => manageAll st ms

/-- No certificate or secret key of `m₁` is one of `m₂`. -/
def CertKeysApart (m₁ m₂ : MySQL) : Prop := ∀ p q, certKey m₁ p ≠ certKey m₂ q

/-- `st'` differs from `st` at most in the certificates and secrets at `m`'s three keys, the events
and the next uid. -/
structure TLSFrame (m : MySQL) (st st' : Store) : Prop where
  issuers : st'.issuers = st.issuers
  clusterIssuers : st'.clusterIssuers = st.clusterIssuers
  services : st'.services = st.services
  certificates : ∀ k, (∀ p, k ≠ certKey m p) → st'.certificates k = st.certificates k
  secrets : ∀ k, (∀ p, k ≠ certKey m p) → st'.secrets k = st.secrets k

variable {st st' : Store} {m m' : MySQL}

/-- A pass of `manageTLS` writes only at its instance's three keys. -/
theorem manageTLS_frame (h : manageTLS st m = .ok st') : TLSFrame m st st' := by
  obtain ⟨-, -, h⟩ := except_bind_eq_ok.mp h
  obtain ⟨st₁, h₁, h⟩ := except_bind_eq_ok.mp h
  obtain ⟨st₂, h₂, h₃⟩ := except_bind_eq_ok.mp h
  obtain ⟨f₁, -⟩ := manage_ok .server h₁
  obtain ⟨f₂, -⟩ := manage_ok .client h₂
  obtain ⟨f₃, -⟩ := manage_ok .exporterClient h₃
  exact ⟨f₃.issuers.trans (f₂.issuers.trans f₁.issuers),
    f₃.clusterIssuers.trans (f₂.clusterIssuers.trans f₁.clusterIssuers),
    f₃.services.trans (f₂.services.trans f₁.services),
    fun k hk => (f₃.certificates k (hk _)).trans ((f₂.certificates k (hk _)).trans (f₁.certificates k (hk _))),
    fun k hk => (f₃.secrets k (hk _)).trans ((f₂.secrets k (hk _)).trans (f₁.secrets k (hk _)))⟩

/-- What is settled at a key stays settled while the certificate and the secret there stay. -/
theorem CertSettled.congr {k : ObjKey} {cert : Certificate} (h : CertSettled k m cert st)
    (hc : st'.certificates k = st.certificates k) (hs : st'.secrets k = st.secrets k) :
    CertSettled k m cert st' :=
  ⟨hc ▸ h.certificate, fun c s hc' hs' => h.secret c s (hc ▸ hc') (hs ▸ hs')⟩

/-- An instance stays settled across a pass of another instance whose keys are apart from its. -/
theorem Settled.of_tlsFrame (hs : Settled st m) (hf : TLSFrame m' st st') (hd : CertKeysApart m m') :
    Settled st' m := by
  refine ⟨by rw [checkIssuer_congr hf.issuers hf.clusterIssuers]; exact hs.issuer, fun p => ?_⟩
  obtain ⟨cert, hdes, hc⟩ := hs.purpose p
  exact ⟨cert, by rw [desiredCertificate_congr hf.services]; exact hdes,
    hc.congr (hf.certificates _ (hd p)) (hf.secrets _ (hd p))⟩

/-- The type and the data of a secret: what cert-manager issued into it. -/
def Secret.issued (s : Secret) : String × StrMap := (s.type, s.data)

/-- `CreateOrPatch…` of an existing object, with a transform that keeps what `f` reads, keeps what
`f` reads of every object, and creates or deletes none. -/
theorem createOrPatch_map {α β : Type} [DecidableEq α] {objs : ObjKey → Option α} {key : ObjKey}
    {fresh cur : α} {transform : α → α} (h : objs key = some cur) (f : α → β)
    (hf : ∀ x, f (transform x) = f x) (k : ObjKey) :
    ((createOrPatch objs key fresh transform).1 k).map f = (objs k).map f := by
  by_cases hk : k = key
  · subst hk
    simp [createOrPatch_fst_self, h, hf]
  · rw [createOrPatch_fst_of_ne hk]

/-- A `manageCert` whose `ensure` writes no secret keeps every secret's presence, type and
data: it only adds owners to a secret that exists. -/
theorem manageCert_keeps_issued {ensure : Store → MySQL → Except GoError (Store × Verb)}
    {suffix cm pm : String} (hens : ∀ r, ensure st m = .ok r → r.1.secrets = st.secrets)
    (h : manageCert ensure suffix cm pm st m = .ok st') (k : ObjKey) :
    (st'.secrets k).map Secret.issued = (st.secrets k).map Secret.issued := by
  obtain ⟨⟨st₁, v⟩, h₁, h⟩ := except_bind_eq_ok.mp h
  have hs₁ : (recordVerb st₁ m cm pm v).secrets = st.secrets := by cases v <;> exact hens _ h₁
  simp only at h
  generalize recordVerb st₁ m cm pm v = st₂ at h hs₁
  split at h
  · next hex =>
    obtain ⟨⟨st₃, _⟩, h₂, h₃⟩ := except_bind_eq_ok.mp h
    obtain ⟨cur, hcur⟩ := Option.isSome_iff_exists.mp hex
    simp only [addOwnerReferenceToSecret] at h₂
    split at h₂
    · cases h₂
    · obtain rfl : st₃ = st' := Except.ok.inj h₃
      obtain rfl := (Prod.mk.inj (Except.ok.inj h₂)).1
      rw [← hs₁]
      refine createOrPatch_map hcur Secret.issued (fun _ => ?_) k
      rfl
  · obtain rfl : st₂ = st' := Except.ok.inj h
    rw [hs₁]

/-- Each `manage…Cert` keeps every secret's presence, type and data. -/
theorem manage_keeps_issued (p : Purpose) (h : p.manage st m = .ok st') (k : ObjKey) :
    (st'.secrets k).map Secret.issued = (st.secrets k).map Secret.issued := by
  obtain ⟨cm, pm, hm⟩ := manage_eq p
  rw [hm] at h
  refine manageCert_keeps_issued (fun r hr => ?_) h k
  rw [ensure_eq] at hr
  cases hd : desiredCertificate st m p with
  | error e => simp [hd, Except.map] at hr
  | ok cert =>
    simp only [hd, Except.map, Except.ok.injEq] at hr
    subst hr
    rfl

/-- Run with no other party acting on the store, a successful `manageTLS` creates no secret,
deletes none, and changes no secret's type or data: it only adds owners. So `checkTLSCerts`
succeeds after it exactly when it succeeded before. -/
theorem manageTLS_keeps_issued (h : manageTLS st m = .ok st') :
    (∀ k, (st'.secrets k).map Secret.issued = (st.secrets k).map Secret.issued) ∧
      (checkTLSCerts st' m = .ok () ↔ checkTLSCerts st m = .ok ()) := by
  obtain ⟨-, -, h⟩ := except_bind_eq_ok.mp h
  obtain ⟨st₁, h₁, h⟩ := except_bind_eq_ok.mp h
  obtain ⟨st₂, h₂, h₃⟩ := except_bind_eq_ok.mp h
  have hk (k : ObjKey) : (st'.secrets k).map Secret.issued = (st.secrets k).map Secret.issued :=
    (manage_keeps_issued .exporterClient h₃ k).trans
      ((manage_keeps_issued .client h₂ k).trans (manage_keeps_issued .server h₁ k))
  have hsome (k : ObjKey) : (st'.secrets k).isSome = (st.secrets k).isSome := by
    simpa only [Option.isSome_map'] using congrArg Option.isSome (hk k)
  exact ⟨hk, by simp only [checkTLSCerts_eq_ok, hsome]⟩

/-- The pass over `db-0` succeeds, with its server secret present and the other two missing. -/
theorem manageTLS_keeps_issued_db0 :
    ∃ st', manageTLS db0Store db0 = .ok st' ∧ (checkTLSCerts st' db0 = .ok () ↔ checkTLSCerts db0Store db0 = .ok ()) := by
  have hok : (manageTLS db0Store db0).toBool = true := by decide
  cases h : manageTLS db0Store db0 with
  | error e => rw [h] at hok; cases hok
  | ok st' => exact ⟨st', rfl, (manageTLS_keeps_issued h).2⟩

/-- A pass keeps settled every instance whose keys are apart from those of the instances it
reconciles. -/
theorem Settled.of_manageAll {ms : List MySQL} (hs : Settled st m) (hd : ∀ m' ∈ ms, CertKeysApart m m')
    (h : manageAll st ms = .ok st') : Settled st' m := by
  induction ms generalizing st with
  | nil =>
    cases h
    exact hs
  | cons m' ms ih =>
    obtain ⟨st₁, h₁, h⟩ := except_bind_eq_ok.mp h
    exact ih (hs.of_tlsFrame (manageTLS_frame h₁) (hd m' (.head _))) (fun m'' hm => hd m'' (.tail _ hm)) h

/-- A pass over instances whose keys are pairwise apart leaves each of them settled. -/
theorem manageAll_settled {ms : List MySQL} (hd : ms.Pairwise CertKeysApart)
    (h : manageAll st ms = .ok st') : ∀ m ∈ ms, Settled st' m := by
  induction ms generalizing st with
  | nil => exact fun _ hm => absurd hm (List.not_mem_nil _)
  | cons m ms ih =>
    obtain ⟨st₁, h₁, h₂⟩ := except_bind_eq_ok.mp h
    rw [List.pairwise_cons] at hd
    intro m' hm'
    rcases List.mem_cons.mp hm' with rfl | hm'
    · exact (manageTLS_settled h₁).of_manageAll hd.1 h₂
    · exact ih hd.2 h₂ m' hm'

/-- The instance `db-1` beside `db-0`. -/
def db1 : MySQL := { db0 with name := "db-1", uid := 2 }

/-- `db0Store` with a service for `db-1` too. -/
def twoInstanceStore : Store :=
  { db0Store with
    services := fun k => if k = ("ns", "db-0") ∨ k = ("ns", "db-1") then some ⟨[⟨"10.0.0.1", ""⟩]⟩ else none }

/-- A pass over instances whose certificate keys are pairwise apart converges at once: it leaves
every one of them settled, and a second pass returns the store as it is. -/
theorem manageAll_idempotent {ms : List MySQL} (hd : ms.Pairwise CertKeysApart)
    (h : manageAll st ms = .ok st') : (∀ m ∈ ms, Settled st' m) ∧ manageAll st' ms = .ok st' := by
  have hs := manageAll_settled hd h
  refine ⟨hs, ?_⟩
  clear h hd
  induction ms with
  | nil => rfl
  | cons m ms ih =>
    show manageTLS st' m >>= _ = _
    rw [manageTLS_of_settled (hs m (.head _))]
    exact ih fun m' hm => hs m' (.tail _ hm)

/-- `db-0` and `db-1` have their keys apart, and the pass over both succeeds. -/
theorem manageAll_idempotent_db01 :
    ∃ st', manageAll twoInstanceStore [db0, db1] = .ok st' ∧ manageAll st' [db0, db1] = .ok st' := by
  have hd : [db0, db1].Pairwise CertKeysApart :=
    List.pairwise_pair.mpr fun p q => by cases p <;> cases q <;> decide
  have hok : (manageAll twoInstanceStore [db0, db1]).toBool = true := by decide
  cases h : manageAll twoInstanceStore [db0, db1] with
  | error e => rw [h] at hok; cases hok
  | ok st' => exact ⟨st', rfl, (manageAll_idempotent hd h).2⟩

/-- No store settles two instances that share a key and want different specs there. -/
theorem Settled.not_both {m₁ m₂ : MySQL} {p q : Purpose} (hk : certKey m₁ p = certKey m₂ q)
    (hspec : ∀ c₁ c₂, desiredCertificate st m₁ p = .ok c₁ → desiredCertificate st m₂ q = .ok c₂ →
      c₁.spec ≠ c₂.spec)
    (h₁ : Settled st m₁) (h₂ : Settled st m₂) : False := by
  obtain ⟨c₁, hd₁, ⟨x₁, hx₁, hs₁⟩, -⟩ := h₁.purpose p
  obtain ⟨c₂, hd₂, ⟨x₂, hx₂, hs₂⟩, -⟩ := h₂.purpose q
  rw [hk, hx₂, Option.some.injEq] at hx₁
  exact hspec c₁ c₂ hd₁ hd₂ (hs₁.symm.trans (hx₁ ▸ hs₂))

/-- The instance `x` in namespace `ns`, set up as `db-0`. -/
def xInstance : MySQL := { db0 with name := "x" }

/-- The instance `x-exporter` beside `x`. -/
def xExporterInstance : MySQL := { db0 with name := "x-exporter", uid := 3 }

/-- `db0Store` with the services of `x` and `x-exporter`. -/
def xStore : Store :=
  { db0Store with
    services := fun k => if k = ("ns", "x") ∨ k = ("ns", "x-exporter") then some ⟨[]⟩ else none }

/-- Two instances that share a certificate key but want different specs there never converge: no
store is left as it is by both their `manageTLS` passes. -/
theorem manageTLS_no_common_fixpoint {m₁ m₂ : MySQL} {p q : Purpose} (hk : certKey m₁ p = certKey m₂ q)
    (hspec : ∀ c₁ c₂, desiredCertificate st m₁ p = .ok c₁ → desiredCertificate st m₂ q = .ok c₂ →
      c₁.spec ≠ c₂.spec) :
    ¬ (manageTLS st m₁ = .ok st ∧ manageTLS st m₂ = .ok st) := fun ⟨h₁, h₂⟩ =>
  Settled.not_both hk hspec (manageTLS_settled h₁) (manageTLS_settled h₂)

/-- `x`'s exporter client certificate is `x-exporter`'s client certificate, with another common
name; both passes succeed on `xStore`, and neither leaves it as it is for the other. -/
theorem manageTLS_no_common_fixpoint_x :
    certKey xInstance .exporterClient = certKey xExporterInstance .client ∧
      (manageTLS xStore xInstance).toBool = true ∧ (manageTLS xStore xExporterInstance).toBool = true ∧
      ¬ (manageTLS xStore xInstance = .ok xStore ∧ manageTLS xStore xExporterInstance = .ok xStore) :=
  have hk : certKey xInstance .exporterClient = certKey xExporterInstance .client := by decide
  ⟨hk, by decide, by decide, manageTLS_no_common_fixpoint hk fun c₁ c₂ h₁ h₂ => by
    cases Except.ok.inj h₁
    cases Except.ok.inj h₂
    decide⟩

end MySQLOperator
