import MySQLOperator.Certificates.Manager

/-!
# What each step of the certificate manager writes

One lemma per function of `Manager.lean`, so that the proofs about whole passes never unfold one.
`createOrPatch` writes only at its key, and leaves `transform` of what it found there
(`createOrPatch_fst_self`); an object that `transform` fixes is left alone
(`createOrPatch_of_fixed`). `manageCert_ok` sums up a successful `manage…Cert`: it changes the
store only at its certificate's key (`Frame`), leaves the certificate with the desired spec, and
leaves the secret, if there is one, with owners that a second pass would not change.
-/

namespace MySQLOperator

/-- A successful bind is a successful first computation followed by a successful second. -/
theorem except_bind_eq_ok {ε α β : Type} {x : Except ε α} {f : α → Except ε β} {b : β} :
    x >>= f = .ok b ↔ ∃ a, x = .ok a ∧ f a = .ok b := by
  cases x <;> simp [bind, Except.bind]

section CreateOrPatch

variable {α : Type} [DecidableEq α] {objs : ObjKey → Option α} {key : ObjKey} {fresh : α}
  {transform : α → α}

/-- `createOrPatch` writes only at its key. -/
theorem createOrPatch_fst_of_ne {k : ObjKey} (hk : k ≠ key) :
    (createOrPatch objs key fresh transform).1 k = objs k := by
  cases h : objs key with
  | none => simp [createOrPatch, h, Function.update_noteq hk]
  | some cur =>
    by_cases he : cur = transform cur
    · simp only [createOrPatch, h, if_pos he]
    · simp only [createOrPatch, h, if_neg he, Function.update_noteq hk]

/-- At its key, `createOrPatch` leaves `transform` of what it found there, or of `fresh`. -/
theorem createOrPatch_fst_self :
    (createOrPatch objs key fresh transform).1 key = some (transform ((objs key).getD fresh)) := by
  cases h : objs key with
  | none => simp [createOrPatch, h]
  | some cur =>
    by_cases he : cur = transform cur
    · simp only [createOrPatch, h, if_pos he, Option.getD_some]
      rw [← he]
    · simp only [createOrPatch, h, if_neg he, Option.getD_some, Function.update_same]

/-- An object that `transform` fixes is left alone. -/
theorem createOrPatch_of_fixed {cur : α} (h : objs key = some cur) (hfix : transform cur = cur) :
    createOrPatch objs key fresh transform = (objs, .unchanged) := by
  simp [createOrPatch, h, hfix]

end CreateOrPatch

/-! ## Frames -/

/-- `st'` differs from `st` at most in the certificate and the secret at `key`, the events and the
next uid. -/
structure Frame (key : ObjKey) (st st' : Store) : Prop where
  issuers : st'.issuers = st.issuers
  clusterIssuers : st'.clusterIssuers = st.clusterIssuers
  services : st'.services = st.services
  certificates : ∀ k, k ≠ key → st'.certificates k = st.certificates k
  secrets : ∀ k, k ≠ key → st'.secrets k = st.secrets k

theorem Frame.refl (key : ObjKey) (st : Store) : Frame key st st :=
  ⟨rfl, rfl, rfl, fun _ _ => rfl, fun _ _ => rfl⟩

theorem Frame.trans {key : ObjKey} {st₁ st₂ st₃ : Store} (h₁ : Frame key st₁ st₂)
    (h₂ : Frame key st₂ st₃) : Frame key st₁ st₃ :=
  ⟨h₂.issuers.trans h₁.issuers, h₂.clusterIssuers.trans h₁.clusterIssuers,
    h₂.services.trans h₁.services, fun k hk => (h₂.certificates k hk).trans (h₁.certificates k hk),
    fun k hk => (h₂.secrets k hk).trans (h₁.secrets k hk)⟩

/-! ## Certificates -/

variable {st : Store} {m : MySQL}

/-- `ensureCertificate` writes only the certificate at its key. -/
theorem frame_ensureCertificate (st : Store) (cert : Certificate) :
    Frame cert.objectMeta.key st (ensureCertificate st cert).1 :=
  ⟨rfl, rfl, rfl, fun _ hk => createOrPatch_fst_of_ne hk, fun _ _ => rfl⟩

/-- After `ensureCertificate`, the certificate at its key has the desired spec. -/
theorem ensureCertificate_self (st : Store) (cert : Certificate) :
    ∃ c, (ensureCertificate st cert).1.certificates cert.objectMeta.key = some c ∧
      c.spec = cert.spec :=
  ⟨_, createOrPatch_fst_self, rfl⟩

/-- A certificate that has the desired spec already is left alone. -/
theorem ensureCertificate_of_spec {cert c : Certificate}
    (hc : st.certificates cert.objectMeta.key = some c) (hs : c.spec = cert.spec) :
    ensureCertificate st cert = (st, .unchanged) := by
  simp only [ensureCertificate, createOrPatchCertificate]
  rw [createOrPatch_of_fixed hc ?_]
  · rfl
  · show { c with spec := cert.spec } = c
    rw [← hs]

/-- Recording events touches no object. -/
theorem frame_recordVerb (key : ObjKey) (st : Store) (m : MySQL) (cm pm : String) (v : Verb) :
    Frame key st (recordVerb st m cm pm v) := by
  cases v <;> exact ⟨rfl, rfl, rfl, fun _ _ => rfl, fun _ _ => rfl⟩

/-! ## Secrets -/

/-- Adding the owners twice is adding them once. -/
theorem addOwners_addOwners (a b : OwnerReference) (s : Secret) :
    addOwners a b (addOwners a b s) = addOwners a b s := by
  simp only [addOwners, ensureOwnerReference_ensureOwnerReference]

/-- `AddOwnerReferenceToSecret` with the certificate present patches, or creates, the secret. -/
theorem addOwnerReferenceToSecret_of_some (meta : ObjectMeta) {c : Certificate}
    (hc : st.certificates meta.key = some c) :
    addOwnerReferenceToSecret st m meta =
      .ok (createOrPatchSecret st meta (addOwners (newOwnerRef c) (newControllerRef m))) := by
  simp [addOwnerReferenceToSecret, hc]

/-- `createOrPatchSecret` writes only the secret at its key. -/
theorem frame_createOrPatchSecret (st : Store) (meta : ObjectMeta) (t : Secret → Secret) :
    Frame meta.key st (createOrPatchSecret st meta t).1 :=
  ⟨rfl, rfl, rfl, fun _ _ => rfl, fun _ hk => createOrPatch_fst_of_ne hk⟩

/-- A secret whose owners are in place already is left alone. -/
theorem addOwnerReferenceToSecret_of_fixed (meta : ObjectMeta) {c : Certificate} {s : Secret}
    (hc : st.certificates meta.key = some c) (hs : st.secrets meta.key = some s)
    (hfix : addOwners (newOwnerRef c) (newControllerRef m) s = s) :
    addOwnerReferenceToSecret st m meta = .ok (st, .unchanged) := by
  rw [addOwnerReferenceToSecret_of_some meta hc]
  simp only [createOrPatchSecret, createOrPatch_of_fixed hs hfix]
  rfl

/-! ## A whole `manage…Cert` -/

/-- What the certificate and the secret at `key` are after a pass that ensured `cert`: the
certificate has `cert`'s spec, and the secret, if any, has owners that another pass keeps. -/
structure CertSettled (key : ObjKey) (m : MySQL) (cert : Certificate) (st : Store) : Prop where
  certificate : ∃ c, st.certificates key = some c ∧ c.spec = cert.spec
  secret : ∀ c s, st.certificates key = some c → st.secrets key = some s →
    addOwners (newOwnerRef c) (newControllerRef m) s = s

variable {ensure : Store → MySQL → Except GoError (Store × Verb)} {suffix cm pm : String}
  {cert : Certificate}

/-- A successful `manageCert` whose `ensure` ensured `cert` writes only at `cert`'s key and
leaves it settled. -/
theorem manageCert_ok {st' : Store}
    (hens : ensure st m = .ok (ensureCertificate st cert))
    (hkey : cert.objectMeta.key = (m.ns, certificateName m.name suffix))
    (h : manageCert ensure suffix cm pm st m = .ok st') :
    Frame (m.ns, certificateName m.name suffix) st st' ∧
      CertSettled (m.ns, certificateName m.name suffix) m cert st' := by
  obtain ⟨c, hc, hspec⟩ := ensureCertificate_self st cert
  have hf := frame_ensureCertificate st cert
  rw [hkey] at hc hf
  simp only [manageCert, hens, bind, Except.bind] at h
  generalize hst₁ : recordVerb (ensureCertificate st cert).1 m cm pm (ensureCertificate st cert).2
    = st₁ at h
  have hf₁ : Frame (m.ns, certificateName m.name suffix) st st₁ :=
    hst₁ ▸ hf.trans (frame_recordVerb _ _ m cm pm _)
  have hc₁ : st₁.certificates (m.ns, certificateName m.name suffix) = some c := by
    rw [← hst₁]; cases (ensureCertificate st cert).2 <;> exact hc
  split at h
  · -- the secret exists: the owners are added
    rw [addOwnerReferenceToSecret_of_some { name := certificateName m.name suffix, ns := m.ns } hc₁]
      at h
    simp only [pure, Except.pure, Except.ok.injEq] at h
    subst h
    refine ⟨hf₁.trans (frame_createOrPatchSecret _ { name := certificateName m.name suffix, ns := m.ns } _),
      ⟨c, hc₁, hspec⟩, ?_⟩
    intro c' s hc' hs
    simp only [createOrPatchSecret, hc₁, Option.some.injEq] at hc'
    subst hc'
    simp only [createOrPatchSecret] at hs
    rw [ObjectMeta.key, createOrPatch_fst_self, Option.some.injEq] at hs
    rw [← hs, addOwners_addOwners]
  · -- no secret yet: nothing to own
    next hex =>
    simp only [pure, Except.pure, Except.ok.injEq] at h
    subst h
    refine ⟨hf₁, ⟨c, hc₁, hspec⟩, fun c' s _ hs => ?_⟩
    simp [secretExists, ObjectMeta.key, hs] at hex

/-- A pass over a settled certificate and secret changes nothing. -/
theorem manageCert_of_settled {c : Certificate}
    (hens : ensure st m = .ok (st, .unchanged))
    (hc : st.certificates (m.ns, certificateName m.name suffix) = some c)
    (hs : ∀ s, st.secrets (m.ns, certificateName m.name suffix) = some s →
      addOwners (newOwnerRef c) (newControllerRef m) s = s) :
    manageCert ensure suffix cm pm st m = .ok st := by
  simp only [manageCert, hens, bind, Except.bind, recordVerb]
  split
  · next hex =>
    obtain ⟨s, hs'⟩ := Option.isSome_iff_exists.mp hex
    rw [addOwnerReferenceToSecret_of_fixed { name := certificateName m.name suffix, ns := m.ns } hc hs'
      (hs s hs')]
    rfl
  · rfl

/-- A settled key stays settled across a step that writes at another key. -/
theorem CertSettled.frame {k k' : ObjKey} {cert : Certificate} {st' : Store}
    (h : CertSettled k m cert st) (hf : Frame k' st st') (hk : k ≠ k') : CertSettled k m cert st' :=
  ⟨by rw [hf.certificates k hk]; exact h.certificate,
    fun c s hc hs => h.secret c s (by rwa [← hf.certificates k hk]) (by rwa [← hf.secrets k hk])⟩

end MySQLOperator
