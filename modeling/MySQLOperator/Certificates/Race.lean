import MySQLOperator.Certificates.Idempotence

/-!
# Secret ownership under concurrent writers

The secret part of each `manage…Cert` is four accesses to the store: the `Get` of
`secretExists`, the certificate `Get` of `AddOwnerReferenceToSecret`, the secret `Get` of
`CreateOrPatchSecret`, and its `Create` or `Patch`. Between any two of them other parties act:
cert-manager writes a secret, a user deletes one. A `World` holds the store, one `Thread` per running
`manage…Cert`, and the log of the secret writes that the core made; `World.step` takes one access
of one thread, or one action of another party.

The `Patch` of `CreateOrPatchSecret` sends the two-way merge patch from the secret it read, `cur`,
to `cur` with the owners added (`secretPatch`), and the server merges it into the secret as it is
by then (`SecretPatch.apply`). That patch names no label, no data and no type, and it deletes no
owner reference: it sets the two references that `EnsureOwnerReference` put in, by uid
(`ownersPatch_ensureOwnerReference₂`). So merged into any live secret it changes only the owner
references and keeps every owner the live secret has, also one added after the `Get`
(`allowed_patch_addOwners`); merged into `cur` it gives back what the transform computed
(`apply_secretPatch_addOwners_self`).

Run alone, a thread computes what `addOwnerReferenceToSecret` computes once `secretExists` holds
(`run_alone`). Under every interleaving, each write of the core is either such a patch of the live
secret, or the `Create` of a secret without data or type at a key where none existed
(`run_writes_allowed`). The second kind is real: the secret seen by `secretExists` can be deleted
before the `Get` of `CreateOrPatchSecret`, which then creates a new, empty one
(`manageServerCert_recreates_deleted_secret`).
-/

namespace MySQLOperator

/-! ## The patch of a secret -/

/-- The parts of `CreateTwoWayMergePatch(cur, mod)` of two secrets that a transform of the core can
change: the labels, the owner references, the type and the data. -/
structure SecretPatch where
  labels : MapPatch
  ownerReferences : OwnersPatch
  type : Option String
  data : MapPatch

/-- `CreateTwoWayMergePatch(cur, mod)` of two secrets. -/
def secretPatch (cur mod : Secret) : SecretPatch :=
  { labels := mapPatch cur.objectMeta.labels mod.objectMeta.labels,
    ownerReferences := ownersPatch cur.objectMeta.ownerReferences mod.objectMeta.ownerReferences,
    type := if cur.type = mod.type then none else some mod.type,
    data := mapPatch cur.data mod.data }

/-- Whether the patch is `{}`, which `PatchSecret` does not send. -/
def SecretPatch.isEmpty (p : SecretPatch) : Bool :=
  p.labels.isEmpty && p.ownerReferences.set.isEmpty && p.ownerReferences.delete.isEmpty &&
    p.type.isNone && p.data.isEmpty

/-- The server's strategic merge of a secret patch into the live secret. -/
def SecretPatch.apply (p : SecretPatch) (live : Secret) : Secret :=
  { live with
    objectMeta.labels := applyMapPatch p.labels live.objectMeta.labels
    objectMeta.ownerReferences := applyOwnersPatch p.ownerReferences live.objectMeta.ownerReferences
    type := p.type.getD live.type
    data := applyMapPatch p.data live.data }

/-- An empty patch leaves the live secret as it is. -/
theorem SecretPatch.apply_of_isEmpty {p : SecretPatch} (h : p.isEmpty) (live : Secret) :
    p.apply live = live := by
  obtain ⟨labels, ⟨set, delete⟩, type, data⟩ := p
  simp only [SecretPatch.isEmpty, Bool.and_eq_true, List.isEmpty_iff, Option.isNone_iff_eq_none]
    at h
  obtain ⟨⟨⟨⟨rfl, rfl⟩, rfl⟩, rfl⟩, rfl⟩ := h
  simp [SecretPatch.apply, applyOwnersPatch, applyMapPatch]

/-! ## The core's writes -/

/-- A write of a secret by the core. -/
inductive SecretWrite where
  | create (key : ObjKey) (new : Secret)
  | patch (key : ObjKey) (old new : Secret)
  deriving DecidableEq

/-- The writes that the core may make: a patch that changes only the owner references of the
secret it patches and drops none of its owners, or the `Create` of a secret without data or
type. -/
def SecretWrite.Allowed : SecretWrite → Prop
  | .create _ new => new.data = ∅ ∧ new.type = ""
  | .patch _ old new =>
    new = { old with objectMeta.ownerReferences := new.objectMeta.ownerReferences } ∧
      ∀ u ∈ old.objectMeta.ownerReferences.map OwnerReference.uid,
        u ∈ new.objectMeta.ownerReferences.map OwnerReference.uid

/-- Whether a write is a patch that changes only the owner references of the secret. -/
def SecretWrite.onlyOwners : SecretWrite → Bool
  | .create .. => false
  | .patch _ old new =>
    decide (new = { old with objectMeta.ownerReferences := new.objectMeta.ownerReferences })

section AddOwners

variable (a b : OwnerReference) (cur : Secret)

/-- Merged into any live secret, the patch that adds two owners to `cur` changes only the owner
references, and keeps every uid among them. -/
theorem allowed_patch_addOwners (key : ObjKey) (live : Secret) :
    (SecretWrite.patch key live ((secretPatch cur (addOwners a b cur)).apply live)).Allowed := by
  have hp := ownersPatch_ensureOwnerReference₂ cur.objectMeta.ownerReferences a b
  exact ⟨by simp [SecretPatch.apply, secretPatch, addOwners, applyMapPatch], fun u hu => hp.mem_uids _ hu⟩

/-- Merged into `cur` itself, the patch that adds two owners gives `cur` with the owners added. -/
theorem apply_secretPatch_addOwners_self :
    (secretPatch cur (addOwners a b cur)).apply cur = addOwners a b cur := by
  have hp := (ownersPatch_ensureOwnerReference₂ cur.objectMeta.ownerReferences a b).apply
  simp [SecretPatch.apply, secretPatch, addOwners, applyMapPatch, hp]

/-- The patch is empty only when the owners are in place already. -/
theorem addOwners_of_isEmpty (h : (secretPatch cur (addOwners a b cur)).isEmpty) :
    addOwners a b cur = cur :=
  (apply_secretPatch_addOwners_self a b cur).symm.trans (SecretPatch.apply_of_isEmpty h cur)

end AddOwners


/-! ## Threads and the world -/

/-- Where a `manage…Cert` is in its secret steps. -/
inductive Phase where
  /-- Next: the `Get` of `secretExists`. -/
  | start
  /-- `secretExists` saw the secret; next: the certificate `Get` of `AddOwnerReferenceToSecret`. -/
  | owning
  /-- Next: the secret `Get` of `CreateOrPatchSecret`, with the certificate `c` read. -/
  | reading (c : Certificate)
  /-- That `Get` found no secret; next: the `Create`. -/
  | creating (c : Certificate)
  /-- That `Get` found `cur`; next: the `Patch` from `cur` to `cur` with the owners added. -/
  | patching (c : Certificate) (cur : Secret)
  | done

/-- A running `manage…Cert` of an instance, at its suffix. -/
structure Thread where
  m : MySQL
  suffix : String
  phase : Phase

/-- The meta by which the thread names its secret. -/
def Thread.meta (t : Thread) : ObjectMeta := { name := certificateName t.m.name t.suffix, ns := t.m.ns }

/-- The thread's next access: its next phase, the store after it, and the write it made. A
`Create` of a secret that exists fails with `AlreadyExists`; a `Patch` sends the merge patch from
`cur` to `cur` with the owners added, unless it is empty, and fails with `NotFound` on a secret
that is gone. -/
def Thread.step (t : Thread) (st : Store) : Phase × Store × Option SecretWrite :=
  let key := t.meta.key
  match t.phase with
  | .start => (if secretExists st t.meta then .owning else .done, st, none)
  | .owning =>
    match st.certificates key with
    | none => (.done, st, none)
    | some c => (.reading c, st, none)
  | .reading c =>
    match st.secrets key with
    | none => (.creating c, st, none)
    | some cur => (.patching c cur, st, none)
  | .creating c =>
    let new := addOwners (newOwnerRef c) (newControllerRef t.m)
      ⟨{ t.meta with uid := st.nextUID }, "", ∅⟩
    match st.secrets key with
    | some _ => (.done, st, none)
    | none =>
      let st' := { st with secrets := Function.update st.secrets key (some new) }
      (.done, { st' with nextUID := st.nextUID + 1 }, some (.create key new))
  | .patching c cur =>
    let patch := secretPatch cur (addOwners (newOwnerRef c) (newControllerRef t.m) cur)
    if patch.isEmpty then (.done, st, none)
    else
      match st.secrets key with
      | none => (.done, st, none)
      | some live =>
        let new := patch.apply live
        (.done, { st with secrets := Function.update st.secrets key (some new) },
          some (.patch key live new))
  | .done => (.done, st, none)

/-- The store, the running threads, and the log of the core's secret writes. -/
structure World where
  store : Store
  threads : List Thread
  writes : List SecretWrite

/-- One step of the system. -/
inductive Action where
  /-- Thread `i` makes its next access. -/
  | core (i : Nat)
  /-- Another party, cert-manager or another controller, writes the secret at `key`. -/
  | caWrite (key : ObjKey) (s : Secret)
  /-- A user deletes the secret at `key`. -/
  | userDelete (key : ObjKey)

/-- One action applied to the world. -/
def World.step (w : World) : Action → World
  | .core i =>
    match w.threads[i]? with
    | none => w
    | some t =>
      let r := t.step w.store
      { store := r.2.1, threads := w.threads.set i { t with phase := r.1 },
        writes := w.writes ++ r.2.2.toList }
  | .caWrite key s =>
    { w with store := { w.store with secrets := Function.update w.store.secrets key (some s) } }
  | .userDelete key =>
    { w with store := { w.store with secrets := Function.update w.store.secrets key none } }

/-- A run: the actions in order. -/
def World.run (w : World) (actions : List Action) : World := actions.foldl World.step w

/-! ## Run alone -/

/-- With no other party acting, a thread's four accesses compute what `AddOwnerReferenceToSecret`
computes once `secretExists` holds, and a failed `Get` of the certificate leaves the store. -/
theorem run_alone (st : Store) (m : MySQL) (suffix : String) :
    let meta : ObjectMeta := { name := certificateName m.name suffix, ns := m.ns }
    ((World.mk st [⟨m, suffix, .start⟩] []).run (List.replicate 4 (.core 0))).store =
      if secretExists st meta then
        match addOwnerReferenceToSecret st m meta with
        | .ok (st', _) => st'
        | .error _ => st
      else st := by
  intro meta
  cases hs : st.secrets meta.key with
  | none =>
    have hex : secretExists st meta = false := by simp [secretExists, hs]
    simp [World.run, World.step, Thread.step, Thread.meta, hex]
  | some cur =>
    have hex : secretExists st meta = true := by simp [secretExists, hs]
    cases hc : st.certificates meta.key with
    | none => simp [World.run, World.step, Thread.step, Thread.meta, hex, hc, addOwnerReferenceToSecret]
    | some c =>
      have ha : addOwnerReferenceToSecret st m meta = _ := addOwnerReferenceToSecret_of_some meta hc
      have hupd : Function.update st.secrets meta.key (some cur) = st.secrets :=
        Function.update_eq_self_iff.mpr hs.symm
      simp only [World.run, List.reduceReplicate, List.foldl_cons, List.foldl_nil, World.step,
        List.length_singleton, Nat.lt_add_one, List.getElem?_eq_getElem, List.getElem_cons_zero,
        List.set_cons_zero, Option.toList_none, List.append_nil, List.nil_append, Thread.step,
        Thread.meta, hex, if_true, hc, hs, ha, createOrPatchSecret, createOrPatch,
        apply_secretPatch_addOwners_self]
      split_ifs with hp hfix hfix
      · rfl
      · exact absurd (addOwners_of_isEmpty _ _ cur hp).symm hfix
      · rw [← hfix]
        exact congrArg (fun secrets => { st with secrets }) hupd
      · rfl

/-! ## Every interleaving -/

/-- Each access writes at most one secret: a patch of the secret that is there, changing only its
owner references, or a `Create` where there is none, of a secret without data or type. -/
theorem Thread.step_write (t : Thread) (st : Store) {wr : SecretWrite}
    (h : (t.step st).2.2 = some wr) :
    wr.Allowed ∧ match wr with
      | .create key _ => st.secrets key = none
      | .patch key old _ => st.secrets key = some old := by
  rcases t with ⟨m, suffix, phase⟩
  cases phase with
  | start => simp [Thread.step] at h
  | owning => simp only [Thread.step] at h; split at h <;> simp at h
  | reading c => simp only [Thread.step] at h; split at h <;> simp at h
  | creating c =>
    simp only [Thread.step] at h
    split at h
    · simp at h
    · next hs =>
      simp only [Option.some.injEq] at h
      subst h
      exact ⟨⟨rfl, rfl⟩, hs⟩
  | patching c cur =>
    simp only [Thread.step] at h
    split at h
    · simp at h
    · split at h
      · simp at h
      · next live hs =>
        simp only [Option.some.injEq] at h
        subst h
        exact ⟨allowed_patch_addOwners _ _ cur _ live, hs⟩
  | done => simp [Thread.step] at h

/-- One action keeps every write of the log allowed. -/
theorem World.step_writes_allowed (w : World) (a : Action) (h : ∀ wr ∈ w.writes, wr.Allowed) :
    ∀ wr ∈ (w.step a).writes, wr.Allowed := by
  cases a with
  | core i =>
    simp only [World.step]
    split
    · exact h
    · next t _ =>
      intro wr hwr
      rcases List.mem_append.mp hwr with hwr | hwr
      · exact h wr hwr
      · exact (Thread.step_write t w.store (Option.mem_toList.mp hwr)).1
  | caWrite key s => exact h
  | userDelete key => exact h

/-- `db-0`'s server certificate, with uid 7. -/
def raceCertificate : Certificate := ⟨{ name := "db-0-server", ns := "ns", uid := 7 }, default⟩

/-- The server secret that cert-manager issued for `db-0`. -/
def issuedSecret : Secret :=
  ⟨{ name := "db-0-server", ns := "ns" }, "kubernetes.io/tls", (∅ : StrMap).insert "tls.crt" "PEM"⟩

/-- A store with the certificate and its issued secret. -/
def raceStore : Store :=
  { issuers := [], clusterIssuers := ["ca-issuer"], services := fun _ => none,
    certificates := fun k => if k = ("ns", "db-0-server") then some raceCertificate else none,
    secrets := fun k => if k = ("ns", "db-0-server") then some issuedSecret else none,
    events := [], nextUID := 100 }

/-- `manageServerCert` of `db-0` at its secret steps, with nothing written yet. -/
def raceWorld : World := ⟨raceStore, [⟨db0, MySQLServerCertSuffix, .start⟩], []⟩

/-- The issued secret after another controller has added its owner reference, of uid 9. -/
def coOwnedSecret : Secret :=
  { issuedSecret with
    objectMeta.ownerReferences := [⟨"v1", "ConfigMap", "ca-bundle", 9, false, false⟩] }

/-- The secret steps, with another controller's write of `coOwnedSecret` between the secret `Get`
and the `Patch`. -/
def coOwnerTrace : List Action :=
  [.core 0, .core 0, .core 0, .caWrite ("ns", "db-0-server") coOwnedSecret, .core 0]

/-- Under every interleaving of the core's accesses with other parties' writes and deletions,
each secret write of the core is a patch that changes only owner references and drops none of the
live secret's owners, or the `Create` of a secret without data or type. -/
theorem run_writes_allowed (w : World) (actions : List Action) (h : ∀ wr ∈ w.writes, wr.Allowed) :
    ∀ wr ∈ (w.run actions).writes, wr.Allowed := by
  induction actions generalizing w with
  | nil => exact h
  | cons a actions ih => exact ih (w.step a) (w.step_writes_allowed a h)

/-- An owner added between the secret `Get` and the `Patch` survives the patch: the one write is
allowed, from a world with an empty log. -/
theorem run_writes_allowed_race :
    ∃ wr, (raceWorld.run coOwnerTrace).writes = [wr] ∧ wr.Allowed :=
  ⟨_, rfl, run_writes_allowed raceWorld coOwnerTrace (fun _ h => absurd h (List.not_mem_nil _)) _
    (List.mem_singleton_self _)⟩

/-- The patch keeps the owner of uid 9 and adds the certificate's and the instance's. -/
example : ((raceWorld.run coOwnerTrace).writes.map fun
    | .patch _ _ new => new.objectMeta.ownerReferences.map OwnerReference.uid
    | .create _ new => new.objectMeta.ownerReferences.map OwnerReference.uid) = [[9, 7, 1]] := by
  decide

/-- `secretExists` and the certificate `Get`, a user's deletion of the secret, then the secret
`Get` and the `Create` of `CreateOrPatchSecret`. -/
def raceTrace : List Action :=
  [.core 0, .core 0, .userDelete ("ns", "db-0-server"), .core 0, .core 0]

/-- When the secret that `secretExists` saw is deleted before the `Get` of `CreateOrPatchSecret`,
the core creates the secret itself, without data or type. -/
theorem manageServerCert_recreates_deleted_secret :
    raceStore.secrets ("ns", "db-0-server") = some issuedSecret ∧
      (raceWorld.run raceTrace).writes.all SecretWrite.onlyOwners = false ∧
      (raceWorld.run raceTrace).writes =
        [.create ("ns", "db-0-server") (addOwners (newOwnerRef raceCertificate) (newControllerRef db0)
          ⟨{ name := "db-0-server", ns := "ns", uid := 100 }, "", ∅⟩)] := by
  decide

end MySQLOperator
