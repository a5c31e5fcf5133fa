import MySQLOperator.Labeler.PodLabeler

/-!
# Runs of the labeler

The work queue hands a key to one worker at a time. With the cache up to date, a reconcile reads
the pod at its key and sends at most one patch, of that pod only (`podLabeler_frame`), so
reconciles of distinct pods commute and a run of them is a sequence: `runReconciles` folds
`reconcile` over the keys, a failed reconcile leaving the pods for a later requeue of its key.

Against a probe that reports the same primary `P` to every pod (`Probe.Reports`), one reconcile
changes nothing but the role label of the pod at its key, and sets it to `primary` exactly when
that pod is managed and named `P` (`reconcile_get`). By induction over the keys, after any run
every pod keeps its role label but the managed pod named `P`, which carries `primary` once its key
was reconciled (`runReconciles_roles`). Nothing in a run takes the label off a former primary:
after a failover and a reconcile of every pod, the old and the new primary both carry it
(`runReconciles_two_primaries`). A reconcile settles its pod: the second reconcile that its own
patch triggers sends nothing (`podLabeler_settles`), so the labeler does not feed its own queue.
-/

namespace MySQLOperator

/-- One reconcile of `key`, from a cache equal to the live pods: the pods it leaves, or the same
pods when it fails and the key is queued again. -/
def reconcile (probe : Probe) (live : PodStore) (key : String) : PodStore :=
  match podLabeler probe live live key with
  | .ok (live', _) => live'
  | .error _ => live

/-- Reconciles of `keys`, one after another. -/
def runReconciles (probe : Probe) (live : PodStore) (keys : List String) : PodStore :=
  keys.foldl (reconcile probe) live

/-- The probe reports `P` as the primary to every pod: the user is set, and the first row's host,
cut at its first `.`, is `P`. -/
structure Probe.Reports (probe : Probe) (P : String) : Prop where
  user : probe.getenv KeyMySQLUser ≠ ""
  row : ∀ pod, ∃ row rows, probe.queryInMySQLDatabase pod (probe.getenv KeyMySQLUser)
    (probe.getenv KeyMySQLPassword) primaryMemberQuery = .ok (row :: rows) ∧
    shortHost ((row.lookup "MEMBER_HOST").getD "") = P

/-- `hostProbe` reports the short host of its row to every pod. -/
theorem hostProbe_reports (host : String) : (hostProbe host).Reports (shortHost host) :=
  ⟨by simp [hostProbe, rootEnv, KeyMySQLUser], fun _ => ⟨_, [], rfl, rfl⟩⟩

section Reports

variable {probe : Probe} {P : String}

/-- Such a probe tells each pod whether it is named `P`. -/
theorem checkPrimary_of_reports (hP : probe.Reports P) (pod : Pod) :
    checkPrimary probe pod = .ok (decide (P = pod.name)) := by
  obtain ⟨row, rows, hq, hs⟩ := hP.row pod
  simp [checkPrimary, hP.user, hq, hs]

/-- Against such a probe, a reconcile from an up-to-date cache succeeds. -/
theorem podLabeler_ok_of_reports (hP : probe.Reports P) (live : PodStore) (key : String) :
    ∃ live' w, podLabeler probe live live key = .ok (live', w) := by
  unfold podLabeler
  split
  · exact ⟨_, _, rfl⟩
  · next pod hpod =>
    split
    · rw [checkPrimary_of_reports hP]
      by_cases hn : P = pod.name
      · have hlive : live.get pod.key = some pod := by rwa [PodStore.key_of_get hpod]
        obtain ⟨l, v, -, he, -⟩ := ensureRoleAsPrimary_of_live hlive
        rw [decide_eq_true hn]
        exact ⟨l, v, he⟩
      · rw [decide_eq_false hn]
        exact ⟨_, _, removeRoleFromLabels_eq _ _⟩
    · exact ⟨_, _, rfl⟩

/-- One reconcile changes no pod but the one at its key, and that one only by setting the role
`primary` when it is managed and named `P`. -/
theorem reconcile_get (hP : probe.Reports P) (live : PodStore) (key : String) {k : String}
    {p : Pod} (hp : live.get k = some p) :
    ∃ p', (reconcile probe live key).get k = some p' ∧ AgreeExceptRole p p' ∧
      p'.labels.lookup LabelRole =
        if k = key ∧ p.managed ∧ P = p.name then some Primary else p.labels.lookup LabelRole := by
  obtain ⟨live', w, h⟩ := podLabeler_ok_of_reports hP live key
  have hr : reconcile probe live key = live' := by simp [reconcile, h]
  rw [hr]
  by_cases hk : k = key
  · subst hk
    rcases podLabeler_up_to_date hp h with ⟨hm, hc, p', hp', ha, hrole, -⟩ | ⟨hc, rfl, -⟩
    · -- the primary: it carries the role now
      rw [checkPrimary_of_reports hP, Except.ok.injEq, decide_eq_true_iff] at hc
      exact ⟨p', hp', ha, by simp [hm, hc, hrole]⟩
    · -- any other pod is left as it is
      refine ⟨p, hp, .refl p, (if_neg ?_).symm⟩
      rintro ⟨-, hm, hn⟩
      simpa [checkPrimary_of_reports hP, hn] using hc hm
  · exact ⟨p, ((podLabeler_frame h).other k hk).trans hp, .refl p, by simp [hk]⟩

/-- After any run of reconciles against a probe that reports `P`, every pod is as it was but for
its role label, and that is as it was too, except on the managed pod named `P`: once its key was
reconciled, it carries `primary`. -/
theorem runReconciles_roles (hP : probe.Reports P) (live : PodStore) (keys : List String)
    {k : String} {p : Pod} (hp : live.get k = some p) :
    ∃ p', (runReconciles probe live keys).get k = some p' ∧ AgreeExceptRole p p' ∧
      p'.labels.lookup LabelRole =
        if k ∈ keys ∧ p.managed ∧ P = p.name then some Primary else p.labels.lookup LabelRole := by
  induction keys generalizing live p with
  | nil => exact ⟨p, hp, .refl p, by simp⟩
  | cons key keys ih =>
    obtain ⟨p₁, hp₁, ha₁, hr₁⟩ := reconcile_get hP live key hp
    obtain ⟨p₂, hp₂, ha₂, hr₂⟩ := ih (reconcile probe live key) hp₁
    refine ⟨p₂, hp₂, ha₁.trans ha₂, ?_⟩
    rw [hr₂, hr₁, Pod.managed_of_agreeExceptRole ha₁, ha₁.name]
    simp only [List.mem_cons]
    by_cases hm : p.managed ∧ P = p.name
    · by_cases hk : k = key <;> simp [hm, hk]
    · simp [hm]

/-- After a failover to `db-0-2`, its reconcile gives it the role `primary`. -/
theorem runReconciles_roles_failover :
    ∃ p', (runReconciles (hostProbe "db-0-2.db-0-gvr.ns") [groupPod "db-0-2" none] ["ns/db-0-2"]).get
        "ns/db-0-2" = some p' ∧ AgreeExceptRole (groupPod "db-0-2" none) p' ∧
      p'.labels.lookup LabelRole = some Primary := by
  have hp : PodStore.get [groupPod "db-0-2" none] "ns/db-0-2" = some (groupPod "db-0-2" none) := rfl
  obtain ⟨p', hp', ha, hr⟩ := runReconciles_roles (hostProbe_reports "db-0-2.db-0-gvr.ns")
    [groupPod "db-0-2" none] ["ns/db-0-2"] hp
  exact ⟨p', hp', ha, hr.trans (if_pos (by decide))⟩

/-- A reconcile settles its pod: the update event that its own patch raises queues the key again,
and that second reconcile, against the same probe, sends nothing and changes nothing. -/
theorem podLabeler_settles (hP : probe.Reports P) {live live' : PodStore} {key : String}
    {w : Option PodWrite} (h : podLabeler probe live live key = .ok (live', w)) :
    podLabeler probe live' live' key = .ok (live', none) := by
  cases hpod : live.get key with
  | none =>
    simp only [podLabeler, hpod, Except.ok.injEq, Prod.mk.injEq] at h
    obtain ⟨rfl, -⟩ := h
    simp [podLabeler, hpod]
  | some pod =>
    rcases podLabeler_up_to_date hpod h with ⟨hm, hc, pod', hget, ha, hrole, -⟩ | ⟨-, rfl, rfl⟩
    · -- the primary, which now carries the role: the second patch is empty
      have hm' : pod'.managed := (Pod.managed_of_agreeExceptRole ha).trans hm
      have hc' : checkPrimary probe pod' = .ok true := by
        rwa [checkPrimary_of_reports hP, ha.name, ← checkPrimary_of_reports hP]
      have hlive : live'.get pod'.key = some pod' := by rwa [PodStore.key_of_get hget]
      obtain ⟨l, v, -, he, -, -, -, hw, hl⟩ := ensureRoleAsPrimary_of_live hlive
      obtain rfl := hw.mpr hrole
      simp [podLabeler, hget, hm', hc', he, hl rfl]
    · -- nothing was written
      exact h

/-- The reconcile that labels `db-0-2` is followed by one that sends nothing. -/
theorem podLabeler_settles_failover :
    ∃ live' wr, podLabeler (hostProbe "db-0-2.db-0-gvr.ns") [groupPod "db-0-2" none]
        [groupPod "db-0-2" none] "ns/db-0-2" = .ok (live', some wr) ∧
      podLabeler (hostProbe "db-0-2.db-0-gvr.ns") live' live' "ns/db-0-2" = .ok (live', none) := by
  obtain ⟨live', wr, h⟩ : ∃ live' wr, podLabeler (hostProbe "db-0-2.db-0-gvr.ns")
      [groupPod "db-0-2" none] [groupPod "db-0-2" none] "ns/db-0-2" = .ok (live', some wr) :=
    ⟨_, _, rfl⟩
  exact ⟨live', wr, h, podLabeler_settles (hostProbe_reports _) h⟩

end Reports

/-- The pods of `db-0` when `db-0-2` has just taken over as primary from `db-0-1`. -/
def failoverPods : PodStore := [groupPod "db-0-1" (some Primary), groupPod "db-0-2" none]

/-- After a failover from `db-0-1` to `db-0-2`, reconciling both pods leaves both with the role
`primary`. -/
theorem runReconciles_two_primaries :
    (podLabeler (hostProbe "db-0-2.db-0-gvr.ns") failoverPods failoverPods "ns/db-0-1").toBool ∧
      (podLabeler (hostProbe "db-0-2.db-0-gvr.ns")
        (reconcile (hostProbe "db-0-2.db-0-gvr.ns") failoverPods "ns/db-0-1")
        (reconcile (hostProbe "db-0-2.db-0-gvr.ns") failoverPods "ns/db-0-1") "ns/db-0-2").toBool ∧
      (runReconciles (hostProbe "db-0-2.db-0-gvr.ns") failoverPods ["ns/db-0-1", "ns/db-0-2"]).map
          (fun p => (p.name, p.labels.lookup LabelRole)) =
        [("db-0-1", some Primary), ("db-0-2", some Primary)] := by
  decide

end MySQLOperator
