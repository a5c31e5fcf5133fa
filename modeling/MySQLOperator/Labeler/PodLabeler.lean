import MySQLOperator.Labeler.Pod

/-!
# One reconcile of the role labeler

`podLabeler` looks its key up in the watch cache, skips a pod that lacks either selector label,
asks `checkPrimary` whether the group's primary member is this pod, and calls
`ensureRoleAsPrimary` or `removeRoleFromLabels` on the cached copy. What `checkPrimary` reads
outside the cluster, the process's environment and the rows that the pod's MySQL server returns
for the primary-member query, is a `Probe`: `queryInMySQLDatabase` is not under `src/`.

Whatever the cache and the probe, a successful reconcile changes only the pod at its key, and that
pod only at its role label (`podLabeler_frame`). From a cache equal to the live pods, it sets the
role `primary` on a managed pod that the probe names, sending a patch only when the label was
missing, and leaves the pods as they are otherwise (`podLabeler_up_to_date`). So a pod that is no
longer the primary keeps its role label: `removeRoleFromLabels` never sends a patch
(`podLabeler_keeps_stale_primary`). A query that returns no row makes `checkPrimary` index an
empty slice, a runtime panic rather than an error (`podLabeler_panics_without_rows`).
-/

namespace MySQLOperator

/-- A row of a query result: each column's value. -/
abbrev Row := StrMap

/-- What `checkPrimary` reads outside the cluster: `os.Getenv`, and `queryInMySQLDatabase`, which
runs a query as a user in the MySQL server of a pod and returns the rows, or the text of its
error. -/
structure Probe where
  getenv : String → String
  queryInMySQLDatabase : Pod → String → String → String → Except String (List Row)

/-- The query of `checkPrimary`: the host of the group's primary member. -/
def primaryMemberQuery : String :=
  "SELECT MEMBER_HOST FROM performance_schema.replication_group_members\n\t" ++
    "INNER JOIN performance_schema.global_status ON (MEMBER_ID = VARIABLE_VALUE)\n\t" ++
    "WHERE VARIABLE_NAME='group_replication_primary_member';"

/-- `strings.Split(host, ".")[0]`: the text of `host` before its first `.`. -/
def shortHost (host : String) : String := String.mk (host.data.takeWhile (· ≠ '.'))

/-- `LabelController.checkPrimary`: whether the first row's `MEMBER_HOST`, cut at its first `.`,
is the pod's name. `result[0]` of an empty result is an index out of range. -/
def checkPrimary (probe : Probe) (objMeta : Pod) : Except GoError Bool :=
  let user := probe.getenv KeyMySQLUser
  if user = "" then .error (.msg "missing 'MYSQL_ROOT_USERNAME' env in MySQL Pod")
  else
    let password := probe.getenv KeyMySQLPassword
    match probe.queryInMySQLDatabase objMeta user password primaryMemberQuery with
    | .error e => .error (.msg e)
    | .ok [] => .error (.panic "index out of range [0] with length 0")
    | .ok (row :: _) =>
      let hostName := shortHost ((row.lookup "MEMBER_HOST").getD "")
      .ok (decide (hostName = objMeta.name))

/-- The selector test of `podLabeler`: the pod carries `LabelDatabaseKind` and
`LabelDatabaseName`. -/
def Pod.managed (pod : Pod) : Bool :=
  hasKey pod.labels LabelDatabaseKind && hasKey pod.labels LabelDatabaseName

/-- `LabelController.podLabeler`, on the pods `indexer` of the watch cache and `live` of the
server: a managed pod cached at `key` gets the role label when `checkPrimary` says it is the
primary, and loses it otherwise. `GetByKey` of the informer's store returns no error. -/
def podLabeler (probe : Probe) (indexer live : PodStore) (key : String) :
    Except GoError (PodStore × Option PodWrite) :=
  match indexer.get key with
  | none => .ok (live, none)
  | some pod =>
    if pod.managed then
      match checkPrimary probe pod with
      | .error e => .error e
      | .ok true => ensureRoleAsPrimary live pod
      | .ok false => removeRoleFromLabels live pod
    else .ok (live, none)

/-! ## What a reconcile changes -/

/-- `hasKey` reads the map's lookup. -/
theorem hasKey_eq_isSome (m : StrMap) (key : String) : hasKey m key = (m.lookup key).isSome := by
  rw [Bool.eq_iff_iff]
  simp [hasKey, AList.lookup_isSome]

/-- A change of the role label leaves a pod managed or not. -/
theorem Pod.managed_of_agreeExceptRole {p p' : Pod} (h : AgreeExceptRole p p') :
    p'.managed = p.managed := by
  simp only [Pod.managed, hasKey_eq_isSome,
    h.labels LabelDatabaseKind (by decide), h.labels LabelDatabaseName (by decide)]

/-- A reconcile pass mutates only the pod it is processing, and that one only at its role label,
whatever the cache holds and whatever other parties wrote to the live pods. -/
theorem podLabeler_frame {probe : Probe} {indexer live live' : PodStore} {key : String}
    {w : Option PodWrite} (h : podLabeler probe indexer live key = .ok (live', w)) :
    RoleFrame key live live' := by
  unfold podLabeler at h
  split at h
  · obtain ⟨rfl, -⟩ := Prod.mk.inj (Except.ok.inj h)
    exact .refl _ _
  · next pod hpod =>
    obtain rfl := PodStore.key_of_get hpod
    split at h
    · split at h
      · cases h
      · exact ensureRoleAsPrimary_frame h
      · exact removeRoleFromLabels_frame h
    · obtain ⟨rfl, -⟩ := Prod.mk.inj (Except.ok.inj h)
      exact .refl _ _

/-- From a cache equal to the live pods, a successful reconcile of a pod at `key` either finds it
managed and named primary by `checkPrimary`, and leaves it carrying the role `primary` and
otherwise unchanged, with a patch sent exactly when it did not carry the role already; or leaves
every pod as it is and sends nothing. A pod that is not the primary keeps its role label. -/
theorem podLabeler_up_to_date {probe : Probe} {live live' : PodStore} {key : String} {pod : Pod}
    {w : Option PodWrite} (hpod : live.get key = some pod)
    (h : podLabeler probe live live key = .ok (live', w)) :
    (pod.managed ∧ checkPrimary probe pod = .ok true ∧
      ∃ pod', live'.get key = some pod' ∧ AgreeExceptRole pod pod' ∧
        pod'.labels.lookup LabelRole = some Primary ∧
        (w = none ↔ pod.labels.lookup LabelRole = some Primary)) ∨
    ((pod.managed → checkPrimary probe pod = .ok false) ∧ live' = live ∧ w = none) := by
  obtain rfl := PodStore.key_of_get hpod
  simp only [podLabeler, hpod] at h
  split at h
  · next hm =>
    split at h
    · cases h
    · next hc =>
      obtain ⟨l, v, pod', he, hget, ha, hrole, hw, -⟩ := ensureRoleAsPrimary_of_live hpod
      rw [he, Except.ok.injEq, Prod.mk.injEq] at h
      obtain ⟨rfl, rfl⟩ := h
      exact .inl ⟨hm, hc, pod', hget, ha, hrole, hw⟩
    · next hc =>
      rw [removeRoleFromLabels_eq, Except.ok.injEq, Prod.mk.injEq] at h
      exact .inr ⟨fun _ => hc, h.1.symm, h.2.symm⟩
  · next hm =>
    obtain ⟨rfl, rfl⟩ := Prod.mk.inj (Except.ok.inj h)
    exact .inr ⟨fun h => absurd h hm, rfl, rfl⟩

/-! ## Runtime faults -/

/-- `ensureRoleAsPrimary` and `removeRoleFromLabels` fail, if at all, with `NotFound`. -/
theorem patchPod_ne_panic (live : PodStore) (cur : Pod) (transform : Pod → Pod → Pod × Pod)
    (text : String) : patchPod live cur transform ≠ .error (.panic text) := by
  simp only [patchPod]
  split
  · exact Except.noConfusion
  · split <;> simp

/-! ## The pods of a group, and two probes -/

/-- A pod of the instance `db-0` in namespace `ns`, with both selector labels and, if given, a
role. -/
def groupPod (name : String) (role : Option String) : Pod :=
  let labels := ((∅ : StrMap).insert LabelDatabaseKind "MySQL").insert LabelDatabaseName "db-0"
  { name, ns := "ns", annotations := ∅, spec := "", status := "",
    labels := match role with
      | some r => labels.insert LabelRole r
      | none => labels }

/-- The environment of the labeler: the user `root`, no password. -/
def rootEnv (k : String) : String := if k = KeyMySQLUser then "root" else ""

/-- A probe whose first row names `host` as the primary member. -/
def hostProbe (host : String) : Probe := ⟨rootEnv, fun _ _ _ _ => .ok [(∅ : StrMap).insert "MEMBER_HOST" host]⟩

/-- A probe whose query returns no row, as while the group has no primary. -/
def noRowProbe : Probe := ⟨rootEnv, fun _ _ _ _ => .ok []⟩

/-- `db-0-1` carries the role `primary` while the group's primary is `db-0-2`: its reconcile
decides it is not the primary, and sends nothing, so the role stays. -/
theorem podLabeler_keeps_stale_primary :
    (groupPod "db-0-1" (some Primary)).labels.lookup LabelRole = some Primary ∧
      checkPrimary (hostProbe "db-0-2.db-0-gvr.ns") (groupPod "db-0-1" (some Primary)) = .ok false ∧
      podLabeler (hostProbe "db-0-2.db-0-gvr.ns") [groupPod "db-0-1" (some Primary)]
          [groupPod "db-0-1" (some Primary)] "ns/db-0-1" =
        .ok ([groupPod "db-0-1" (some Primary)], none) :=
  ⟨rfl, rfl, rfl⟩

/-- While the primary-member query returns no row, the reconcile of a managed pod panics. -/
theorem podLabeler_panics_without_rows :
    podLabeler noRowProbe [groupPod "db-0-1" none] [groupPod "db-0-1" none] "ns/db-0-1" =
      .error (.panic "index out of range [0] with length 0") :=
  rfl

end MySQLOperator
