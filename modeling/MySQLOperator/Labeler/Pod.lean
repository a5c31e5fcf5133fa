import MySQLOperator.Kube.Object

/-!
# Pods and the two role-label patches

`src/pkg/labelController/workqueue.go` writes the role label of a pod through `v1.PatchPod`:
the transform runs on a deep copy of the cached pod `cur`, and the two-way merge patch from `cur`
to the result goes to the server, which merges it into the live pod. A Go closure also sees the
variables it captured, and `removeRoleFromLabels`'s closure deletes the role from `pod.Labels`, the
map of `cur` itself. So `patchPod` takes a transform of `cur` and the copy, returning both: the
patch is taken from `cur` as the transform leaves it, since `json.Marshal(cur)` runs after it.

The merge of a patch reads the transform's value at each label where `cur` and the result
differ, and the live pod's own value at every other label and field. So a transform whose two
results agree but for the role label changes the live pod only there (`agreeExceptRole_apply`,
`patchPod_frame`). For `ensureRoleAsPrimary` that holds. For `removeRoleFromLabels` the two results
never differ: the patch is empty and nothing is sent (`removeRoleFromLabels_eq`). Either way a
write changes nothing of the live pod but its role label (`roleWrite_frame`), whatever other
parties wrote to it since it was cached.
-/

namespace MySQLOperator

/-! ## Constants -/

/-- `KeyMySQLUser`. -/
def KeyMySQLUser : String := "username"

/-- `KeyMySQLPassword`. -/
def KeyMySQLPassword : String := "password"

/-- `Primary`. -/
def Primary : String := "primary"

/-- Modelled from the spec: `v1alpha1.MySQLKey`, not under `src/`, the API group that the spec
writes `<group>`. -/
def MySQLKey : String := "mysql.kubedb.com"

/-- `LabelRole`. -/
def LabelRole : String := MySQLKey ++ "/role"

/-- Modelled from the spec: `v1alpha1.LabelDatabaseKind`, not under `src/`. -/
def LabelDatabaseKind : String := "database-kind"

/-- Modelled from the spec: `v1alpha1.LabelDatabaseName`, not under `src/`. -/
def LabelDatabaseName : String := "database-name"

/-! ## Pods and their store -/

/-- `core.Pod`: its name, namespace, labels and annotations, and its spec and status as the JSON
that a patch compares. -/
structure Pod where
  name : String
  ns : String
  labels : StrMap
  annotations : StrMap
  spec : String
  status : String
  deriving DecidableEq

/-- `cache.MetaNamespaceKeyFunc` of a pod. -/
def Pod.key (p : Pod) : String := p.ns ++ "/" ++ p.name

/-- The pods of a store, live or cached, each found under its own key. -/
abbrev PodStore := List Pod

/-- The pod under a key: the indexer's `GetByKey`, or the server's `Get`. -/
def PodStore.get (s : PodStore) (key : String) : Option Pod := s.find? fun p => p.key = key

/-- The store with the pod under `p`'s key replaced by `p`. -/
def PodStore.set (s : PodStore) (p : Pod) : PodStore := s.map fun q => if q.key = p.key then p else q

/-- A pod is found under its own key. -/
theorem PodStore.key_of_get {s : PodStore} {k : String} {p : Pod} (h : s.get k = some p) :
    p.key = k := by
  simpa using List.find?_some h

/-- Setting a pod changes no pod's key. -/
theorem PodStore.key_set (p q : Pod) (k : String) :
    (if q.key = p.key then p else q).key = k ↔ q.key = k := by
  split_ifs with h
  · rw [h]
  · rfl

/-- Setting a pod replaces the pod under its key, and only that one. -/
theorem PodStore.get_set (s : PodStore) (p : Pod) (k : String) :
    (s.set p).get k = (s.get k).map fun q => if q.key = p.key then p else q := by
  simp only [PodStore.get, PodStore.set, List.find?_map, Function.comp_def, PodStore.key_set]

/-- Setting a pod leaves every other key. -/
theorem PodStore.get_set_of_ne (s : PodStore) (p : Pod) {k : String} (hk : k ≠ p.key) :
    (s.set p).get k = s.get k := by
  rw [PodStore.get_set]
  cases h : s.get k with
  | none => rfl
  | some q => simp [PodStore.key_of_get h, hk]

/-- Setting a pod that is there puts it under its key. -/
theorem PodStore.get_set_self {s : PodStore} {p q : Pod} (hq : s.get p.key = some q) :
    (s.set p).get p.key = some p := by
  rw [PodStore.get_set, hq]
  simp [PodStore.key_of_get hq]

/-! ## Patches -/

/-- The two-way merge patch of a pod: the label and annotation entries, and the new spec or
status where they changed. -/
structure PodPatch where
  labels : MapPatch
  annotations : MapPatch
  spec : Option String
  status : Option String
  deriving DecidableEq

/-- The empty patch, `{}`. -/
def PodPatch.empty : PodPatch := ⟨[], [], none, none⟩

/-- `strategicpatch.CreateTwoWayMergePatch(cur, mod)` on pods. -/
def twoWayMergePatch (cur mod : Pod) : PodPatch :=
  ⟨mapPatch cur.labels mod.labels, mapPatch cur.annotations mod.annotations,
    if cur.spec = mod.spec then none else some mod.spec,
    if cur.status = mod.status then none else some mod.status⟩

/-- The server's merge of a patch into the live pod. -/
def PodPatch.apply (patch : PodPatch) (live : Pod) : Pod :=
  { live with
    labels := applyMapPatch patch.labels live.labels
    annotations := applyMapPatch patch.annotations live.annotations
    spec := patch.spec.getD live.spec
    status := patch.status.getD live.status }

/-- A patch the core sent: the key of the pod, and the patch. -/
structure PodWrite where
  key : String
  patch : PodPatch
  deriving DecidableEq

/-- `v1.PatchPod`: run `transform` on `cur` and a deep copy of it; send the two-way merge patch
from `cur`, as `transform` left it, to the copy's result, unless it is empty. A patch of a pod that
is gone fails with `NotFound`. -/
def patchPod (live : PodStore) (cur : Pod) (transform : Pod → Pod → Pod × Pod) :
    Except GoError (PodStore × Option PodWrite) :=
  let r := transform cur cur
  let patch := twoWayMergePatch r.1 r.2
  if patch = PodPatch.empty then .ok (live, none)
  else
    match live.get r.1.key with
    | none => .error (.notFound "pods" r.1.name)
    | some p => .ok (live.set (patch.apply p), some ⟨r.1.key, patch⟩)

/-- `ensureRoleAsPrimary`: upsert the role `primary` into the copy's labels. -/
def ensureRoleAsPrimary (live : PodStore) (pod : Pod) : Except GoError (PodStore × Option PodWrite) :=
  patchPod live pod fun cur inn => (cur, { inn with labels := upsertMap inn.labels [(LabelRole, Primary)] })

/-- `removeRoleFromLabels`: `labels := pod.Labels; delete(labels, LabelRole); in.Labels = labels`,
where `pod.Labels` is the map of `cur`, so the deletion reaches `cur` too. -/
def removeRoleFromLabels (live : PodStore) (pod : Pod) : Except GoError (PodStore × Option PodWrite) :=
  patchPod live pod fun cur inn =>
    let labels := cur.labels.erase LabelRole
    ({ cur with labels }, { inn with labels })

/-! ## What a patch changes -/

/-- `p'` is `p` but for the role label: same name, namespace, annotations, spec and status, and
the same value at every other label. -/
structure AgreeExceptRole (p p' : Pod) : Prop where
  name : p'.name = p.name
  ns : p'.ns = p.ns
  annotations : p'.annotations = p.annotations
  spec : p'.spec = p.spec
  status : p'.status = p.status
  labels : ∀ l, l ≠ LabelRole → p'.labels.lookup l = p.labels.lookup l

theorem AgreeExceptRole.refl (p : Pod) : AgreeExceptRole p p := ⟨rfl, rfl, rfl, rfl, rfl, fun _ _ => rfl⟩

/-- `live'` is `live` but for the role label of the pod at `key`: every other key reads as
before, and the pod at `key` agrees with its former self but for the role label. -/
structure RoleFrame (key : String) (live live' : PodStore) : Prop where
  other : ∀ k, k ≠ key → live'.get k = live.get k
  atKey : ∀ p, live.get key = some p → ∃ p', live'.get key = some p' ∧ AgreeExceptRole p p'

theorem RoleFrame.refl (key : String) (live : PodStore) : RoleFrame key live live :=
  ⟨fun _ _ => rfl, fun p hp => ⟨p, hp, .refl p⟩⟩

theorem AgreeExceptRole.trans {p p' p'' : Pod} (h₁ : AgreeExceptRole p p') (h₂ : AgreeExceptRole p' p'') :
    AgreeExceptRole p p'' :=
  ⟨h₂.name.trans h₁.name, h₂.ns.trans h₁.ns, h₂.annotations.trans h₁.annotations, h₂.spec.trans h₁.spec,
    h₂.status.trans h₁.status, fun l hl => (h₂.labels l hl).trans (h₁.labels l hl)⟩

/-- `upsertMap` of one entry is `insert`. -/
@[simp] theorem upsertMap_singleton (m : StrMap) (k v : String) : upsertMap m [(k, v)] = m.insert k v :=
  rfl

/-- The patch between equal pods is empty. -/
theorem twoWayMergePatch_self (p : Pod) : twoWayMergePatch p p = PodPatch.empty := by
  simp [twoWayMergePatch, PodPatch.empty, (mapPatch_eq_nil_iff _ _).mpr]

/-- The patch from `cur` to a `mod` that agrees with it but for the role label, merged into any
live pod, changes that pod only at its role label. -/
theorem agreeExceptRole_apply {cur mod : Pod} (h : AgreeExceptRole cur mod) (live : Pod) :
    AgreeExceptRole live ((twoWayMergePatch cur mod).apply live) := by
  refine ⟨rfl, rfl, ?_, ?_, ?_, fun l hl => ?_⟩
  · simp [PodPatch.apply, twoWayMergePatch, h.annotations, (mapPatch_eq_nil_iff _ _).mpr, applyMapPatch]
  · simp [PodPatch.apply, twoWayMergePatch, h.spec]
  · simp [PodPatch.apply, twoWayMergePatch, h.status]
  · simp [PodPatch.apply, twoWayMergePatch, lookup_applyMapPatch_mapPatch, (h.labels l hl).symm]

/-- A `patchPod` whose transform leaves `cur`'s key and changes nothing but the role label
changes the live store at most at the role label of the pod under `cur`'s key. -/
theorem patchPod_frame {live live' : PodStore} {cur : Pod} {transform : Pod → Pod → Pod × Pod}
    {w : Option PodWrite} (hkey : (transform cur cur).1.key = cur.key)
    (hr : AgreeExceptRole (transform cur cur).1 (transform cur cur).2)
    (h : patchPod live cur transform = .ok (live', w)) : RoleFrame cur.key live live' := by
  simp only [patchPod, hkey] at h
  split at h
  · -- an empty patch: nothing is sent
    obtain ⟨rfl, -⟩ := Prod.mk.inj (Except.ok.inj h)
    exact .refl _ _
  · split at h
    · cases h
    · next p hp =>
      obtain ⟨rfl, -⟩ := Prod.mk.inj (Except.ok.inj h)
      have hk : ((twoWayMergePatch (transform cur cur).1 (transform cur cur).2).apply p).key =
          cur.key := (PodStore.key_of_get hp : p.key = cur.key)
      refine ⟨fun k hk' => PodStore.get_set_of_ne _ _ (hk ▸ hk'), fun p' hp' => ?_⟩
      rw [hp, Option.some.injEq] at hp'
      subst hp'
      exact ⟨_, hk ▸ PodStore.get_set_self (hk.symm ▸ hp), agreeExceptRole_apply hr _⟩

/-- `removeRoleFromLabels` never sends a patch: its closure deletes the role from `cur`'s own
labels, so `cur` and the result are equal when the patch is taken. -/
theorem removeRoleFromLabels_eq (live : PodStore) (pod : Pod) :
    removeRoleFromLabels live pod = .ok (live, none) := by
  simp [removeRoleFromLabels, patchPod, twoWayMergePatch_self]

/-- The transform of `ensureRoleAsPrimary` changes nothing of the pod but its role label. -/
theorem agreeExceptRole_insertRole (p : Pod) :
    AgreeExceptRole p { p with labels := p.labels.insert LabelRole Primary } :=
  ⟨rfl, rfl, rfl, rfl, rfl, fun _ hl => AList.lookup_insert_ne hl⟩

/-- From a cache that is up to date, `ensureRoleAsPrimary` succeeds and the pod then carries the
role `primary`, and is otherwise unchanged; a patch is sent exactly when it did not carry the role
already, and without one the store is unchanged. -/
theorem ensureRoleAsPrimary_of_live {live : PodStore} {pod : Pod} (h : live.get pod.key = some pod) :
    ∃ live' w pod', ensureRoleAsPrimary live pod = .ok (live', w) ∧ live'.get pod.key = some pod' ∧
      AgreeExceptRole pod pod' ∧ pod'.labels.lookup LabelRole = some Primary ∧
      (w = none ↔ pod.labels.lookup LabelRole = some Primary) ∧ (w = none → live' = live) := by
  have hlab (l : String) : pod.labels.lookup l = (pod.labels.insert LabelRole Primary).lookup l ↔
      l ≠ LabelRole ∨ pod.labels.lookup LabelRole = some Primary := by
    by_cases hl : l = LabelRole
    · subst hl; simp
    · simp [AList.lookup_insert_ne hl, hl]
  by_cases hr : pod.labels.lookup LabelRole = some Primary
  · -- the pod carries the role: the patch is empty
    have he : twoWayMergePatch pod { pod with labels := pod.labels.insert LabelRole Primary } =
        PodPatch.empty := by
      simp [twoWayMergePatch, PodPatch.empty, mapPatch_eq_nil_iff, hlab, hr]
    exact ⟨live, none, pod, by simp [ensureRoleAsPrimary, patchPod, he], h, .refl pod, hr,
      iff_of_true rfl hr, fun _ => rfl⟩
  · -- otherwise the patch sets the role
    let patch := twoWayMergePatch pod { pod with labels := pod.labels.insert LabelRole Primary }
    have he : patch ≠ PodPatch.empty := fun he => by
      simpa [hr] using (hlab LabelRole).mp
        ((mapPatch_eq_nil_iff _ _).mp (congrArg PodPatch.labels he) LabelRole)
    have hk : live.get (patch.apply pod).key = some pod := h
    refine ⟨_, some ⟨pod.key, patch⟩, patch.apply pod, ?_, PodStore.get_set_self hk,
      agreeExceptRole_apply (agreeExceptRole_insertRole pod) pod, ?_,
      iff_of_false (Option.some_ne_none _) hr, fun hw => absurd hw (Option.some_ne_none _)⟩
    · simp only [ensureRoleAsPrimary, patchPod, upsertMap_singleton]
      rw [if_neg he, h]
    · simp [patch, PodPatch.apply, twoWayMergePatch, lookup_applyMapPatch_mapPatch]

/-- `ensureRoleAsPrimary` changes the live store only at the role label of the pod at `c`'s key. -/
theorem ensureRoleAsPrimary_frame {c : Pod} {live live' : PodStore} {w : Option PodWrite}
    (h : ensureRoleAsPrimary live c = .ok (live', w)) : RoleFrame c.key live live' :=
  patchPod_frame rfl (agreeExceptRole_insertRole c) h

/-- A patch that sets the role label to `primary`, and names no other label, annotation, spec or
status. -/
structure PodPatch.SetsPrimary (patch : PodPatch) : Prop where
  labels_ne_nil : patch.labels ≠ []
  labels : ∀ e ∈ patch.labels, e = (LabelRole, some Primary)
  annotations : patch.annotations = []
  spec : patch.spec = none
  status : patch.status = none

/-- A patch that `ensureRoleAsPrimary` sends goes to the cached pod's key and sets the role label
to `primary`, and nothing else. -/
theorem ensureRoleAsPrimary_write {live live' : PodStore} {pod : Pod} {w : PodWrite}
    (h : ensureRoleAsPrimary live pod = .ok (live', some w)) : w.key = pod.key ∧ w.patch.SetsPrimary := by
  simp only [ensureRoleAsPrimary, patchPod, upsertMap_singleton] at h
  split at h
  · cases h
  · next hne =>
    split at h
    · cases h
    · obtain ⟨-, hw⟩ := Prod.mk.inj (Except.ok.inj h)
      cases hw
      have ha : mapPatch pod.annotations pod.annotations = [] := (mapPatch_eq_nil_iff _ _).mpr fun _ => rfl
      refine ⟨rfl, fun hl => hne ?_, fun e he => ?_, ha, if_pos rfl, if_pos rfl⟩
      · simp only [twoWayMergePatch] at hl
        simp [twoWayMergePatch, PodPatch.empty, hl, ha]
      · obtain ⟨hd, he2⟩ := mem_mapPatch he
        have h1 : e.1 = LabelRole := by
          by_contra hk
          exact hd (AList.lookup_insert_ne hk).symm
        rw [Prod.ext_iff, h1, he2, h1, AList.lookup_insert]
        exact ⟨rfl, rfl⟩

/-- Merged into any pod, a patch that sets the role `primary` leaves that pod with the role
`primary`. -/
theorem PodPatch.SetsPrimary.role_apply {patch : PodPatch} (h : patch.SetsPrimary) (p : Pod) :
    (patch.apply p).labels.lookup LabelRole = some Primary := by
  obtain ⟨e, rest, he⟩ := List.exists_cons_of_ne_nil h.labels_ne_nil
  have h1 : e = (LabelRole, some Primary) := h.labels e (he ▸ List.mem_cons_self _ _)
  simp [PodPatch.apply, lookup_applyMapPatch, he, h1]

/-- A `patchPod` that sends nothing leaves the live pods as they are. -/
theorem patchPod_eq_none {live live' : PodStore} {cur : Pod} {transform : Pod → Pod → Pod × Pod}
    (h : patchPod live cur transform = .ok (live', none)) : live' = live := by
  simp only [patchPod] at h
  split at h
  · exact (Prod.mk.inj (Except.ok.inj h)).1.symm
  · split at h <;> cases h

/-- A `patchPod` that sends a patch merges it into the live pod at the patch's key. -/
theorem patchPod_eq_some {live live' : PodStore} {cur : Pod} {transform : Pod → Pod → Pod × Pod}
    {w : PodWrite} (h : patchPod live cur transform = .ok (live', some w)) :
    ∃ p, live.get w.key = some p ∧ live' = live.set (w.patch.apply p) := by
  simp only [patchPod] at h
  split at h
  · cases h
  · split at h
    · cases h
    · next p hp =>
      obtain ⟨rfl, hw⟩ := Prod.mk.inj (Except.ok.inj h)
      cases hw
      exact ⟨p, hp, rfl⟩

/-- `removeRoleFromLabels` changes the live store only at the role label of the pod at `c`'s key:
it changes nothing. -/
theorem removeRoleFromLabels_frame {c : Pod} {live live' : PodStore} {w : Option PodWrite}
    (h : removeRoleFromLabels live c = .ok (live', w)) : RoleFrame c.key live live' := by
  rw [removeRoleFromLabels_eq, Except.ok.injEq, Prod.mk.injEq] at h
  obtain ⟨rfl, -⟩ := h
  exact .refl _ _

/-- The pod `db-0-1` as the labeler cached it. -/
def cachedPod : Pod := ⟨"db-0-1", "ns", ∅, ∅, "", ""⟩

/-- The live pod, to which a user has since added an annotation and the kubelet a status. -/
def annotatedPod : Pod := ⟨"db-0-1", "ns", ∅, (∅ : StrMap).insert "note" "user", "", "Running"⟩

/-- Whatever other parties wrote to the live pod since `c` was cached, the write that
`ensureRoleAsPrimary` or `removeRoleFromLabels` makes from `c` leaves every other pod, and changes
the live pod only at its role label: its other labels, annotations, spec and status are kept. -/
theorem roleWrite_frame {c : Pod} {live live' : PodStore} {w : Option PodWrite}
    (h : ensureRoleAsPrimary live c = .ok (live', w) ∨ removeRoleFromLabels live c = .ok (live', w)) :
    (∀ k, k ≠ c.key → live'.get k = live.get k) ∧
      ∀ p, live.get c.key = some p → ∃ p', live'.get c.key = some p' ∧ AgreeExceptRole p p' := by
  obtain ⟨hother, hkey⟩ := h.elim ensureRoleAsPrimary_frame removeRoleFromLabels_frame
  exact ⟨hother, hkey⟩

/-- The labeler's write from the cached `db-0-1` keeps the annotation and the status that other
parties added to the live pod since. -/
theorem roleWrite_frame_annotated :
    ∃ live' w p', ensureRoleAsPrimary [annotatedPod] cachedPod = .ok (live', w) ∧
      live'.get cachedPod.key = some p' ∧ AgreeExceptRole annotatedPod p' := by
  obtain ⟨-, h⟩ := roleWrite_frame (.inl (rfl : ensureRoleAsPrimary [annotatedPod] cachedPod = _))
  obtain ⟨p', hp', ha⟩ := h annotatedPod rfl
  exact ⟨_, _, p', rfl, hp', ha⟩

end MySQLOperator
