import MySQLOperator.Labeler.Controller

/-!
# What the labeler does to the cluster

The labeler's only effect on the live pods is to give a pod the role `primary`. Every patch it
sends sets the role label to `primary` and names nothing else (`ensureRoleAsPrimary_write`), so
merged into the pod as it is by then, it keeps the pod's name, namespace, annotations, spec, status
and every other label (`PodPatch.SetsPrimary.raised`); and the server merges a patch into a pod
that exists, so no pod is created or deleted (`rolesRaised_set`). Over any run in which no other
party writes, whatever the informer delivers, however the primary moves and however the workers
interleave, the live pods are the same pods as at the start, each changed at most by getting the
role `primary` (`run_rolesRaised`). In particular the labeler never demotes a pod: a pod that
carries the role `primary` keeps it, whatever the group's primary is by then
(`run_keeps_primary`). Both follow from the one step lemma `Labeler.step_rolesRaised` by
`Labeler.run_live`.
-/

namespace MySQLOperator

/-- `p'` is `p` changed at most by getting the role `primary`: it agrees with `p` but for the role
label, which is `p`'s or `primary`. -/
structure RoleRaised (p p' : Pod) : Prop where
  agree : AgreeExceptRole p p'
  role : p'.labels.lookup LabelRole = p.labels.lookup LabelRole ∨
    p'.labels.lookup LabelRole = some Primary

/-- A pod raises itself. -/
theorem RoleRaised.refl (p : Pod) : RoleRaised p p := ⟨.refl p, .inl rfl⟩

/-- Raising twice is raising once. -/
theorem RoleRaised.trans {p p' p'' : Pod} (h₁ : RoleRaised p p') (h₂ : RoleRaised p' p'') :
    RoleRaised p p'' :=
  ⟨h₁.agree.trans h₂.agree, h₂.role.elim (fun h => h ▸ h₁.role) .inr⟩

/-- `live'` holds the pods of `live` under the same keys, each changed at most by getting the role
`primary`; no pod is created or deleted. -/
def RolesRaised (live live' : PodStore) : Prop :=
  ∀ k, Option.Rel RoleRaised (live.get k) (live'.get k)

/-- A store raises itself. -/
theorem RolesRaised.refl (live : PodStore) : RolesRaised live live := fun k => by
  cases live.get k with
  | none => exact .none
  | some p => exact .some (.refl p)

/-- Raising twice is raising once. -/
theorem RolesRaised.trans {live live' live'' : PodStore} (h₁ : RolesRaised live live')
    (h₂ : RolesRaised live' live'') : RolesRaised live live'' := fun k => by
  have h₁k := h₁ k
  have h₂k := h₂ k
  generalize live.get k = a at h₁k
  generalize live'.get k = b at h₁k h₂k
  generalize live''.get k = c at h₂k
  cases h₁k with
  | none => cases h₂k; exact .none
  | some r₁ => cases h₂k with
    | some r₂ => exact .some (r₁.trans r₂)

/-- Merged into any pod, a patch that sets the role `primary` raises it. -/
theorem PodPatch.SetsPrimary.raised {patch : PodPatch} (h : patch.SetsPrimary) (p : Pod) :
    RoleRaised p (patch.apply p) := by
  have hl (l : String) (hl : l ≠ LabelRole) : patch.labels.lookup l = none := by
    rw [List.lookup_eq_none_iff]
    intro e he
    rw [h.labels e he]
    exact bne_iff_ne.mpr hl
  refine ⟨⟨rfl, rfl, ?_, ?_, ?_, fun l hl' => ?_⟩, .inr (h.role_apply p)⟩
  · simp only [PodPatch.apply, h.annotations, applyMapPatch]
  · simp only [PodPatch.apply, h.spec, Option.getD_none]
  · simp only [PodPatch.apply, h.status, Option.getD_none]
  · simp only [PodPatch.apply, lookup_applyMapPatch, hl l hl', Option.getD_none]

/-- Merging a patch that sets the role `primary` into the pod at its key raises the store. -/
theorem rolesRaised_set {live : PodStore} {patch : PodPatch} (h : patch.SetsPrimary) {key : String}
    {q : Pod} (hq : live.get key = some q) : RolesRaised live (live.set (patch.apply q)) := fun k => by
  rw [PodStore.get_set]
  cases hk : live.get k with
  | none => exact .none
  | some r =>
    show Option.Rel RoleRaised (some r) (some (if r.key = (patch.apply q).key then _ else r))
    split_ifs with hr
    · have hq' : q.key = key := PodStore.key_of_get hq
      have hkk : k = key := (PodStore.key_of_get hk).symm.trans (hr.trans hq')
      subst hkk
      cases hk.symm.trans hq
      exact .some (h.raised _)
    · exact .some (.refl r)

/-- A decision's write raises the live pods. -/
theorem labelerWrite_rolesRaised {live live' : PodStore} {d : Decision} {w : Option PodWrite}
    (h : labelerWrite live d = .ok (live', w)) : RolesRaised live live' := by
  cases w with
  | none => exact labelerWrite_eq_none h ▸ .refl live
  | some wr =>
    obtain ⟨pod, rfl, -, hsets⟩ := labelerWrite_write h
    simp only [labelerWrite, ensureRoleAsPrimary] at h
    obtain ⟨q, hq, rfl⟩ := patchPod_eq_some h
    exact rolesRaised_set hsets hq

/-- A step that is not another party's write raises the live pods. -/
theorem Labeler.step_rolesRaised {lc : LabelController} {s : Labeler lc} {a : Labeler.Action lc}
    (ha : a.external = false) : RolesRaised s.live (s.step a).live := by
  unfold Labeler.step
  split
  · exact .refl _
  · cases a with
    | work i =>
      rcases Labeler.work_live s i with h | ⟨d, w, h⟩
      · exact h ▸ .refl _
      · exact labelerWrite_rolesRaised h
    | write _ => cases ha
    | delete _ => cases ha
    | event q => exact (Labeler.handle_live s q).symm ▸ .refl _
    | _ => exact .refl _

/-- A store that raises another keeps the role `primary` of each of its pods. -/
theorem RolesRaised.keeps_primary {live live' : PodStore} (h : RolesRaised live live') {k : String}
    {p : Pod} (hp : live.get k = some p) (hrole : p.labels.lookup LabelRole = some Primary) :
    ∃ p', live'.get k = some p' ∧ p'.labels.lookup LabelRole = some Primary := by
  have hk := h k
  rw [hp] at hk
  generalize hq : live'.get k = q at hk
  cases hk with
  | some hr => exact ⟨_, rfl, hr.role.elim (·.trans hrole) id⟩

/-- The labeler changes the cluster only by giving pods the role `primary`: over any run, from any
state, in which no other party writes or deletes a pod, the live pods are the pods of the start,
under the same keys, each agreeing with its former self but for the role label, whose value is
the former one or `primary`. -/
theorem run_rolesRaised {lc : LabelController} {s : Labeler lc} {actions : List (Labeler.Action lc)}
    (hown : ∀ a ∈ actions, a.external = false) : RolesRaised s.live (s.run actions).live :=
  Labeler.run_live RolesRaised.refl (fun h₁ h₂ => h₁.trans h₂) (fun _ _ => Labeler.step_rolesRaised) hown

/-- The labeler beside `db-0-1` gives it the role `primary`, and changes nothing else. -/
theorem run_rolesRaised_labeled :
    RolesRaised [groupPod "db-0-1" none] labeledState.live ∧
      (labeledState.live.get "ns/db-0-1").map (fun p => p.labels.lookup LabelRole) = some (some Primary) :=
  have hown : ∀ a ∈ ([.event (groupPod "db-0-1" none), .work firstWorker, .work firstWorker,
      .work firstWorker] : List (Labeler.Action sidecar)), a.external = false := by decide
  ⟨(run_rolesRaised hown : RolesRaised (Labeler.init [groupPod "db-0-1" none]
      (hostProbe "db-0-1.db-0-gvr.ns") : Labeler sidecar).live labeledState.live), rfl⟩

/-- The labeler never demotes a pod: over any run, from any state, in which no other party writes
or deletes a pod, every live pod that carries the role `primary` keeps it. -/
theorem run_keeps_primary {lc : LabelController} {s : Labeler lc} {actions : List (Labeler.Action lc)}
    (hown : ∀ a ∈ actions, a.external = false) {k : String} {p : Pod} (hp : s.live.get k = some p)
    (hrole : p.labels.lookup LabelRole = some Primary) :
    ∃ p', (s.run actions).live.get k = some p' ∧ p'.labels.lookup LabelRole = some Primary :=
  (Labeler.run_live RolesRaised.refl (fun h₁ h₂ => h₁.trans h₂) (fun _ _ => Labeler.step_rolesRaised)
    hown).keeps_primary hp hrole

/-- After a failover to `db-0-2`, the reconcile of `db-0-1` leaves it the role `primary`. -/
theorem run_keeps_primary_failover :
    ∃ p', ((Labeler.init [groupPod "db-0-1" (some Primary)] (hostProbe "db-0-2.db-0-gvr.ns") :
        Labeler sidecar).run failoverRun).live.get "ns/db-0-1" = some p' ∧
      p'.labels.lookup LabelRole = some Primary :=
  run_keeps_primary (by decide) (show PodStore.get [groupPod "db-0-1" (some Primary)] "ns/db-0-1" =
    some (groupPod "db-0-1" (some Primary)) from rfl) rfl

end MySQLOperator
