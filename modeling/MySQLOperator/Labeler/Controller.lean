import MySQLOperator.Labeler.PodLabeler
import MySQLOperator.Labeler.Queue

/-!
# The labeler process

`LabelerConfig.New` builds a `LabelController` whose informer lists and watches, in
`watchNamespace`, the pods named `hostName`: the labeler runs beside each MySQL server and labels
its own pod. `initWatcher` queues a pod's key on every add event and on every update event whose
new object differs from the old one; `queue.New` runs `numThreads` workers, each of which takes a
key, runs `podLabeler` on it, and then forgets it, requeues it after a back-off, or drops it once
`maxNumRequeues` requeues are spent.

`Labeler` is that process with the world around it, and `Labeler.step` one action of any party:
an informer event, another party's write or deletion of a pod, a change of what `checkPrimary`
reads (a failover), a back-off that runs out, or one step of one worker. A worker's reconcile is
two steps: the reads of `podLabeler` (`GetByKey` and `checkPrimary`) and then its patch, which the
server merges into the pod as it is by then; `podLabeler_eq_labelerWrite` shows that the two
compose to `podLabeler`. A panic in `checkPrimary` ends the process.

`Labeler.Inv` holds at the start and after every action (`Labeler.Inv.step`), so on every
reachable state (`Labeler.Inv.of_reachable`). From it: no two workers ever hold the same key
(`run_exclusive`); no informer event is lost, since when nothing is queued and no worker is busy,
the last reads of every cached pod found it as it is (`run_quiescent_fresh`); and every patch the
labeler sends goes to its own pod and sets the role label to `primary`, and nothing else
(`run_sends_only_primary`). A worker's two steps, with nothing between them, are `podLabeler`
(`work_work_eq_podLabeler`).
-/

namespace MySQLOperator

/-- The fields of `LabelController` that decide what the labeler does: `maxNumRequeues` and
`numThreads` of its queue, and the namespace and host name of its informer's watch. -/
structure LabelController where
  maxNumRequeues : Nat
  numThreads : Nat
  watchNamespace : String
  hostName : String

/-- The pods that the informer of `InitInformer` lists and watches: those of `watchNamespace`, or of
every namespace when it is empty (`metav1.NamespaceAll`), whose name passes `selector`,
`fields.OneTermEqualSelector("metadata.name", hostName)`. -/
def LabelController.watches (lc : LabelController) (p : Pod) : Bool :=
  (lc.watchNamespace = "" || p.ns = lc.watchNamespace) && p.name = lc.hostName

/-! ## Stores -/

/-- The store with `p` put under its key: in place of the pod there, or added. -/
def PodStore.upsert (s : PodStore) (p : Pod) : PodStore :=
  if (s.get p.key).isSome then s.set p else s ++ [p]

/-- The store without the pod at `key`. -/
def PodStore.delete (s : PodStore) (key : String) : PodStore := s.filter fun p => p.key ≠ key

/-- Looking up in two stores, one after the other. -/
theorem PodStore.get_append (s t : PodStore) (k : String) : (s ++ t).get k = (s.get k).or (t.get k) :=
  List.find?_append

/-- After an upsert the pod is under its key, and every other key reads as before. -/
theorem PodStore.get_upsert (s : PodStore) (p : Pod) (k : String) :
    (s.upsert p).get k = if k = p.key then some p else s.get k := by
  unfold PodStore.upsert
  split_ifs with hs hk hk
  · subst hk
    obtain ⟨q, hq⟩ := Option.isSome_iff_exists.mp hs
    exact PodStore.get_set_self hq
  · exact PodStore.get_set_of_ne s p hk
  · subst hk
    rw [PodStore.get_append, Option.not_isSome_iff_eq_none.mp hs]
    simp [PodStore.get]
  · rw [PodStore.get_append]
    simp [PodStore.get, Ne.symm hk]

/-- After a deletion nothing is under the key, and every other key reads as before. -/
theorem PodStore.get_delete (s : PodStore) (key k : String) :
    (s.delete key).get k = if k = key then none else s.get k := by
  simp only [PodStore.delete, PodStore.get, List.find?_filter]
  split_ifs with hk
  · exact List.find?_eq_none.mpr fun q _ => by by_cases hq : q.key = k <;> simp [hq, hk]
  · congr 1
    funext q
    by_cases hq : q.key = k <;> simp [hq, hk]

/-! ## A reconcile in two steps -/

/-- What the reads of `podLabeler` decided: no write, the error of `checkPrimary`, or a write of
the cached pod as the primary or not. -/
inductive Decision where
  | skip
  | fail (e : GoError)
  | label (pod : Pod) (isPrimary : Bool)
  deriving DecidableEq

/-- The reads of `podLabeler`: `GetByKey`, the selector test, and `checkPrimary`. -/
def labelerRead (probe : Probe) (indexer : PodStore) (key : String) : Decision :=
  match indexer.get key with
  | none => .skip
  | some pod =>
    if pod.managed then
      match checkPrimary probe pod with
      | .error e => .fail e
      | .ok isPrimary => .label pod isPrimary
    else .skip

/-- The write of `podLabeler`, from what its reads decided. -/
def labelerWrite (live : PodStore) : Decision → Except GoError (PodStore × Option PodWrite)
  | .skip => .ok (live, none)
  | .fail e => .error e
  | .label pod true => ensureRoleAsPrimary live pod
  | .label pod false => removeRoleFromLabels live pod

/-- The reads and then the write are `podLabeler`. -/
theorem podLabeler_eq_labelerWrite (probe : Probe) (indexer live : PodStore) (key : String) :
    podLabeler probe indexer live key = labelerWrite live (labelerRead probe indexer key) := by
  unfold podLabeler labelerRead
  cases indexer.get key with
  | none => rfl
  | some pod =>
    by_cases hm : pod.managed
    · simp only [if_pos hm]
      cases checkPrimary probe pod with
      | error e => rfl
      | ok b => cases b <;> rfl
    · simp only [if_neg hm]
      rfl

/-- A write decided on a pod of the cache, which `checkPrimary` judged. -/
theorem labelerRead_label {probe : Probe} {indexer : PodStore} {key : String} {pod : Pod}
    {isPrimary : Bool} (h : labelerRead probe indexer key = .label pod isPrimary) :
    indexer.get key = some pod ∧ pod.managed ∧ checkPrimary probe pod = .ok isPrimary := by
  unfold labelerRead at h
  split at h
  · cases h
  · next pod' hpod =>
    split at h
    · next hm =>
      split at h
      · cases h
      · next hc => cases h; exact ⟨hpod, hm, hc⟩
    · cases h

/-! ## The process -/

/-- Where a worker is in `processNextEntry`. -/
inductive Labeler.Phase where
  /-- Blocked in `Get`, or about to call it. -/
  | idle
  /-- `Get` returned `key`; next: the reads of `podLabeler`. -/
  | got (key : String)
  /-- The reads decided `d`; next: the patch, then `Forget` or `AddRateLimited`, and `Done`. -/
  | decided (key : String) (d : Decision)
  deriving DecidableEq

/-- The key a worker holds. -/
def Labeler.Phase.key : Labeler.Phase → Option String
  | .idle => none
  | .got key => some key
  | .decided key _ => some key

/-- An idle worker holds no key. -/
@[simp] theorem Labeler.Phase.key_idle : Labeler.Phase.idle.key = none := rfl

/-- A worker that got a key holds it. -/
@[simp] theorem Labeler.Phase.key_got (key : String) : (Labeler.Phase.got key).key = some key := rfl

/-- A worker that decided on a key holds it. -/
@[simp] theorem Labeler.Phase.key_decided (key : String) (d : Decision) :
    (Labeler.Phase.decided key d).key = some key := rfl

/-- The labeler process of `lc`, and the parts of the world it reads and writes. -/
structure Labeler (lc : LabelController) where
  /-- The pods on the server. -/
  live : PodStore
  /-- The informer's store, which `GetByKey` reads. -/
  cache : PodStore
  /-- What `checkPrimary` reads now: the environment and the group's MySQL servers. -/
  probe : Probe
  queue : WorkQueue
  workers : Fin lc.numThreads → Labeler.Phase
  /-- Every patch the labeler sent, in order. -/
  writes : List PodWrite
  /-- The cache entry that the last reads of each key found: a record of the run, which no step
  reads. -/
  seen : String → Option Pod
  /-- A worker panicked, which ends the process. -/
  crashed : Bool

/-- One action of one party. -/
inductive Labeler.Action (lc : LabelController) where
  /-- The informer delivers an add or update event of `p`. -/
  | event (p : Pod)
  /-- The informer delivers the deletion of the pod at `key`. -/
  | eventDelete (key : String)
  /-- Another party writes `p` on the server: the kubelet, the operator, a user. -/
  | write (p : Pod)
  /-- Another party deletes the pod at `key`. -/
  | delete (key : String)
  /-- What `checkPrimary` reads changes: a failover, or a change of the environment. -/
  | probe (probe : Probe)
  /-- The back-off of a requeued key runs out. -/
  | fire (key : String)
  /-- Worker `i` takes the next step of `processNextEntry`: its `Get`, the reads of `podLabeler`,
  or the patch followed by `Forget` or `AddRateLimited`, and `Done`. -/
  | work (i : Fin lc.numThreads)

variable {lc : LabelController}

/-- A write or a deletion of a pod by another party. -/
def Labeler.Action.external : Labeler.Action lc → Bool
  | .write _ | .delete _ => true
  | _ => false

/-- The labeler as `RunLabelController` starts it: nothing cached, queued or sent. -/
def Labeler.init (live : PodStore) (probe : Probe) : Labeler lc :=
  ⟨live, [], probe, .empty, fun _ => .idle, [], fun _ => none, false⟩

/-- The event handlers of `initWatcher`: the informer stores the pod, and the key is queued on an
add, and on an update whose new object differs from the old. A pod outside the watch is never
delivered. -/
def Labeler.handle (s : Labeler lc) (p : Pod) : Labeler lc :=
  if lc.watches p ∧ s.cache.get p.key ≠ some p then
    { s with cache := s.cache.upsert p, queue := s.queue.add p.key }
  else s

/-- One worker step. -/
def Labeler.work (s : Labeler lc) (i : Fin lc.numThreads) : Labeler lc :=
  match s.workers i with
  | .idle =>
    match s.queue.get with
    | none => s
    | some (key, q) => { s with queue := q, workers := Function.update s.workers i (.got key) }
  | .got key =>
    match labelerRead s.probe s.cache key with
    | .fail (.panic _) => { s with crashed := true }
    | d => { s with workers := Function.update s.workers i (.decided key d),
                    seen := Function.update s.seen key (s.cache.get key) }
  | .decided key d =>
    let workers := Function.update s.workers i .idle
    match labelerWrite s.live d with
    | .ok (live, w) =>
      { s with live, workers, writes := s.writes ++ w.toList,
               queue := s.queue.finish lc.maxNumRequeues key true }
    | .error _ => { s with workers, queue := s.queue.finish lc.maxNumRequeues key false }

/-- One action. After a panic nothing of the process moves. -/
def Labeler.step (s : Labeler lc) (a : Labeler.Action lc) : Labeler lc :=
  if s.crashed then s
  else
    match a with
    | .event p => s.handle p
    | .eventDelete key => { s with cache := s.cache.delete key }
    | .write p => { s with live := s.live.upsert p }
    | .delete key => { s with live := s.live.delete key }
    | .probe probe => { s with probe }
    | .fire key => { s with queue := s.queue.fire key }
    | .work i => s.work i

/-- A run: the actions in order. -/
def Labeler.run (s : Labeler lc) (actions : List (Labeler.Action lc)) : Labeler lc := actions.foldl Labeler.step s

/-- The states that some run from a start reaches. -/
def Labeler.Reachable (s : Labeler lc) : Prop :=
  ∃ live probe actions, s = (Labeler.init live probe : Labeler lc).run actions

/-! ## What a decision can write -/

/-- The only patch a decision leads to is the one of `ensureRoleAsPrimary` on the decided pod. -/
theorem labelerWrite_write {live live' : PodStore} {d : Decision} {w : PodWrite}
    (h : labelerWrite live d = .ok (live', some w)) :
    ∃ pod, d = .label pod true ∧ w.key = pod.key ∧ w.patch.SetsPrimary := by
  cases d with
  | skip => cases h
  | fail e => cases h
  | label pod b =>
    cases b with
    | false => rw [labelerWrite, removeRoleFromLabels_eq] at h; cases h
    | true => exact ⟨pod, rfl, ensureRoleAsPrimary_write h⟩

/-- The writes panic only on reads that panicked. -/
theorem labelerWrite_eq_panic {live : PodStore} {d : Decision} {text : String}
    (h : labelerWrite live d = .error (.panic text)) : d = .fail (.panic text) := by
  cases d with
  | skip => cases h
  | fail e => cases h; rfl
  | label pod b =>
    cases b <;> simp only [labelerWrite, ensureRoleAsPrimary, removeRoleFromLabels] at h <;>
      exact absurd h (patchPod_ne_panic _ _ _ _)

/-- A decision that sends nothing leaves the live pods as they are. -/
theorem labelerWrite_eq_none {live live' : PodStore} {d : Decision}
    (h : labelerWrite live d = .ok (live', none)) : live' = live := by
  cases d with
  | skip => exact (Prod.mk.inj (Except.ok.inj h)).1.symm
  | fail e => cases h
  | label pod b =>
    cases b <;> simp only [labelerWrite, ensureRoleAsPrimary, removeRoleFromLabels] at h <;>
      exact patchPod_eq_none h

/-- A patch the labeler of `lc` may send: to a pod of its watch, setting the role label to
`primary` and nothing else. -/
structure PodWrite.OfLabeler (lc : LabelController) (w : PodWrite) : Prop where
  own : ∃ p : Pod, lc.watches p ∧ w.key = p.key
  setsPrimary : w.patch.SetsPrimary

/-! ## The invariant -/

/-- The key a worker holds after a change of one worker's phase. -/
theorem Labeler.Phase.key_update {n : Nat} (workers : Fin n → Labeler.Phase) (i j : Fin n) (ph : Labeler.Phase) :
    (Function.update workers i ph j).key = if j = i then ph.key else (workers j).key := by
  rw [Function.update_apply]
  split_ifs <;> rfl

/-- What holds after any run: the queue's invariant; a key is in the queue's `processing` set
exactly when a worker holds it, and no two workers hold it; a cached pod is dirty, or taken by a
worker that has not read it yet, or is what the last reads of its key found; the cache holds only
watched pods, a worker decides to write only a watched pod at its own key, and every patch sent is
one the labeler may send. -/
structure Labeler.Inv (s : Labeler lc) : Prop where
  queue : s.queue.Inv lc.maxNumRequeues
  processing : ∀ k, k ∈ s.queue.processing ↔ ∃ i, (s.workers i).key = some k
  exclusive : ∀ i j k, (s.workers i).key = some k → (s.workers j).key = some k → i = j
  fresh : ∀ k p, s.cache.get k = some p →
    k ∈ s.queue.dirty ∨ (∃ i, s.workers i = .got k) ∨ s.seen k = some p
  watched : ∀ k p, s.cache.get k = some p → lc.watches p
  decided : ∀ i k pod b, s.workers i = .decided k (.label pod b) → lc.watches pod ∧ pod.key = k
  writes : ∀ w ∈ s.writes, w.OfLabeler lc

namespace Labeler

variable {s : Labeler lc}

/-- The invariant reads only the cache, the queue, the workers, the record of reads and the patches
sent: another party's write, a change of the probe and a crash keep it. -/
theorem Inv.congr {t : Labeler lc} (h : s.Inv) (hc : t.cache = s.cache) (hq : t.queue = s.queue)
    (hw : t.workers = s.workers) (hs : t.seen = s.seen) (hws : t.writes = s.writes) : t.Inv := by
  cases t
  cases hc; cases hq; cases hw; cases hs; cases hws
  exact ⟨h.queue, h.processing, h.exclusive, h.fresh, h.watched, h.decided, h.writes⟩

/-- A start has nothing cached, queued, held or sent. -/
theorem Inv.init (live : PodStore) (probe : Probe) : (Labeler.init live probe : Labeler lc).Inv where
  queue := .empty _
  processing _ := by simp [Labeler.init, WorkQueue.empty, Labeler.Phase.key]
  exclusive _ _ _ h := by cases h
  fresh _ _ h := by cases h
  watched _ _ h := by cases h
  decided _ _ _ _ h := by cases h
  writes _ h := by cases h

/-- An informer event keeps the invariant: a changed pod is cached and its key marked dirty. -/
theorem Inv.handle (h : s.Inv) (p : Pod) : (s.handle p).Inv := by
  unfold Labeler.handle
  split_ifs with hp
  · refine ⟨h.queue.add _, fun k => ?_, h.exclusive, fun k p' hk => ?_, fun k p' hk => ?_, h.decided,
      h.writes⟩
    · rw [WorkQueue.add_processing]
      exact h.processing k
    · rw [PodStore.get_upsert] at hk
      split_ifs at hk with hkp
      · exact .inl (WorkQueue.mem_dirty_add.mpr (.inl hkp))
      · exact (h.fresh k p' hk).imp_left fun hd => WorkQueue.mem_dirty_add.mpr (.inr hd)
    · rw [PodStore.get_upsert] at hk
      split_ifs at hk
      · cases hk
        exact hp.1
      · exact h.watched k p' hk
  · exact h

/-- A deletion event keeps the invariant. -/
theorem Inv.eventDelete (h : s.Inv) (key : String) : ({ s with cache := s.cache.delete key } : Labeler lc).Inv := by
  refine ⟨h.queue, h.processing, h.exclusive, fun k p hk => ?_, fun k p hk => ?_, h.decided, h.writes⟩ <;>
  · rw [PodStore.get_delete] at hk
    split_ifs at hk
    first | exact h.fresh k p hk | exact h.watched k p hk

/-- The timer keeps the invariant: it only marks keys dirty. -/
theorem Inv.fire (h : s.Inv) (key : String) : ({ s with queue := s.queue.fire key } : Labeler lc).Inv where
  queue := h.queue.fire key
  processing k := by rw [WorkQueue.fire_processing]; exact h.processing k
  exclusive := h.exclusive
  fresh k p hk := (h.fresh k p hk).imp_left fun hd => WorkQueue.dirty_subset_fire _ _ hd
  watched := h.watched
  decided := h.decided
  writes := h.writes

/-- A worker's `Get` keeps the invariant: the key it takes was held by no other worker, and the
key's mark moves to the worker. -/
theorem Inv.take (h : s.Inv) {i : Fin lc.numThreads} (hi : s.workers i = .idle) {key : String}
    {q : WorkQueue} (hq : s.queue.get = some (key, q)) :
    ({ s with queue := q, workers := Function.update s.workers i (.got key) } : Labeler lc).Inv := by
  obtain ⟨hq', hkey⟩ := h.queue.get hq
  obtain ⟨-, hp, hd, -⟩ := WorkQueue.get_eq_some hq
  have hne {j : Fin lc.numThreads} {k : String} (hj : (s.workers j).key = some k) : j ≠ i := by
    rintro rfl
    rw [hi] at hj
    cases hj
  refine ⟨hq', fun k => ?_, fun j₁ j₂ k h₁ h₂ => ?_, fun k p hk => ?_, h.watched, fun j k pod b hj => ?_,
    h.writes⟩
  · simp only [hp, Finset.mem_insert, h.processing, Labeler.Phase.key_update]
    constructor
    · rintro (rfl | ⟨j, hj⟩)
      · exact ⟨i, by simp⟩
      · exact ⟨j, by simp [hne hj, hj]⟩
    · rintro ⟨j, hj⟩
      split_ifs at hj
      · exact .inl (Option.some.inj hj).symm
      · exact .inr ⟨j, hj⟩
  · have hheld {j : Fin lc.numThreads} (hj : (s.workers j).key = some key) : False :=
      hkey ((h.processing key).mpr ⟨j, hj⟩)
    simp only [Labeler.Phase.key_update, Labeler.Phase.key_got, Labeler.Phase.key_idle] at h₁ h₂
    split_ifs at h₁ h₂ with e₁ e₂ e₂
    · exact e₁.trans e₂.symm
    · cases h₁; exact (hheld h₂).elim
    · cases h₂; exact (hheld h₁).elim
    · exact h.exclusive j₁ j₂ k h₁ h₂
  · rcases h.fresh k p hk with hk' | ⟨j, hj⟩ | hk'
    · by_cases hkk : k = key
      · exact .inr (.inl ⟨i, by simp [hkk]⟩)
      · exact .inl (hd ▸ Finset.mem_erase.mpr ⟨hkk, hk'⟩)
    · have hji : j ≠ i := hne (show (s.workers j).key = some k by rw [hj]; rfl)
      exact .inr (.inl ⟨j, (Function.update_noteq hji _ _).trans hj⟩)
    · exact .inr (.inr hk')
  · simp only [Function.update_apply] at hj
    split_ifs at hj
    exact h.decided j k pod b hj

/-- A worker's reads keep the invariant: it keeps its key, and a decided write is of the pod it
read from the cache. -/
theorem Inv.read (h : s.Inv) {i : Fin lc.numThreads} {key : String} (hi : s.workers i = .got key) :
    ({ s with workers := Function.update s.workers i (.decided key (labelerRead s.probe s.cache key)),
               seen := Function.update s.seen key (s.cache.get key) } : Labeler lc).Inv := by
  have hkeys (j : Fin lc.numThreads) :
      (Function.update s.workers i (.decided key (labelerRead s.probe s.cache key)) j).key =
        (s.workers j).key := by
    rw [Labeler.Phase.key_update]
    split_ifs with hj
    · rw [hj, hi]; rfl
    · rfl
  refine ⟨h.queue, fun k => ?_, fun j₁ j₂ k => ?_, fun k p hk => ?_, h.watched, fun j k pod b hj => ?_,
    h.writes⟩
  · simp only [hkeys]
    exact h.processing k
  · simp only [hkeys]
    exact h.exclusive j₁ j₂ k
  · by_cases hkk : k = key
    · subst hkk
      exact .inr (.inr ((Function.update_same _ _ _).trans hk))
    · rcases h.fresh k p hk with hk' | ⟨j, hj⟩ | hk'
      · exact .inl hk'
      · have hji : j ≠ i := by
          rintro rfl
          rw [hi] at hj
          exact hkk (Labeler.Phase.got.inj hj).symm
        exact .inr (.inl ⟨j, (Function.update_noteq hji _ _).trans hj⟩)
      · exact .inr (.inr ((Function.update_noteq hkk _ _).trans hk'))
  · simp only [Function.update_apply] at hj
    split_ifs at hj
    · obtain ⟨rfl, hd⟩ := Labeler.Phase.decided.inj hj
      obtain ⟨hc, -, -⟩ := labelerRead_label hd
      exact ⟨h.watched key pod hc, PodStore.key_of_get hc⟩
    · exact h.decided j k pod b hj

/-- A worker's patch, `Forget` or `AddRateLimited`, and `Done` keep the invariant, provided the
patches sent are ones the labeler may send. -/
theorem Inv.release (h : s.Inv) {i : Fin lc.numThreads} {key : String} {d : Decision}
    (hi : s.workers i = .decided key d) (ok : Bool) (live : PodStore) {writes : List PodWrite}
    (hw : ∀ w ∈ writes, w.OfLabeler lc) :
    ({ s with live, writes, workers := Function.update s.workers i .idle,
               queue := s.queue.finish lc.maxNumRequeues key ok } : Labeler lc).Inv := by
  have hheld : (s.workers i).key = some key := by rw [hi]; rfl
  have hne {j : Fin lc.numThreads} {k : String} (hj : s.workers j = .got k) : j ≠ i := by
    rintro rfl
    rw [hi] at hj
    cases hj
  refine ⟨h.queue.finish ((h.processing key).mpr ⟨i, hheld⟩) ok, fun k => ?_, fun j₁ j₂ k h₁ h₂ => ?_,
    fun k p hk => ?_, h.watched, fun j k pod b hj => ?_, hw⟩
  · simp only [WorkQueue.finish_processing, Finset.mem_erase, h.processing, Labeler.Phase.key_update, Labeler.Phase.key_idle]
    constructor
    · rintro ⟨hk, j, hj⟩
      refine ⟨j, ?_⟩
      rw [if_neg fun hji => hk (Option.some.inj ((hji ▸ hj).symm.trans hheld))]
      exact hj
    · rintro ⟨j, hj⟩
      split_ifs at hj with hji
      exact ⟨fun hk => hji (h.exclusive j i k hj (hk ▸ hheld)), j, hj⟩
  · simp only [Labeler.Phase.key_update, Labeler.Phase.key_got, Labeler.Phase.key_idle] at h₁ h₂
    split_ifs at h₁ h₂
    exact h.exclusive j₁ j₂ k h₁ h₂
  · rcases h.fresh k p hk with hk' | ⟨j, hj⟩ | hk'
    · exact .inl (by simpa only [WorkQueue.finish_dirty] using hk')
    · exact .inr (.inl ⟨j, (Function.update_noteq (hne hj) _ _).trans hj⟩)
    · exact .inr (.inr hk')
  · simp only [Function.update_apply] at hj
    split_ifs at hj
    exact h.decided j k pod b hj

/-- Each worker step keeps the invariant. -/
theorem Inv.work (h : s.Inv) (i : Fin lc.numThreads) : (s.work i).Inv := by
  unfold Labeler.work
  split
  · next hi =>
    split
    · exact h
    · next hq => exact h.take hi hq
  · next key hi =>
    split
    · exact h.congr rfl rfl rfl rfl rfl
    · exact h.read hi
  · next key d hi =>
    split
    · next live w hd =>
      refine h.release hi true live fun w' hw' => ?_
      rcases List.mem_append.mp hw' with hw' | hw'
      · exact h.writes w' hw'
      · obtain rfl : w = some w' := Option.mem_toList.mp hw'
        obtain ⟨pod, rfl, hkey, hsets⟩ := labelerWrite_write hd
        obtain ⟨hwatch, hpod⟩ := h.decided i key pod true hi
        exact ⟨⟨pod, hwatch, hkey⟩, hsets⟩
    · exact h.release hi false s.live h.writes

/-- Each action keeps the invariant. -/
theorem Inv.step (h : s.Inv) (a : Labeler.Action lc) : (s.step a).Inv := by
  unfold Labeler.step
  split
  · exact h
  · cases a with
    | event p => exact h.handle p
    | eventDelete key => exact h.eventDelete key
    | write _ | delete _ | probe _ => exact h.congr rfl rfl rfl rfl rfl
    | fire key => exact h.fire key
    | work i => exact h.work i

/-- The invariant holds after every run from a state where it holds. -/
theorem Inv.run (h : s.Inv) (actions : List (Labeler.Action lc)) : (s.run actions).Inv := by
  induction actions generalizing s with
  | nil => exact h
  | cons a actions ih => exact ih (h.step a)

/-- Every reachable state keeps the invariant. -/
theorem Inv.of_reachable (hs : s.Reachable) : s.Inv := by
  obtain ⟨live, probe, actions, rfl⟩ := hs
  exact (Inv.init live probe).run actions

/-- When nothing is queued and every worker is idle, the last reads of each cached pod's key found
it as it is cached. -/
theorem Inv.seen_of_quiescent (h : s.Inv) (hq : s.queue.queue = []) (hw : ∀ i, s.workers i = .idle)
    {k : String} {p : Pod} (hp : s.cache.get k = some p) : s.seen k = some p := by
  have hidle (k : String) : ¬∃ i, (s.workers i).key = some k := by
    rintro ⟨i, hi⟩
    rw [hw i] at hi
    cases hi
  rcases h.fresh k p hp with hd | ⟨i, hi⟩ | hseen
  · rcases h.queue.dirty k hd with hk | hk
    · rw [hq] at hk
      cases hk
    · exact absurd ((h.processing k).mp hk) (hidle k)
  · exact absurd ⟨i, by rw [hi]; rfl⟩ (hidle k)
  · exact hseen

/-! ## The live pods -/

/-- An informer event does not touch the live pods. -/
@[simp] theorem handle_live (s : Labeler lc) (p : Pod) : (s.handle p).live = s.live := by
  unfold Labeler.handle
  split_ifs <;> rfl

/-- A worker step changes the live pods only by the write of a decision. -/
theorem work_live (s : Labeler lc) (i : Fin lc.numThreads) :
    (s.work i).live = s.live ∨ ∃ d w, labelerWrite s.live d = .ok ((s.work i).live, w) := by
  unfold Labeler.work
  split
  · split <;> exact .inl rfl
  · split <;> exact .inl rfl
  · split
    · next live w hw => exact .inr ⟨_, w, hw⟩
    · exact .inl rfl

/-- A relation on the live pods that holds from each store to itself, composes, and holds across
every step but another party's write or deletion, holds across every run of such steps. -/
theorem run_live {R : PodStore → PodStore → Prop} (hrefl : ∀ l, R l l)
    (htrans : ∀ {l₁ l₂ l₃}, R l₁ l₂ → R l₂ l₃ → R l₁ l₃)
    (hstep : ∀ (s : Labeler lc) (a : Labeler.Action lc), a.external = false → R s.live (s.step a).live)
    {actions : List (Labeler.Action lc)} (hown : ∀ a ∈ actions, a.external = false) :
    R s.live (s.run actions).live := by
  induction actions generalizing s with
  | nil => exact hrefl _
  | cons a actions ih =>
    exact htrans (hstep s a (hown a (.head _))) (ih fun a' h => hown a' (.tail _ h))

end Labeler

/-! ## The labeler beside `db-0-1` -/

/-- The labeler beside the pod `db-0-1` of namespace `ns`, with five requeues and two workers. -/
def sidecar : LabelController := ⟨5, 2, "ns", "db-0-1"⟩

/-- Its first worker. -/
def firstWorker : Fin sidecar.numThreads := ⟨0, by decide⟩

/-- The patch that gives `db-0-1` the role `primary`. -/
def primaryWrite : PodWrite := ⟨"ns/db-0-1", ⟨[(LabelRole, some Primary)], [], none, none⟩⟩

/-- The informer delivers `db-0-1` without a role, and the first worker takes its key; the group's
primary is `db-0-1`. -/
def takenState : Labeler sidecar :=
  (Labeler.init [groupPod "db-0-1" none] (hostProbe "db-0-1.db-0-gvr.ns")).run
    [.event (groupPod "db-0-1" none), .work firstWorker]

/-- The same, and the worker then reads and patches the pod. -/
def labeledState : Labeler sidecar :=
  (Labeler.init [groupPod "db-0-1" none] (hostProbe "db-0-1.db-0-gvr.ns")).run
    [.event (groupPod "db-0-1" none), .work firstWorker, .work firstWorker, .work firstWorker]

/-- A failover to `db-0-2` while `db-0-1` carries the role `primary`: the informer delivers
`db-0-1`, and a worker takes, reads and reconciles it. -/
def failoverRun : List (Labeler.Action sidecar) :=
  [.event (groupPod "db-0-1" (some Primary)), .work firstWorker, .work firstWorker, .work firstWorker]

/-! ## What every run keeps -/

section Runs

variable {s : Labeler lc}

/-- On every run, no two workers hold the same key: a pod is never reconciled by two workers at
once. -/
theorem run_exclusive (hs : s.Reachable) {i j : Fin lc.numThreads} {k : String}
    (hi : (s.workers i).key = some k) (hj : (s.workers j).key = some k) : i = j :=
  (Labeler.Inv.of_reachable hs).exclusive i j k hi hj

/-- The first worker holds the key of `db-0-1` after its `Get`. -/
theorem run_exclusive_taken :
    (takenState.workers firstWorker).key = some "ns/db-0-1" ∧ firstWorker = firstWorker :=
  have hi : (takenState.workers firstWorker).key = some "ns/db-0-1" := rfl
  ⟨hi, run_exclusive (show takenState.Reachable from ⟨_, _, _, rfl⟩) hi hi⟩

/-- No event is lost: whenever nothing is queued and every worker is idle, the last reads of each
cached pod's key found the pod as it is cached now, so every change the informer delivered was
reconciled after it arrived. -/
theorem run_quiescent_fresh (hs : s.Reachable) (hq : s.queue.queue = [])
    (hw : ∀ i, s.workers i = .idle) {k : String} {p : Pod} (hp : s.cache.get k = some p) :
    s.seen k = some p :=
  (Labeler.Inv.of_reachable hs).seen_of_quiescent hq hw hp

/-- After `db-0-1` is labeled, nothing is queued, both workers are idle, and the pod is cached. -/
theorem run_quiescent_fresh_labeled :
    labeledState.queue.queue = [] ∧ labeledState.cache.get "ns/db-0-1" = some (groupPod "db-0-1" none) ∧
      labeledState.seen "ns/db-0-1" = some (groupPod "db-0-1" none) :=
  have hp : labeledState.cache.get "ns/db-0-1" = some (groupPod "db-0-1" none) := rfl
  ⟨rfl, hp, run_quiescent_fresh (show labeledState.Reachable from ⟨_, _, _, rfl⟩) rfl (by decide) hp⟩

/-- Every patch the labeler sends, on any run and whatever the other parties do, goes to a pod of
its own watch and sets the role label to `primary`, and nothing else: the labeler never removes a
role, and never touches another label, an annotation, the spec or the status. -/
theorem run_sends_only_primary (hs : s.Reachable) {w : PodWrite} (hw : w ∈ s.writes) : w.OfLabeler lc :=
  (Labeler.Inv.of_reachable hs).writes w hw

/-- The one patch of the run that labels `db-0-1`. -/
theorem run_sends_only_primary_labeled :
    labeledState.writes = [primaryWrite] ∧ primaryWrite.OfLabeler sidecar :=
  have hw : labeledState.writes = [primaryWrite] := rfl
  ⟨hw, run_sends_only_primary (show labeledState.Reachable from ⟨_, _, _, rfl⟩) (hw ▸ List.mem_singleton_self primaryWrite)⟩

/-- A worker that holds a key, and whose reads and patch follow each other with no other action
between them, does what `podLabeler` does on the cache and the live pods: on success, its pods and
its patch, and `Forget`; on an error, the pods as they were and a requeue through the rate limiter;
on a panic, a crash. -/
theorem work_work_eq_podLabeler (hc : s.crashed = false) {i : Fin lc.numThreads} {key : String}
    (hi : s.workers i = .got key) :
    match podLabeler s.probe s.cache s.live key with
    | .ok (live, w) => (s.run [.work i, .work i]).live = live ∧
        (s.run [.work i, .work i]).writes = s.writes ++ w.toList ∧
        (s.run [.work i, .work i]).queue = s.queue.finish lc.maxNumRequeues key true
    | .error (.panic _) => (s.run [.work i, .work i]).crashed = true
    | .error _ => (s.run [.work i, .work i]).live = s.live ∧
        (s.run [.work i, .work i]).writes = s.writes ∧
        (s.run [.work i, .work i]).queue = s.queue.finish lc.maxNumRequeues key false := by
  rw [podLabeler_eq_labelerWrite]
  simp only [Labeler.run, List.foldl, Labeler.step, hc, Bool.false_eq_true, if_false, Labeler.work, hi]
  generalize labelerRead s.probe s.cache key = d
  rcases d with _ | ⟨_ | _ | text⟩ | ⟨pod, b⟩
  case fail.panic => exact rfl
  all_goals
    simp only [Function.update_same, hc, Bool.false_eq_true, if_false]
    split
    · next hw => simp [hw]
    · next hw => cases labelerWrite_eq_panic hw
    · next hw => simp [hw]

/-- The first worker, holding the key of `db-0-1`, reads and patches it as `podLabeler` does. -/
theorem work_work_eq_podLabeler_taken :
    (takenState.run [.work firstWorker, .work firstWorker]).writes = takenState.writes ++ [primaryWrite] :=
  (work_work_eq_podLabeler (show takenState.crashed = false from rfl)
    (show takenState.workers firstWorker = .got "ns/db-0-1" from rfl)).2.1

end Runs

end MySQLOperator
