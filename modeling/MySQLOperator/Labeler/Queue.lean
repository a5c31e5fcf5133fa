import Mathlib.Algebra.BigOperators.Group.Finset

/-!
# The work queue of the labeler

`initWatcher` hands `podLabeler` to `queue.New("Pod", maxNumRequeues, numThreads, …)` of kmodules,
which runs `numThreads` workers over a rate-limited `workqueue` of client-go. Neither library is
under `src/`; this file models the part of them that decides which worker reconciles which key,
and when.

The queue keeps three sets beside its order: `dirty`, the keys that need a reconcile; `processing`,
the keys a worker holds; and the keys waiting out a back-off. A key added while a worker holds it
is only marked dirty, and `Done` queues it again, so a key is never held twice and an `Add` is
never lost. `Inv` names these facts, and each operation keeps them (`Inv.add`, `Inv.get`,
`Inv.finish`, `Inv.fire`). A worker whose reconcile fails requeues the key through the rate
limiter while its count is below `maxRetries`, and otherwise forgets it (`finish_false`), so the
count never passes `maxRetries` (`Inv.failures`). `owed` counts the reconciles the queue owes; only
`Add` raises it (`owed_add`), by one.
-/

namespace MySQLOperator

/-- `workqueue.Type` behind the rate limiter and the delaying queue that
`workqueue.NewNamedRateLimitingQueue` builds. -/
structure WorkQueue where
  /-- The keys to hand out, in order. -/
  queue : List String
  /-- The keys that need a reconcile: queued, or added again while a worker holds them. -/
  dirty : Finset String
  /-- The keys that a worker holds. -/
  processing : Finset String
  /-- The keys of `AddAfter` whose back-off has not run out. -/
  waiting : Finset String
  /-- The rate limiter's count of each key's requeues, `NumRequeues`. -/
  failures : String → Nat

namespace WorkQueue

/-- A new queue. -/
def empty : WorkQueue := ⟨[], ∅, ∅, ∅, fun _ => 0⟩

/-- `Add`: a dirty key is left as it is; a key that a worker holds is marked dirty, to be queued
at its `Done`; any other key is marked and queued. -/
def add (q : WorkQueue) (key : String) : WorkQueue :=
  if key ∈ q.dirty then q
  else if key ∈ q.processing then { q with dirty := insert key q.dirty }
  else { q with dirty := insert key q.dirty, queue := q.queue ++ [key] }

/-- `Get`: the first queued key, now held and no longer dirty; `none` while the queue is empty,
where the worker blocks. -/
def get (q : WorkQueue) : Option (String × WorkQueue) :=
  match q.queue with
  | [] => none
  | key :: rest =>
    some (key, { q with queue := rest, processing := insert key q.processing, dirty := q.dirty.erase key })

/-- `Done`: the key is no longer held, and is queued again if it was added meanwhile. -/
def done (q : WorkQueue) (key : String) : WorkQueue :=
  if key ∈ q.dirty then { q with processing := q.processing.erase key, queue := q.queue ++ [key] }
  else { q with processing := q.processing.erase key }

/-- `Forget`: the rate limiter drops the key's count. -/
def forget (q : WorkQueue) (key : String) : WorkQueue :=
  { q with failures := Function.update q.failures key 0 }

/-- `AddRateLimited`: the key's count goes up, and it waits out its back-off (`AddAfter`). -/
def addRateLimited (q : WorkQueue) (key : String) : WorkQueue :=
  { q with failures := Function.update q.failures key (q.failures key + 1), waiting := insert key q.waiting }

/-- The delaying queue's timer: a waiting key whose back-off has run out is added. -/
def fire (q : WorkQueue) (key : String) : WorkQueue :=
  if key ∈ q.waiting then ({ q with waiting := q.waiting.erase key } : WorkQueue).add key else q

/-- The end of `Worker.processNextEntry` after `reconcile(key)`: `Forget` on success; after an
error, `AddRateLimited` while `NumRequeues` is below `maxRetries` and `Forget` once it is not;
then the deferred `Done`. -/
def finish (q : WorkQueue) (maxRetries : Nat) (key : String) (ok : Bool) : WorkQueue :=
  (if ok then q.forget key
    else if q.failures key < maxRetries then q.addRateLimited key else q.forget key).done key

/-! ## What each operation changes -/

variable {q q' : WorkQueue} {k key : String} {m : Nat}

/-- `Add` holds no key. -/
@[simp] theorem add_processing (q : WorkQueue) (key : String) :
    (q.add key).processing = q.processing := by
  unfold add; split_ifs <;> rfl

/-- `Add` leaves the counts. -/
@[simp] theorem add_failures (q : WorkQueue) (key : String) : (q.add key).failures = q.failures := by
  unfold add; split_ifs <;> rfl

/-- After `Add`, the key is dirty, beside the keys dirty before. -/
theorem mem_dirty_add : k ∈ (q.add key).dirty ↔ k = key ∨ k ∈ q.dirty := by
  unfold add
  split_ifs with h
  · exact ⟨Or.inr, fun h' => h'.elim (· ▸ h) id⟩
  all_goals exact Finset.mem_insert

/-- `Add` queues only the key it adds. -/
theorem mem_queue_add : k ∈ (q.add key).queue ↔ k ∈ q.queue ∨ (k = key ∧ key ∉ q.dirty ∧ key ∉ q.processing) := by
  unfold add
  split_ifs with h₁ h₂
  · simp [h₁]
  all_goals simp [h₁, h₂]

/-- `Done` leaves the dirty keys. -/
@[simp] theorem done_dirty (q : WorkQueue) (key : String) : (q.done key).dirty = q.dirty := by
  unfold done; split_ifs <;> rfl

/-- `Done` releases the key. -/
@[simp] theorem done_processing (q : WorkQueue) (key : String) :
    (q.done key).processing = q.processing.erase key := by
  unfold done; split_ifs <;> rfl

/-- `Done` leaves the counts. -/
@[simp] theorem done_failures (q : WorkQueue) (key : String) : (q.done key).failures = q.failures := by
  unfold done; split_ifs <;> rfl

/-- `Done` queues the key again exactly when it is dirty. -/
theorem done_queue (q : WorkQueue) (key : String) :
    (q.done key).queue = if key ∈ q.dirty then q.queue ++ [key] else q.queue := by
  unfold done; split_ifs <;> rfl

/-- `Done` queues only the key it ends, and only when it is dirty. -/
theorem mem_queue_done : k ∈ (q.done key).queue ↔ k ∈ q.queue ∨ (k = key ∧ key ∈ q.dirty) := by
  rw [done_queue]
  split_ifs with h <;> simp [h]

/-- The bookkeeping before `Done` touches neither the queue nor the two sets. -/
theorem finish_eq (q : WorkQueue) (maxRetries : Nat) (key : String) (ok : Bool) :
    ∃ q₀ : WorkQueue, q.finish maxRetries key ok = q₀.done key ∧ q₀.queue = q.queue ∧
      q₀.dirty = q.dirty ∧ q₀.processing = q.processing ∧
      (q₀.failures = Function.update q.failures key 0 ∨
        q.failures key < maxRetries ∧
          q₀.failures = Function.update q.failures key (q.failures key + 1)) := by
  unfold finish
  split_ifs with h₁ h₂
  · exact ⟨_, rfl, rfl, rfl, rfl, .inl rfl⟩
  · exact ⟨_, rfl, rfl, rfl, rfl, .inr ⟨h₂, rfl⟩⟩
  · exact ⟨_, rfl, rfl, rfl, rfl, .inl rfl⟩

/-- The end of a reconcile leaves the dirty keys. -/
@[simp] theorem finish_dirty (q : WorkQueue) (maxRetries : Nat) (key : String) (ok : Bool) :
    (q.finish maxRetries key ok).dirty = q.dirty := by
  obtain ⟨q₀, h, -, hd, -⟩ := q.finish_eq maxRetries key ok
  rw [h, done_dirty, hd]

/-- The end of a reconcile releases the key. -/
@[simp] theorem finish_processing (q : WorkQueue) (maxRetries : Nat) (key : String) (ok : Bool) :
    (q.finish maxRetries key ok).processing = q.processing.erase key := by
  obtain ⟨q₀, h, -, -, hp, -⟩ := q.finish_eq maxRetries key ok
  rw [h, done_processing, hp]

/-- `Get` hands out the head of the queue, holds it and clears its mark. -/
theorem get_eq_some (h : q.get = some (key, q')) :
    q.queue = key :: q'.queue ∧ q'.processing = insert key q.processing ∧
      q'.dirty = q.dirty.erase key ∧ q'.waiting = q.waiting ∧ q'.failures = q.failures := by
  unfold get at h
  split at h
  · cases h
  · next rest hq =>
    cases h
    exact ⟨hq, rfl, rfl, rfl, rfl⟩

/-! ## The queue's invariant -/

/-- What the queue keeps, whatever the workers do: the queue holds no key twice, only dirty keys
and no held key; every dirty key is queued or held; and no count passes `maxRetries`. -/
structure Inv (maxRetries : Nat) (q : WorkQueue) : Prop where
  nodup : q.queue.Nodup
  queue_dirty : ∀ k ∈ q.queue, k ∈ q.dirty
  queue_processing : ∀ k ∈ q.queue, k ∉ q.processing
  dirty : ∀ k ∈ q.dirty, k ∈ q.queue ∨ k ∈ q.processing
  failures : ∀ k, q.failures k ≤ maxRetries

/-- The empty queue the controller starts from has the invariant. -/
theorem Inv.empty (maxRetries : Nat) : empty.Inv maxRetries :=
  ⟨List.nodup_nil, by simp [WorkQueue.empty], by simp [WorkQueue.empty], by simp [WorkQueue.empty],
    fun _ => Nat.zero_le _⟩

/-- `Add` keeps the invariant. -/
theorem Inv.add (h : q.Inv m) (key : String) : (q.add key).Inv m := by
  refine ⟨?_, fun k hk => ?_, fun k hk => ?_, fun k hk => ?_, by simpa using h.failures⟩
  · unfold WorkQueue.add
    split_ifs with h₁
    · exact h.nodup
    · exact h.nodup
    · exact h.nodup.append (List.nodup_singleton _)
        (List.disjoint_singleton.mpr fun hm => h₁ (h.queue_dirty _ hm))
  · rcases mem_queue_add.mp hk with hk | ⟨rfl, -⟩
    · exact mem_dirty_add.mpr (.inr (h.queue_dirty k hk))
    · exact mem_dirty_add.mpr (.inl rfl)
  · rw [add_processing]
    rcases mem_queue_add.mp hk with hk | ⟨rfl, -, hp⟩
    · exact h.queue_processing k hk
    · exact hp
  · rw [mem_queue_add, add_processing]
    rcases mem_dirty_add.mp hk with rfl | hk
    · by_cases hd : k ∈ q.dirty
      · exact (h.dirty k hd).imp_left .inl
      · by_cases hp : k ∈ q.processing
        · exact .inr hp
        · exact .inl (.inr ⟨rfl, hd, hp⟩)
    · exact (h.dirty k hk).imp_left .inl

/-- `Get` keeps the invariant, and hands out a key that no worker holds. -/
theorem Inv.get (hq : q.Inv m) (h : q.get = some (key, q')) : q'.Inv m ∧ key ∉ q.processing := by
  obtain ⟨hqueue, hp, hd, -, hf⟩ := get_eq_some h
  have hnd : (key :: q'.queue).Nodup := hqueue ▸ hq.nodup
  have hmem (k : String) (hk : k ∈ q'.queue) : k ∈ q.queue := hqueue ▸ List.mem_cons_of_mem _ hk
  have hne (k : String) (hk : k ∈ q'.queue) : k ≠ key := fun he => (List.nodup_cons.mp hnd).1 (he ▸ hk)
  have hkey : key ∉ q.processing := hq.queue_processing key (hqueue ▸ List.mem_cons_self _ _)
  refine ⟨⟨(List.nodup_cons.mp hnd).2, fun k hk => ?_, fun k hk => ?_, fun k hk => ?_,
    hf ▸ hq.failures⟩, hkey⟩
  · rw [hd]
    exact Finset.mem_erase.mpr ⟨hne k hk, hq.queue_dirty k (hmem k hk)⟩
  · rw [hp, Finset.mem_insert, not_or]
    exact ⟨hne k hk, hq.queue_processing k (hmem k hk)⟩
  · rw [hd, Finset.mem_erase] at hk
    rw [hp, Finset.mem_insert]
    rcases hq.dirty k hk.2 with hk' | hk'
    · rw [hqueue] at hk'
      exact (List.mem_cons.mp hk').elim (fun he => absurd he hk.1) .inl
    · exact .inr (.inr hk')

/-- `Done` of a held key keeps the invariant. -/
theorem Inv.done (hq : q.Inv m) (hk : key ∈ q.processing) : (q.done key).Inv m := by
  have hkq : key ∉ q.queue := fun hm => hq.queue_processing key hm hk
  refine ⟨?_, fun k hk' => ?_, fun k hk' => ?_, fun k hk' => ?_, by simpa using hq.failures⟩
  · rw [done_queue]
    split_ifs
    · exact hq.nodup.append (List.nodup_singleton _) (List.disjoint_singleton.mpr hkq)
    · exact hq.nodup
  · rw [done_dirty]
    rcases mem_queue_done.mp hk' with hk' | ⟨rfl, hd⟩
    · exact hq.queue_dirty k hk'
    · exact hd
  · rw [done_processing, Finset.mem_erase, not_and_or, not_not]
    rcases mem_queue_done.mp hk' with hk' | ⟨rfl, -⟩
    · exact .inr (hq.queue_processing k hk')
    · exact .inl rfl
  · rw [done_dirty] at hk'
    rw [mem_queue_done, done_processing, Finset.mem_erase]
    by_cases hkk : k = key
    · exact .inl (.inr ⟨hkk, hkk ▸ hk'⟩)
    · exact (hq.dirty k hk').imp .inl fun h => ⟨hkk, h⟩

/-- A worker's end of a reconcile of a held key keeps the invariant: the count goes up only while
it is below `maxRetries`. -/
theorem Inv.finish (hq : q.Inv m) (hk : key ∈ q.processing) (ok : Bool) :
    (q.finish m key ok).Inv m := by
  obtain ⟨q₀, h, hqu, hd, hp, hf⟩ := q.finish_eq m key ok
  have hf₀ : ∀ k, q₀.failures k ≤ m := by
    intro k
    rcases hf with hf | ⟨hlt, hf⟩ <;> rw [hf] <;> by_cases hkk : k = key
    · subst hkk; simp
    · rw [Function.update_noteq hkk]; exact hq.failures k
    · subst hkk; simp; omega
    · rw [Function.update_noteq hkk]; exact hq.failures k
  have h₀ : q₀.Inv m := by
    refine ⟨?_, ?_, ?_, ?_, hf₀⟩ <;> rw [hqu] <;> (try rw [hd]) <;> (try rw [hp])
    exacts [hq.nodup, hq.queue_dirty, hq.queue_processing, hq.dirty]
  rw [h]
  exact h₀.done (hp ▸ hk)

/-- The timer keeps the invariant. -/
theorem Inv.fire (hq : q.Inv m) (key : String) : (q.fire key).Inv m := by
  unfold WorkQueue.fire
  split_ifs
  · exact (show Inv m { q with waiting := q.waiting.erase key } from
      ⟨hq.nodup, hq.queue_dirty, hq.queue_processing, hq.dirty, hq.failures⟩).add key
  · exact hq

/-- The timer holds no key. -/
@[simp] theorem fire_processing (q : WorkQueue) (key : String) :
    (q.fire key).processing = q.processing := by
  unfold fire; split_ifs <;> simp

/-- The timer only adds to the dirty keys. -/
theorem dirty_subset_fire (q : WorkQueue) (key : String) : q.dirty ⊆ (q.fire key).dirty := by
  intro k hk
  unfold fire
  split_ifs
  · exact mem_dirty_add.mpr (.inr hk)
  · exact hk

/-! ## The tries left -/

/-- `Add` leaves the waiting keys. -/
@[simp] theorem add_waiting (q : WorkQueue) (key : String) : (q.add key).waiting = q.waiting := by
  unfold add; split_ifs <;> rfl

/-- `Done` leaves the waiting keys. -/
@[simp] theorem done_waiting (q : WorkQueue) (key : String) : (q.done key).waiting = q.waiting := by
  unfold done; split_ifs <;> rfl

/-- The tries left to the keys waiting out a back-off: a key whose count is `n` is handed out at
most `maxRetries + 1 - n` more times before it is forgotten, unless it is added again. -/
def retriesLeft (q : WorkQueue) (maxRetries : Nat) : Nat :=
  ∑ k ∈ q.waiting, (maxRetries + 1 - q.failures k)

/-- The timer takes the tries of the key it fires off the waiting keys'. -/
theorem retriesLeft_fire (hk : key ∈ q.waiting) :
    (q.fire key).retriesLeft m + (m + 1 - q.failures key) = q.retriesLeft m := by
  unfold fire retriesLeft
  rw [if_pos hk, add_waiting, add_failures]
  exact Finset.sum_erase_add q.waiting _ hk

/-- `Get` leaves the tries. -/
theorem retriesLeft_get (h : q.get = some (key, q')) : q'.retriesLeft m = q.retriesLeft m := by
  obtain ⟨-, -, -, hw, hf⟩ := get_eq_some h
  simp only [retriesLeft, hw, hf]

/-- `Done` leaves the tries. -/
@[simp] theorem retriesLeft_done (q : WorkQueue) (key : String) (m : Nat) :
    (q.done key).retriesLeft m = q.retriesLeft m := by
  simp only [retriesLeft, done_waiting, done_failures]

/-- The count of a key that is not waiting is none of the tries. -/
theorem retriesLeft_update (hk : key ∉ q.waiting) (n : Nat) :
    ∑ k ∈ q.waiting, (m + 1 - Function.update q.failures key n k) = q.retriesLeft m :=
  Finset.sum_congr rfl fun _ hk' => by rw [Function.update_noteq (ne_of_mem_of_not_mem hk' hk)]

/-- `AddRateLimited` of a key that is not waiting adds the tries its raised count leaves. -/
theorem retriesLeft_addRateLimited (hk : key ∉ q.waiting) :
    (q.addRateLimited key).retriesLeft m = q.retriesLeft m + (m - q.failures key) := by
  show ∑ k ∈ insert key q.waiting, (m + 1 - Function.update q.failures key (q.failures key + 1) k) = _
  rw [Finset.sum_insert hk, Function.update_same, retriesLeft_update hk]
  omega

/-- The end of a reconcile of a key that is not waiting adds at most the tries its count leaves:
`Forget` adds none, and `AddRateLimited` the ones after its raised count. -/
theorem retriesLeft_finish (hk : key ∉ q.waiting) (ok : Bool) :
    (q.finish m key ok).retriesLeft m ≤ q.retriesLeft m + (m - q.failures key) := by
  have hforget : (q.forget key).retriesLeft m = q.retriesLeft m := retriesLeft_update hk 0
  unfold finish
  split_ifs
  · rw [retriesLeft_done, hforget]; omega
  · rw [retriesLeft_done, retriesLeft_addRateLimited hk]
  · rw [retriesLeft_done, hforget]; omega

/-- With nothing queued or held, the timer queues the waiting key it fires, alone. -/
theorem fire_queue_of_rest (hq : q.Inv m) (hqueue : q.queue = []) (hp : q.processing = ∅)
    (hk : key ∈ q.waiting) : (q.fire key).queue = [key] := by
  have hd : key ∉ q.dirty := fun hd => by
    rcases hq.dirty key hd with h | h
    · simp [hqueue] at h
    · simp [hp] at h
  unfold fire add
  simp [hk, hd, hp, hqueue]

/-- After a failed reconcile the key's count goes up, and the key waits out a back-off, exactly
while the count is below `maxRetries`; otherwise the count is dropped and the key does not wait. -/
theorem finish_false (q : WorkQueue) (m : Nat) (key : String) :
    (q.finish m key false).failures key = (if q.failures key < m then q.failures key + 1 else 0) ∧
      (key ∈ (q.finish m key false).waiting ↔ key ∈ q.waiting ∨ q.failures key < m) := by
  simp only [finish, Bool.false_eq_true, if_false]
  split_ifs with h <;> simp [addRateLimited, forget, h]

/-! ## The reconciles owed -/

/-- The reconciles the queue owes: one for each queued key, and one for each held key added again
while held, which its `Done` queues. -/
def owed (q : WorkQueue) : Nat := q.queue.length + (q.processing.filter (· ∈ q.dirty)).card

/-- `Add` owes at most one reconcile more. -/
theorem owed_add (q : WorkQueue) (key : String) : (q.add key).owed ≤ q.owed + 1 := by
  unfold add owed
  split_ifs with h₁ h₂
  · omega
  · -- a held key is marked
    have hsub : q.processing.filter (· ∈ insert key q.dirty) ⊆
        insert key (q.processing.filter (· ∈ q.dirty)) := fun k hk => by
      simp only [Finset.mem_filter, Finset.mem_insert] at hk ⊢
      tauto
    have := (Finset.card_le_card hsub).trans (Finset.card_insert_le _ _)
    simp only
    omega
  · -- any other key is marked and queued
    have hfilter : q.processing.filter (· ∈ insert key q.dirty) = q.processing.filter (· ∈ q.dirty) :=
      Finset.filter_congr fun k hk => by simp [ne_of_mem_of_not_mem hk h₂]
    simp only [hfilter, List.length_append, List.length_singleton]
    omega

/-- The timer owes at most one reconcile more. -/
theorem owed_fire (q : WorkQueue) (key : String) : (q.fire key).owed ≤ q.owed + 1 := by
  unfold fire
  split_ifs
  · exact owed_add _ key
  · omega

/-- `Get` of a key that no worker holds moves one reconcile owed to the worker that takes it. -/
theorem owed_get (h : q.get = some (key, q')) (hk : key ∉ q.processing) : q'.owed + 1 = q.owed := by
  obtain ⟨hq, hp, hd, -⟩ := get_eq_some h
  have hfilter : q'.processing.filter (· ∈ q'.dirty) = q.processing.filter (· ∈ q.dirty) := by
    ext k
    rw [hp, hd]
    by_cases hkk : k = key
    · subst hkk; simp [hk]
    · simp [hkk]
  simp only [owed, hfilter, hq, List.length_cons]
  omega

/-- `Done` of a held key owes what was owed: a dirty key goes from the held ones to the queue. -/
theorem owed_done (hk : key ∈ q.processing) : (q.done key).owed = q.owed := by
  unfold done owed
  split_ifs with hd
  · have hmem : key ∈ q.processing.filter (· ∈ q.dirty) := Finset.mem_filter.mpr ⟨hk, hd⟩
    simp only [Finset.filter_erase, Finset.card_erase_of_mem hmem, List.length_append,
      List.length_singleton]
    have := Finset.card_pos.mpr ⟨key, hmem⟩
    omega
  · have hnot : key ∉ q.processing.filter (· ∈ q.dirty) := fun h => hd (Finset.mem_filter.mp h).2
    simp only [Finset.filter_erase, Finset.erase_eq_of_not_mem hnot]

/-- The end of a reconcile of a held key owes what was owed. -/
theorem owed_finish (hk : key ∈ q.processing) (ok : Bool) : (q.finish m key ok).owed = q.owed := by
  obtain ⟨q₀, h, hqu, hd, hp, -⟩ := q.finish_eq m key ok
  rw [h, owed_done (hp ▸ hk)]
  simp only [owed, hqu, hd, hp]

end WorkQueue

end MySQLOperator
