import MySQLOperator.Labeler.Controller
import Mathlib.Data.List.FinRange

/-!
# The labeler's workers never get stuck, and never run without cause

From any state, the labeler's own workers, with no informer event and no timer, can bring it to
rest: every busy worker finishes its key (`finish_workers`), and then one worker takes the queued
keys one by one, each in a `Get`, its reads and its patch (`drain_queue`), since a key taken from
the queue is no longer dirty and `Done` does not queue it again. Only a panic of `checkPrimary`
stops them. From a reachable state the rest they reach is one where every cached pod has been
reconciled as it is cached (`run_drains`).

A failed reconcile sends its key through the back-off, and the timers hand it out again. This ends
too: with `retriesLeft`, the sum over the waiting keys of the tries their counts leave, as the
measure, a timer and one reconcile at rest always take at least one try off (`run_retry`), since
the count only goes up while it is below `maxNumRequeues` and a key is forgotten after that. So
the workers and the timers alone bring the labeler to a rest where no key waits either, and no
count ever passes `maxNumRequeues` (`run_settles`).

Conversely, the workers make no reconcile that an event or a timer did not ask for. `pending`
counts the reconciles owed: the queued keys, the held keys added again while held, and the workers
that have not read their key yet. A reconcile pays one, an informer event or a timer adds at most
one, and no other step adds any (`Labeler.Inv.pending_step`). Summed over a run
(`Labeler.Inv.reconcileCount_le`), the reconciles of any run are at most those owed at its start
and one per event and timer, and at rest none is owed (`run_reconciles_le`): a failover alone
makes the labeler do nothing.
-/

namespace MySQLOperator

namespace Labeler

variable {lc : LabelController} {s : Labeler lc}

/-- A run of two parts is the second part run from where the first left. -/
theorem run_append (s : Labeler lc) (as bs : List (Labeler.Action lc)) :
    s.run (as ++ bs) = (s.run as).run bs :=
  List.foldl_append _ _ _ _

/-- The states reachable from a reachable state are reachable. -/
theorem Reachable.run (hs : s.Reachable) (actions : List (Labeler.Action lc)) :
    (s.run actions).Reachable := by
  obtain ⟨live, probe, as, rfl⟩ := hs
  exact ⟨live, probe, as ++ actions, (run_append _ _ _).symm⟩

/-- A worker step does not touch the informer's cache. -/
@[simp] theorem work_cache (s : Labeler lc) (i : Fin lc.numThreads) : (s.work i).cache = s.cache := by
  unfold Labeler.work
  split
  · split <;> rfl
  · split <;> rfl
  · split <;> rfl

/-- Worker steps leave the cache as it is. -/
theorem run_cache_of_work {actions : List (Labeler.Action lc)} (ha : ∀ a ∈ actions, ∃ i, a = .work i) :
    (s.run actions).cache = s.cache := by
  induction actions generalizing s with
  | nil => rfl
  | cons a actions ih =>
    obtain ⟨i, rfl⟩ := ha a (.head _)
    refine (ih fun a' h => ha a' (.tail _ h)).trans ?_
    show (s.step (.work i)).cache = s.cache
    unfold Labeler.step
    split
    · rfl
    · exact work_cache s i

/-! ## One worker -/

/-- A worker's `Get` of the head of the queue. -/
theorem work_idle {i : Fin lc.numThreads} {key : String} {q : WorkQueue} (hi : s.workers i = .idle)
    (hq : s.queue.get = some (key, q)) :
    (s.work i).queue = q ∧ (s.work i).workers = Function.update s.workers i (.got key) ∧
      (s.work i).crashed = s.crashed := by
  simp [Labeler.work, hi, hq]

/-- A worker's reads: a crash, or the decision, with the queue as it was. -/
theorem work_got {i : Fin lc.numThreads} {key : String} (hi : s.workers i = .got key) :
    (s.work i).crashed = true ∨
      (s.work i).workers = Function.update s.workers i (.decided key (labelerRead s.probe s.cache key)) ∧
        (s.work i).queue = s.queue ∧ (s.work i).crashed = s.crashed := by
  simp only [Labeler.work, hi]
  split
  · exact .inl rfl
  · exact .inr ⟨rfl, rfl, rfl⟩

/-- A worker's patch: the worker is idle again, and the queue has seen the key's `Done`. -/
theorem work_decided {i : Fin lc.numThreads} {key : String} {d : Decision}
    (hi : s.workers i = .decided key d) :
    (s.work i).workers = Function.update s.workers i .idle ∧
      (∃ ok, (s.work i).queue = s.queue.finish lc.maxNumRequeues key ok) ∧ (s.work i).crashed = s.crashed := by
  simp only [Labeler.work, hi]
  split
  · exact ⟨rfl, ⟨true, rfl⟩, rfl⟩
  · exact ⟨rfl, ⟨false, rfl⟩, rfl⟩

/-- A running process steps a worker by its next step. -/
theorem step_work (hc : s.crashed = false) (i : Fin lc.numThreads) : s.step (.work i) = s.work i := by
  simp [Labeler.step, hc]

/-- A busy worker finishes its key in at most two steps of its own, unless its reads panic; no
other worker moves. -/
theorem finish_worker (hc : s.crashed = false) (i : Fin lc.numThreads) :
    ∃ actions : List (Labeler.Action lc), (∀ a ∈ actions, a = .work i) ∧
      ((s.run actions).crashed = true ∨
        (s.run actions).workers = Function.update s.workers i .idle ∧ (s.run actions).crashed = false) := by
  cases hi : s.workers i with
  | idle => exact ⟨[], by simp, .inr ⟨(Function.update_eq_self i s.workers).symm.trans (by rw [hi]), hc⟩⟩
  | decided key d =>
    obtain ⟨hw, -, hc'⟩ := work_decided hi
    refine ⟨[.work i], by simp, .inr ?_⟩
    show (s.step (.work i)).workers = _ ∧ (s.step (.work i)).crashed = false
    rw [step_work hc]
    exact ⟨hw, hc'.trans hc⟩
  | got key =>
    refine ⟨[.work i, .work i], by simp, ?_⟩
    show ((s.step (.work i)).step (.work i)).crashed = true ∨
      ((s.step (.work i)).step (.work i)).workers = _ ∧ ((s.step (.work i)).step (.work i)).crashed = false
    rw [step_work hc]
    rcases work_got hi with hc₁ | ⟨hw₁, -, hc₁⟩
    · rw [show (s.work i).step (.work i) = s.work i by simp [Labeler.step, hc₁]]
      exact .inl hc₁
    · have hd : (s.work i).workers i = .decided key (labelerRead s.probe s.cache key) := by
        rw [hw₁, Function.update_same]
      obtain ⟨hw₂, -, hc₂⟩ := work_decided hd
      rw [step_work (hc₁.trans hc), hw₂, hw₁, Function.update_idem]
      exact .inr ⟨rfl, hc₂.trans (hc₁.trans hc)⟩

/-- The workers of a list finish their keys, one after another, unless a read panics; the other
workers do not move. -/
theorem finish_workers (hc : s.crashed = false) (l : List (Fin lc.numThreads)) :
    ∃ actions : List (Labeler.Action lc), (∀ a ∈ actions, ∃ i, a = .work i) ∧
      ((s.run actions).crashed = true ∨ (s.run actions).crashed = false ∧
        ∀ j, (s.run actions).workers j = if j ∈ l then .idle else s.workers j) := by
  induction l generalizing s with
  | nil => exact ⟨[], by simp, .inr ⟨hc, fun j => rfl⟩⟩
  | cons i l ih =>
    obtain ⟨as₁, ha₁, h₁⟩ := finish_worker hc i
    rcases h₁ with h₁ | ⟨hw₁, hc₁⟩
    · exact ⟨as₁, fun a ha => ⟨i, ha₁ a ha⟩, .inl h₁⟩
    · obtain ⟨as₂, ha₂, h₂⟩ := ih hc₁
      refine ⟨as₁ ++ as₂, List.forall_mem_append.mpr ⟨fun a ha => ⟨i, ha₁ a ha⟩, ha₂⟩, ?_⟩
      rw [run_append]
      refine h₂.imp_right fun ⟨hc₂, hw₂⟩ => ⟨hc₂, fun j => ?_⟩
      rw [hw₂ j, hw₁, Function.update_apply]
      by_cases hji : j = i <;> simp [hji]

/-! ## The queue -/

/-- With every worker idle and `key` at the head of the queue, one worker's `Get`, reads and patch
take `key` off the queue for good and leave every worker idle, unless the reads panic. -/
theorem run_cycle (hc : s.crashed = false) (hw : ∀ i, s.workers i = .idle) {key : String}
    {rest : List String} (hq : s.queue.queue = key :: rest) (i : Fin lc.numThreads) :
    (s.run [.work i, .work i, .work i]).crashed = true ∨
      (s.run [.work i, .work i, .work i]).crashed = false ∧
        (s.run [.work i, .work i, .work i]).queue.queue = rest ∧
        (∀ j, (s.run [.work i, .work i, .work i]).workers j = .idle) ∧
        ∃ q ok, s.queue.get = some (key, q) ∧
          (s.run [.work i, .work i, .work i]).queue = q.finish lc.maxNumRequeues key ok := by
  obtain ⟨q, hget⟩ : ∃ q, s.queue.get = some (key, q) := by
    unfold WorkQueue.get
    rw [hq]
    exact ⟨_, rfl⟩
  obtain ⟨hqueue, -, hdirty, -⟩ := WorkQueue.get_eq_some hget
  -- the `Get`
  obtain ⟨hq₁, hw₁, hc₁⟩ := work_idle (hw i) hget
  have hrun : s.run [.work i, .work i, .work i] = ((s.work i).step (.work i)).step (.work i) := by
    show ((s.step (.work i)).step (.work i)).step (.work i) = _
    rw [step_work hc]
  rw [hrun]
  -- the reads
  rcases work_got (show (s.work i).workers i = .got key by rw [hw₁, Function.update_same])
    with hc₂ | ⟨hw₂, hq₂, hc₂⟩
  · left
    simp [Labeler.step, hc₁, hc, hc₂]
  -- the patch
  have hc₂' : ((s.work i).work i).crashed = false := hc₂.trans (hc₁.trans hc)
  obtain ⟨hw₃, ⟨ok, hq₃⟩, hc₃⟩ := work_decided
    (show ((s.work i).work i).workers i = _ by rw [hw₂, Function.update_same])
  rw [step_work (hc₁.trans hc), step_work hc₂']
  refine .inr ⟨hc₃.trans hc₂', ?_, fun j => ?_, q, ok, hget, by rw [hq₃, hq₂, hq₁]⟩
  · obtain ⟨q₀, hf, hq₀, hd₀, -⟩ := q.finish_eq lc.maxNumRequeues key ok
    have hkey : key ∉ q.dirty := by simp [hdirty]
    rw [hq₃, hq₂, hq₁, hf, WorkQueue.done_queue, hd₀, if_neg hkey, hq₀]
    exact (List.cons.inj (hq.symm.trans hqueue)).2.symm
  · rw [hw₃, hw₂, hw₁, Function.update_idem, Function.update_idem, Function.update_apply]
    split_ifs
    · rfl
    · exact hw j

/-- With every worker idle, one worker takes the queued keys one after another, unless a read
panics, until the queue is empty and every worker idle again. -/
theorem drain_queue (hn : 0 < lc.numThreads) (hc : s.crashed = false) (hw : ∀ i, s.workers i = .idle) :
    ∃ actions : List (Labeler.Action lc), (∀ a ∈ actions, ∃ i, a = .work i) ∧
      ((s.run actions).crashed = true ∨
        (s.run actions).queue.queue = [] ∧ ∀ i, (s.run actions).workers i = .idle) := by
  generalize hlen : s.queue.queue.length = n
  induction n generalizing s with
  | zero => exact ⟨[], by simp, .inr ⟨List.eq_nil_of_length_eq_zero hlen, hw⟩⟩
  | succ n ih =>
    obtain ⟨key, rest, hq⟩ := List.exists_cons_of_length_eq_add_one hlen
    let cycle : List (Labeler.Action lc) := [.work ⟨0, hn⟩, .work ⟨0, hn⟩, .work ⟨0, hn⟩]
    have hcycle : ∀ a ∈ cycle, ∃ i, a = .work i := fun a ha => ⟨⟨0, hn⟩, by simpa [cycle] using ha⟩
    rcases run_cycle hc hw hq ⟨0, hn⟩ with h | ⟨hc', hq', hw', -⟩
    · exact ⟨cycle, hcycle, .inl h⟩
    have hlen' : (s.run cycle).queue.queue.length = n := by
      rw [hq'] at *
      simpa [hq] using hlen
    obtain ⟨as, ha, h⟩ := ih hc' hw' hlen'
    refine ⟨cycle ++ as, List.forall_mem_append.mpr ⟨hcycle, ha⟩, ?_⟩
    rw [run_append]
    exact h

/-! ## The back-off -/

/-- With no worker busy, no key is held. -/
theorem Inv.processing_eq_empty (h : s.Inv) (hw : ∀ i, s.workers i = .idle) : s.queue.processing = ∅ :=
  Finset.eq_empty_of_forall_not_mem fun k hk => by
    obtain ⟨i, hi⟩ := (h.processing k).mp hk
    simp [hw i] at hi

/-- At rest, the timer of a waiting key and one worker's `Get`, reads and patch bring the labeler
back to rest with fewer tries left, unless the reads panic. -/
theorem run_retry (h : s.Inv) (hc : s.crashed = false) (hq : s.queue.queue = [])
    (hw : ∀ i, s.workers i = .idle) {key : String} (hk : key ∈ s.queue.waiting) (i : Fin lc.numThreads) :
    (s.run [.fire key, .work i, .work i, .work i]).crashed = true ∨
      (s.run [.fire key, .work i, .work i, .work i]).crashed = false ∧
        (s.run [.fire key, .work i, .work i, .work i]).queue.queue = [] ∧
        (∀ j, (s.run [.fire key, .work i, .work i, .work i]).workers j = .idle) ∧
        (s.run [.fire key, .work i, .work i, .work i]).queue.retriesLeft lc.maxNumRequeues <
          s.queue.retriesLeft lc.maxNumRequeues := by
  have hrun : s.run [.fire key, .work i, .work i, .work i] =
      ({ s with queue := s.queue.fire key } : Labeler lc).run [.work i, .work i, .work i] := by
    show (s.step (.fire key)).run _ = _
    simp only [Labeler.step, hc, Bool.false_eq_true, if_false]
  have hq₁ : (s.queue.fire key).queue = [key] :=
    WorkQueue.fire_queue_of_rest h.queue hq (h.processing_eq_empty hw) hk
  rw [hrun]
  rcases run_cycle (s := { s with queue := s.queue.fire key }) hc hw hq₁ i with
    h' | ⟨hc', hq', hw', q, ok, hget, hfin⟩
  · exact .inl h'
  refine .inr ⟨hc', hq', hw', ?_⟩
  -- the tries: the timer takes the key's off, and its patch gives back fewer
  have hget' : (s.queue.fire key).get = some (key, q) := hget
  obtain ⟨-, -, -, hwq, hfq⟩ := WorkQueue.get_eq_some hget'
  have hfire : (s.queue.fire key).waiting = s.queue.waiting.erase key ∧
      (s.queue.fire key).failures = s.queue.failures := by
    unfold WorkQueue.fire
    rw [if_pos hk, WorkQueue.add_waiting, WorkQueue.add_failures]
    exact ⟨rfl, rfl⟩
  have hkq : key ∉ q.waiting := by rw [hwq, hfire.1]; exact Finset.not_mem_erase _ _
  have h₁ := WorkQueue.retriesLeft_fire (m := lc.maxNumRequeues) hk
  have h₂ := WorkQueue.retriesLeft_get (m := lc.maxNumRequeues) hget'
  have h₃ := WorkQueue.retriesLeft_finish (m := lc.maxNumRequeues) hkq ok
  have h₄ := h.queue.failures key
  rw [hfq, hfire.2] at h₃
  rw [hfin]
  omega

/-- At rest, the timers and one worker empty the back-off, unless a reconcile panics: a waiting key
is handed out again until its reconcile succeeds or its count reaches `maxNumRequeues`. -/
theorem settle_waiting (hn : 0 < lc.numThreads) (n : Nat) :
    ∀ s : Labeler lc, s.Reachable → s.crashed = false → s.queue.queue = [] →
      (∀ i, s.workers i = .idle) → s.queue.retriesLeft lc.maxNumRequeues = n →
      ∃ actions : List (Labeler.Action lc), (∀ a ∈ actions, (∃ i, a = .work i) ∨ ∃ k, a = .fire k) ∧
        ((s.run actions).crashed = true ∨ (s.run actions).queue.queue = [] ∧
          (s.run actions).queue.waiting = ∅ ∧ ∀ i, (s.run actions).workers i = .idle) := by
  induction n using Nat.strong_induction_on with
  | _ n ih =>
    intro s hs hc hq hw hn'
    by_cases he : s.queue.waiting = ∅
    · exact ⟨[], by simp, .inr ⟨hq, he, hw⟩⟩
    obtain ⟨key, hk⟩ := Finset.nonempty_iff_ne_empty.mpr he
    have hcycle : ∀ a ∈ ([.fire key, .work ⟨0, hn⟩, .work ⟨0, hn⟩, .work ⟨0, hn⟩] : List (Labeler.Action lc)),
        (∃ i, a = .work i) ∨ ∃ k, a = .fire k := by
      simp
    rcases run_retry (Inv.of_reachable hs) hc hq hw hk ⟨0, hn⟩ with h | ⟨hc', hq', hw', hlt⟩
    · exact ⟨_, hcycle, .inl h⟩
    obtain ⟨as, ha, h⟩ := ih _ (hn' ▸ hlt) _ (hs.run _) hc' hq' hw' rfl
    exact ⟨_ ++ as, List.forall_mem_append.mpr ⟨hcycle, ha⟩, by rw [run_append]; exact h⟩

/-! ## No work without an event -/

/-- Whether a worker holds a key it has not read yet. -/
def Phase.unread : Labeler.Phase → Bool
  | .got _ => true
  | _ => false

/-- The workers that hold a key they have not read yet. -/
def unread {n : Nat} (workers : Fin n → Labeler.Phase) : Nat := ∑ i, (workers i).unread.toNat

/-- Changing one worker's phase changes the count by that worker's. -/
theorem unread_update {n : Nat} (workers : Fin n → Labeler.Phase) (i : Fin n) (ph : Labeler.Phase) :
    unread (Function.update workers i ph) + (workers i).unread.toNat = unread workers + ph.unread.toNat := by
  unfold unread
  rw [← Finset.add_sum_erase _ _ (Finset.mem_univ i), ← Finset.add_sum_erase _ _ (Finset.mem_univ i),
    Function.update_same, Finset.sum_congr rfl fun j hj => by
      rw [Function.update_noteq (Finset.ne_of_mem_erase hj)]]
  omega

/-- A worker that holds a key it has not read is counted. -/
theorem unread_pos {n : Nat} {workers : Fin n → Labeler.Phase} {i : Fin n} {key : String}
    (hi : workers i = .got key) : 0 < unread workers := by
  unfold unread
  rw [← Finset.add_sum_erase _ _ (Finset.mem_univ i), hi]
  simp only [Phase.unread, Bool.toNat_true]
  omega

/-- The reconciles the labeler owes: those its queue owes, and one for each worker that has not
read its key yet. A crashed process owes none. -/
def pending (s : Labeler lc) : Nat := if s.crashed then 0 else s.queue.owed + unread s.workers

/-- Whether an action is a reconcile: a running worker's reads of `podLabeler`. -/
def reconciles (s : Labeler lc) : Labeler.Action lc → Bool
  | .work i => !s.crashed && (s.workers i).unread
  | _ => false

/-- The reconciles of a run. -/
def reconcileCount (s : Labeler lc) : List (Labeler.Action lc) → Nat
  | [] => 0
  | a :: as => (s.reconciles a).toNat + (s.step a).reconcileCount as

/-- Whether an action can give the labeler work: an informer event or a back-off timer. -/
def Action.arrival : Labeler.Action lc → Bool
  | .event _ | .fire _ => true
  | _ => false

/-- A running process owes what its queue owes and its workers have not read. -/
theorem pending_of_running (hc : s.crashed = false) : s.pending = s.queue.owed + unread s.workers := by
  simp [pending, hc]

/-- A worker step owes one reconcile fewer if it is a reconcile, and as many otherwise. -/
theorem Inv.pending_work (h : s.Inv) (hc : s.crashed = false) (i : Fin lc.numThreads) :
    (s.work i).pending + (s.reconciles (.work i)).toNat ≤ s.pending := by
  rw [pending_of_running hc]
  cases hi : s.workers i with
  | idle =>
    cases hq : s.queue.get with
    | none => simp [Labeler.work, hi, hq, pending_of_running hc, reconciles, Phase.unread]
    | some r =>
      obtain ⟨key, q⟩ := r
      obtain ⟨hq₁, hw₁, hc₁⟩ := work_idle hi hq
      have h₁ := WorkQueue.owed_get hq (h.queue.get hq).2
      have h₂ := unread_update s.workers i (.got key)
      simp only [hi, Phase.unread, Bool.toNat_false, Bool.toNat_true] at h₂
      simp only [pending_of_running (hc₁.trans hc), hq₁, hw₁, reconciles, hi, Phase.unread,
        Bool.and_false, Bool.toNat_false]
      omega
  | got key =>
    have hpos := unread_pos hi
    rcases work_got hi with hc₁ | ⟨hw₁, hq₁, hc₁⟩
    · simp only [pending, hc₁, if_true, reconciles, hc, hi, Phase.unread, Bool.not_false,
        Bool.and_self, Bool.toNat_true]
      omega
    · have h₂ := unread_update s.workers i (.decided key (labelerRead s.probe s.cache key))
      simp only [hi, Phase.unread, Bool.toNat_false, Bool.toNat_true] at h₂
      simp only [pending_of_running (hc₁.trans hc), hq₁, hw₁, reconciles, hc, hi, Phase.unread,
        Bool.not_false, Bool.and_self, Bool.toNat_true]
      omega
  | decided key d =>
    obtain ⟨hw₁, ⟨ok, hq₁⟩, hc₁⟩ := work_decided hi
    have hk : key ∈ s.queue.processing := (h.processing key).mpr ⟨i, by rw [hi]; rfl⟩
    have h₂ := unread_update s.workers i .idle
    simp only [hi, Phase.unread, Bool.toNat_false] at h₂
    simp only [pending_of_running (hc₁.trans hc), hq₁, hw₁, WorkQueue.owed_finish hk, reconciles, hi,
      Phase.unread, Bool.and_false, Bool.toNat_false]
    omega

/-- A step owes at most one reconcile more for an event or a timer, and one fewer for a
reconcile. -/
theorem Inv.pending_step (h : s.Inv) (a : Labeler.Action lc) :
    (s.step a).pending + (s.reconciles a).toNat ≤ s.pending + a.arrival.toNat := by
  cases hc : s.crashed
  case true => cases a <;> simp [Labeler.step, hc, reconciles]
  cases a with
  | event p =>
    have : (s.handle p).pending ≤ s.pending + 1 := by
      unfold Labeler.handle
      split_ifs
      · simp only [pending, hc, Bool.false_eq_true, if_false]
        have := WorkQueue.owed_add s.queue p.key
        omega
      · omega
    simpa [Labeler.step, hc, reconciles, Action.arrival] using this
  | fire key =>
    have := WorkQueue.owed_fire s.queue key
    simp only [Labeler.step, hc, reconciles, Action.arrival, pending, Bool.false_eq_true, if_false,
      Bool.toNat_false, Bool.toNat_true]
    omega
  | work i => simpa [Labeler.step, hc, Action.arrival] using h.pending_work hc i
  | _ => simp [Labeler.step, hc, reconciles, Action.arrival, pending]

/-- Over a run from a state with the invariant, the reconciles made and those still owed at the end
are at most those owed at the start and one for each event and timer of the run. -/
theorem Inv.reconcileCount_le (h : s.Inv) (actions : List (Labeler.Action lc)) :
    s.reconcileCount actions + (s.run actions).pending ≤
      s.pending + (actions.filter Action.arrival).length := by
  induction actions generalizing s with
  | nil => simp [reconcileCount, Labeler.run]
  | cons a actions ih =>
    have h₁ := h.pending_step a
    have h₂ := ih (h.step a)
    have hrun : s.run (a :: actions) = (s.step a).run actions := rfl
    simp only [reconcileCount, hrun, List.filter_cons]
    cases ha : a.arrival <;> simp only [ha, if_true, if_false, Bool.false_eq_true, List.length_cons,
      Bool.toNat_true, Bool.toNat_false] at h₁ ⊢ <;> omega

/-- At rest a process owes nothing. -/
theorem Inv.pending_of_rest (h : s.Inv) (hq : s.queue.queue = []) (hw : ∀ i, s.workers i = .idle) :
    s.pending = 0 := by
  have hu : unread s.workers = 0 := Finset.sum_eq_zero fun i _ => by simp [hw i, Phase.unread]
  simp [pending, WorkQueue.owed, hq, h.processing_eq_empty hw, hu]

end Labeler

/-- The labeler beside `db-0-1` with its key queued and no worker busy yet. -/
def queuedState : Labeler sidecar :=
  (Labeler.init [groupPod "db-0-1" none] (hostProbe "db-0-1.db-0-gvr.ns")).run
    [.event (groupPod "db-0-1" none)]

/-- No work is ever stuck: from every reachable state, the labeler's own workers, with no informer
event and no timer, can bring it to a state where nothing is queued and the last reads of every pod
of its cache found the pod as it is cached, unless a reconcile panics. -/
theorem run_drains {lc : LabelController} {s : Labeler lc} (hs : s.Reachable) (hn : 0 < lc.numThreads) :
    ∃ actions : List (Labeler.Action lc), (∀ a ∈ actions, ∃ i, a = .work i) ∧
      ((s.run actions).crashed = true ∨ (s.run actions).queue.queue = [] ∧
        ∀ k p, s.cache.get k = some p → (s.run actions).seen k = some p) := by
  cases hc : s.crashed
  · obtain ⟨as₁, ha₁, h₁⟩ := Labeler.finish_workers hc (List.finRange lc.numThreads)
    rcases h₁ with h₁ | ⟨hc₁, hw₁⟩
    · exact ⟨as₁, ha₁, .inl h₁⟩
    have hidle (j : Fin lc.numThreads) : (s.run as₁).workers j = .idle := by
      rw [hw₁ j, if_pos (List.mem_finRange j)]
    obtain ⟨as₂, ha₂, h₂⟩ := Labeler.drain_queue hn hc₁ hidle
    have ha : ∀ a ∈ as₁ ++ as₂, ∃ i, a = .work i := List.forall_mem_append.mpr ⟨ha₁, ha₂⟩
    refine ⟨as₁ ++ as₂, ha, ?_⟩
    rw [Labeler.run_append]
    refine h₂.imp_right fun ⟨hq, hw⟩ => ⟨hq, fun k p hp => ?_⟩
    have hinv := Labeler.Inv.of_reachable ((hs.run as₁).run as₂)
    refine hinv.seen_of_quiescent hq hw ?_
    rw [← Labeler.run_append, Labeler.run_cache_of_work ha]
    exact hp
  · exact ⟨[], by simp, .inl (by rw [← hc]; rfl)⟩

/-- The workers of the labeler beside `db-0-1` drain its queue. -/
theorem run_drains_queued :
    ∃ actions : List (Labeler.Action sidecar), (∀ a ∈ actions, ∃ i, a = .work i) ∧
      ((queuedState.run actions).crashed = true ∨ (queuedState.run actions).queue.queue = [] ∧
        ∀ k p, queuedState.cache.get k = some p → (queuedState.run actions).seen k = some p) :=
  run_drains (show queuedState.Reachable from ⟨_, _, _, rfl⟩) (by decide)

/-- No key is retried forever. On every reachable state no key's count of requeues passes
`maxNumRequeues`; a worker whose patch failed requeues its key through the rate limiter, raising
its count and letting it wait out a back-off, exactly while the count is below `maxNumRequeues`,
and otherwise forgets it. And from every reachable state, the labeler's own workers and back-off
timers, with no informer event, can bring it to rest, with nothing queued, no key waiting out a
back-off and every worker idle, unless a reconcile panics. -/
theorem run_settles {lc : LabelController} {s : Labeler lc} (hs : s.Reachable) (hn : 0 < lc.numThreads) :
    (∀ k, s.queue.failures k ≤ lc.maxNumRequeues) ∧
    (∀ i key d e, s.workers i = .decided key d → labelerWrite s.live d = .error e →
      (s.work i).queue.failures key =
          (if s.queue.failures key < lc.maxNumRequeues then s.queue.failures key + 1 else 0) ∧
        (key ∈ (s.work i).queue.waiting ↔
          key ∈ s.queue.waiting ∨ s.queue.failures key < lc.maxNumRequeues)) ∧
    ∃ actions : List (Labeler.Action lc), (∀ a ∈ actions, (∃ i, a = .work i) ∨ ∃ k, a = .fire k) ∧
      ((s.run actions).crashed = true ∨ (s.run actions).queue.queue = [] ∧
        (s.run actions).queue.waiting = ∅ ∧ ∀ i, (s.run actions).workers i = .idle) := by
  refine ⟨(Labeler.Inv.of_reachable hs).queue.failures, fun i key d e hi he => ?_, ?_⟩
  · have hq : (s.work i).queue = s.queue.finish lc.maxNumRequeues key false := by
      simp [Labeler.work, hi, he]
    rw [hq]
    exact WorkQueue.finish_false _ _ _
  cases hc : s.crashed
  · obtain ⟨as₁, ha₁, h₁⟩ := Labeler.finish_workers hc (List.finRange lc.numThreads)
    rcases h₁ with h₁ | ⟨hc₁, hw₁⟩
    · exact ⟨as₁, fun a ha => .inl (ha₁ a ha), .inl h₁⟩
    have hidle (j : Fin lc.numThreads) : (s.run as₁).workers j = .idle := by
      rw [hw₁ j, if_pos (List.mem_finRange j)]
    obtain ⟨as₂, ha₂, h₂⟩ := Labeler.drain_queue hn hc₁ hidle
    have ha : ∀ a ∈ as₁ ++ as₂, (∃ i, a = .work i) ∨ ∃ k, a = .fire k :=
      List.forall_mem_append.mpr ⟨fun a ha => .inl (ha₁ a ha), fun a ha => .inl (ha₂ a ha)⟩
    rw [← Labeler.run_append] at h₂
    cases hc₂ : (s.run (as₁ ++ as₂)).crashed
    · obtain ⟨hq₂, hw₂⟩ := h₂.resolve_left (by rw [hc₂]; decide)
      obtain ⟨as₃, ha₃, h₃⟩ := Labeler.settle_waiting hn _ _ (hs.run _) hc₂ hq₂ hw₂ rfl
      exact ⟨as₁ ++ as₂ ++ as₃, List.forall_mem_append.mpr ⟨ha, ha₃⟩, by rw [Labeler.run_append]; exact h₃⟩
    · exact ⟨as₁ ++ as₂, ha, .inl hc₂⟩
  · exact ⟨[], by simp, .inl (by rw [← hc]; rfl)⟩

/-- The labeler beside `db-0-1` keeps its counts within five requeues and settles. -/
theorem run_settles_queued :
    (∀ k, queuedState.queue.failures k ≤ sidecar.maxNumRequeues) ∧
      ∃ actions : List (Labeler.Action sidecar), (∀ a ∈ actions, (∃ i, a = .work i) ∨ ∃ k, a = .fire k) ∧
      ((queuedState.run actions).crashed = true ∨ (queuedState.run actions).queue.queue = [] ∧
        (queuedState.run actions).queue.waiting = ∅ ∧ ∀ i, (queuedState.run actions).workers i = .idle) :=
  have h := run_settles (show queuedState.Reachable from ⟨_, _, _, rfl⟩) (by decide)
  ⟨h.1, h.2.2⟩

/-- After `db-0-1` is labeled, the group fails over to `db-0-2`, and both workers look for work. -/
def failoverActions : List (Labeler.Action sidecar) :=
  [.probe (hostProbe "db-0-2.db-0-gvr.ns"), .work firstWorker, .work ⟨1, by decide⟩]

/-- The labeler works only when an event or a timer gives it work: over any run from a reachable
state, the reconciles it makes are at most the ones it owed at the start, plus one for each
informer event and each back-off timer of the run. At rest it owes none, so from rest a run of
failovers, other parties' writes and worker steps makes no reconcile: a pod that became the primary
gets its role label only once an event about it arrives. -/
theorem run_reconciles_le {lc : LabelController} {s : Labeler lc} (hs : s.Reachable)
    (actions : List (Labeler.Action lc)) :
    s.reconcileCount actions ≤ s.pending + (actions.filter Labeler.Action.arrival).length ∧
      (s.queue.queue = [] → (∀ i, s.workers i = .idle) → s.pending = 0) := by
  have h := Labeler.Inv.of_reachable hs
  exact ⟨Nat.le_of_add_right_le (h.reconcileCount_le actions), h.pending_of_rest⟩

/-- From the rest after `db-0-1` is labeled, the failover and the workers' steps make no
reconcile. -/
theorem run_reconciles_le_failover : labeledState.reconcileCount failoverActions = 0 := by
  have h := run_reconciles_le (show labeledState.Reachable from ⟨_, _, _, rfl⟩) failoverActions
  have hp : labeledState.pending = 0 := h.2 rfl (by decide)
  have hl : (failoverActions.filter Labeler.Action.arrival).length = 0 := rfl
  have := h.1
  omega

end MySQLOperator
