import Mathlib.Data.List.AList

/-!
# Objects of the API server as this core handles them

The operator reads and writes Kubernetes objects through helpers of `kmodules.xyz/client-go`.
Three pieces of that machinery decide what the core's writes do, and this file models them once
for both controllers.

* Labels are a Go `map[string]string`, `StrMap` here, read through `lookup`.
* A write is never the object the core computed but the two-way merge patch from the object it
  read (`cur`) to the object it wants (`mod`), which the server merges into the live object. On a
  map the patch names each key whose value differs, with `mod`'s value, or `none` (`null`) where
  `mod` dropped it. `lookup_applyMapPatch_mapPatch` is the fact the rest uses: after the merge a key
  reads `mod`'s value where `cur` and `mod` differ, and the live value everywhere else.
* `EnsureOwnerReference` overwrites the first reference with the same uid, or appends one.
  `ensureOwnerReference_ensureOwnerReference` shows that ensuring the same two references twice
  changes nothing the first time did not.
* `metadata.ownerReferences` is merged by the key `uid`: `ownersPatch` is the part of the two-way
  merge patch that sets or deletes references, and `applyOwnersPatch` the server's merge of it. The
  patch from a list to that list with two references ensured deletes nothing and sets only those
  two (`ownersPatch_ensureOwnerReference₂`), so merged into any live list it keeps every uid there.
-/

namespace MySQLOperator

/-- An error that a Go function of the core returns, or a runtime panic, which aborts the
goroutine instead of returning. -/
inductive GoError where
  /-- `kerr.IsNotFound`: a `Get` of an object that does not exist. -/
  | notFound (resource name : String)
  /-- An error built by `errors.New` or `fmt.Errorf`. -/
  | msg (text : String)
  /-- A runtime panic, such as an index out of range. -/
  | panic (text : String)
  deriving DecidableEq, Repr

/-- `kutil.VerbType`: what a create-or-patch helper did. -/
inductive Verb where
  | unchanged
  | created
  | patched
  deriving DecidableEq, Repr

/-! ## Maps and their merge patches -/

/-- A Go `map[string]string`; a `nil` map is `∅`. -/
abbrev StrMap := AList (fun _ : String => String)

/-- Equality of maps as lists of entries, decided by a term that the kernel evaluates. -/
instance (priority := high) StrMap.decEq : DecidableEq StrMap := fun a b =>
  decidable_of_iff (a.entries = b.entries) AList.ext_iff.symm

/-- `meta_util.HasKey`: whether the map holds the key. -/
def hasKey (m : StrMap) (key : String) : Bool := decide (key ∈ m)

/-- `v1.UpsertMap`: every entry of `upsert` is written into `maps`. -/
def upsertMap (maps : StrMap) (upsert : List (String × String)) : StrMap :=
  upsert.foldl (fun m kv => m.insert kv.1 kv.2) maps

/-- The merge patch of a map field: each entry sets its key to a value, or deletes it (`none`). -/
abbrev MapPatch := List (String × Option String)

/-- The map part of `CreateTwoWayMergePatch(cur, mod)`: every key of either map whose value
differs, with `mod`'s value, `none` where `mod` has no entry. -/
def mapPatch (cur mod : StrMap) : MapPatch :=
  ((cur.keys ∪ mod.keys).filter fun k => cur.lookup k ≠ mod.lookup k).map fun k => (k, mod.lookup k)

/-- The server's merge of a map patch into a live map. -/
def applyMapPatch : MapPatch → StrMap → StrMap
  | [], m => m
  | (k, some v) :: p, m => (applyMapPatch p m).insert k v
  | (k, none) :: p, m => (applyMapPatch p m).erase k

/-- A key reads the first value the patch gives it, or the live value if the patch has none. -/
theorem lookup_applyMapPatch (p : MapPatch) (m : StrMap) (k : String) :
    (applyMapPatch p m).lookup k = (p.lookup k).getD (m.lookup k) := by
  induction p with
  | nil => rfl
  | cons e p ih =>
    obtain ⟨k', _ | v⟩ := e
    · by_cases h : k = k'
      · subst h; simp [applyMapPatch, AList.lookup_erase]
      · simp [applyMapPatch, AList.lookup_erase_ne h, ih, List.lookup_cons,
          beq_eq_false_iff_ne.mpr h]
    · by_cases h : k = k'
      · subst h; simp [applyMapPatch, AList.lookup_insert]
      · simp [applyMapPatch, AList.lookup_insert_ne h, ih, List.lookup_cons,
          beq_eq_false_iff_ne.mpr h]

/-- The patch gives a key `mod`'s value exactly when `cur` and `mod` differ there. -/
theorem lookup_mapPatch (cur mod : StrMap) (k : String) :
    (mapPatch cur mod).lookup k = if cur.lookup k = mod.lookup k then none else some (mod.lookup k) := by
  have key : ∀ l : List String, ((l.filter fun k => cur.lookup k ≠ mod.lookup k).map
      fun k => (k, mod.lookup k)).lookup k =
        if k ∈ l ∧ cur.lookup k ≠ mod.lookup k then some (mod.lookup k) else none := by
    intro l
    induction l with
    | nil => simp
    | cons a l ih =>
      simp only [ne_eq, decide_not] at ih
      by_cases hk : k = a
      · subst hk
        by_cases ha : cur.lookup k = mod.lookup k <;> simp [List.filter_cons, ha, ih]
      · by_cases ha : cur.lookup a = mod.lookup a <;>
          simp [List.filter_cons, ha, ih, List.lookup_cons, beq_eq_false_iff_ne.mpr hk, hk]
  rw [mapPatch, key]
  by_cases h : cur.lookup k = mod.lookup k
  · simp [h]
  · have hmem : k ∈ cur.keys ∪ mod.keys := by
      by_contra hn
      simp only [List.mem_union_iff, not_or, ← AList.mem_keys, ← AList.lookup_eq_none] at hn
      exact h (hn.1.trans hn.2.symm)
    simp [h, hmem]

/-- After the merge of the patch from `cur` to `mod`, a key reads `mod`'s value where `cur` and
`mod` differ, and the live value elsewhere. -/
theorem lookup_applyMapPatch_mapPatch (cur mod live : StrMap) (k : String) :
    (applyMapPatch (mapPatch cur mod) live).lookup k =
      if cur.lookup k = mod.lookup k then live.lookup k else mod.lookup k := by
  rw [lookup_applyMapPatch, lookup_mapPatch]
  split <;> rfl

/-- An entry of the patch names a key where `cur` and `mod` differ, with `mod`'s value there. -/
theorem mem_mapPatch {cur mod : StrMap} {e : String × Option String} (h : e ∈ mapPatch cur mod) :
    cur.lookup e.1 ≠ mod.lookup e.1 ∧ e.2 = mod.lookup e.1 := by
  simp only [mapPatch, List.mem_map, List.mem_filter] at h
  obtain ⟨k, ⟨-, hk⟩, rfl⟩ := h
  exact ⟨by simpa using hk, rfl⟩

/-- The patch from a map to itself is empty. -/
@[simp] theorem mapPatch_self (m : StrMap) : mapPatch m m = [] := by simp [mapPatch]

/-- The patch is empty exactly when the two maps agree at every key. -/
theorem mapPatch_eq_nil_iff (cur mod : StrMap) :
    mapPatch cur mod = [] ↔ ∀ k, cur.lookup k = mod.lookup k := by
  constructor
  · intro h k
    have := lookup_mapPatch cur mod k
    rw [h] at this
    split at this
    · assumption
    · cases this
  · intro h
    simp [mapPatch, h]

/-! ## Owner references -/

/-- `metav1.OwnerReference`. -/
structure OwnerReference where
  apiVersion : String
  kind : String
  name : String
  uid : Nat
  controller : Bool
  blockOwnerDeletion : Bool
  deriving DecidableEq, Repr

/-- The owner that a reference names, by kind and name. -/
def OwnerReference.owner (r : OwnerReference) : String × String := (r.kind, r.name)

/-- `core_util.EnsureOwnerReference` on an object's references: the first reference with `owner`'s
uid is overwritten by `owner`; with none, `owner` is appended. -/
def ensureOwnerReference : List OwnerReference → OwnerReference → List OwnerReference
  | [], owner => [owner]
  | r :: rs, owner => if r.uid = owner.uid then owner :: rs else r :: ensureOwnerReference rs owner

@[simp] theorem ensureOwnerReference_nil (o : OwnerReference) : ensureOwnerReference [] o = [o] :=
  rfl

@[simp] theorem ensureOwnerReference_cons (r : OwnerReference) (rs : List OwnerReference)
    (o : OwnerReference) :
    ensureOwnerReference (r :: rs) o =
      if r.uid = o.uid then o :: rs else r :: ensureOwnerReference rs o :=
  rfl

/-- No uid has two references. -/
def NoDupUIDs (refs : List OwnerReference) : Prop := (refs.map OwnerReference.uid).Nodup

/-- No owner, by kind and name, has two references. -/
def NoDupOwners (refs : List OwnerReference) : Prop := (refs.map OwnerReference.owner).Nodup

/-- The first reference with `o`'s uid. -/
def firstRef (refs : List OwnerReference) (o : OwnerReference) : Option OwnerReference :=
  refs.find? fun r => r.uid = o.uid

@[simp] theorem firstRef_nil (o : OwnerReference) : firstRef [] o = none := rfl

@[simp] theorem firstRef_cons (r : OwnerReference) (rs : List OwnerReference) (o : OwnerReference) :
    firstRef (r :: rs) o = if r.uid = o.uid then some r else firstRef rs o := by
  by_cases h : r.uid = o.uid <;> simp [firstRef, List.find?_cons, h]

/-- After `ensureOwnerReference refs o`, the first reference with `o`'s uid is `o`. -/
theorem firstRef_ensureOwnerReference (refs : List OwnerReference) (o : OwnerReference) :
    firstRef (ensureOwnerReference refs o) o = some o := by
  induction refs with
  | nil => simp
  | cons r rs ih => by_cases h : r.uid = o.uid <;> simp [h, ih]

/-- Ensuring a reference of another uid leaves the first reference with `o`'s uid alone. -/
theorem firstRef_ensureOwnerReference_of_ne (refs : List OwnerReference) {o o' : OwnerReference}
    (h : o'.uid ≠ o.uid) : firstRef (ensureOwnerReference refs o') o = firstRef refs o := by
  induction refs with
  | nil => simp [h]
  | cons r rs ih =>
    by_cases hr : r.uid = o'.uid
    · simp [hr, h]
    · by_cases hr' : r.uid = o.uid <;> simp [hr, hr', ih, Ne.symm h]

/-- A list whose first reference with `o`'s uid is `o` already is left as it is. -/
theorem ensureOwnerReference_of_firstRef {refs : List OwnerReference} {o : OwnerReference}
    (h : firstRef refs o = some o) : ensureOwnerReference refs o = refs := by
  induction refs with
  | nil => simp at h
  | cons r rs ih => by_cases hr : r.uid = o.uid <;> simp_all

/-- Of two references of one uid ensured in turn, only the second remains. -/
theorem ensureOwnerReference_of_uid_eq (refs : List OwnerReference) {a b : OwnerReference}
    (h : b.uid = a.uid) :
    ensureOwnerReference (ensureOwnerReference refs a) b = ensureOwnerReference refs b := by
  induction refs with
  | nil => simp [h]
  | cons r rs ih => by_cases hr : r.uid = a.uid <;> simp [hr, h, ih]

/-- Ensuring the same two references a second time changes nothing: the transform of
`AddOwnerReferenceToSecret` is idempotent, whether or not the two uids differ. -/
theorem ensureOwnerReference_ensureOwnerReference (refs : List OwnerReference)
    (a b : OwnerReference) :
    ensureOwnerReference (ensureOwnerReference (ensureOwnerReference
      (ensureOwnerReference refs a) b) a) b = ensureOwnerReference (ensureOwnerReference refs a) b := by
  by_cases h : b.uid = a.uid
  · rw [ensureOwnerReference_of_uid_eq _ h, ensureOwnerReference_of_uid_eq _ h,
      ensureOwnerReference_of_firstRef (firstRef_ensureOwnerReference _ b)]
  · have ha : firstRef (ensureOwnerReference (ensureOwnerReference refs a) b) a = some a := by
      rw [firstRef_ensureOwnerReference_of_ne _ h, firstRef_ensureOwnerReference]
    rw [ensureOwnerReference_of_firstRef ha,
      ensureOwnerReference_of_firstRef (firstRef_ensureOwnerReference _ b)]

/-- The uids after `ensureOwnerReference refs o` are those of `refs` and `o`'s. -/
theorem mem_uids_ensureOwnerReference (refs : List OwnerReference) (o : OwnerReference) (u : Nat) :
    u ∈ (ensureOwnerReference refs o).map OwnerReference.uid ↔
      u ∈ refs.map OwnerReference.uid ∨ u = o.uid := by
  induction refs with
  | nil => simp
  | cons r rs ih =>
    by_cases hr : r.uid = o.uid
    · simp only [ensureOwnerReference_cons, hr, if_true, List.map_cons, List.mem_cons]
      exact (or_iff_left_of_imp Or.inl).symm
    · simp only [ensureOwnerReference_cons, hr, if_false, List.map_cons, List.mem_cons, ih, or_assoc]

/-- A reference of another uid is kept. -/
theorem mem_ensureOwnerReference {refs : List OwnerReference} {r o : OwnerReference}
    (hr : r ∈ refs) (h : r.uid ≠ o.uid) : r ∈ ensureOwnerReference refs o := by
  induction refs with
  | nil => cases hr
  | cons r' rs ih =>
    rcases List.mem_cons.mp hr with rfl | hr
    · simp [h]
    · rw [ensureOwnerReference_cons]; split <;> simp [hr, ih]

/-- `ensureOwnerReference` keeps uids unique. -/
theorem noDupUIDs_ensureOwnerReference {refs : List OwnerReference} (h : NoDupUIDs refs)
    (o : OwnerReference) : NoDupUIDs (ensureOwnerReference refs o) := by
  induction refs with
  | nil => simp [NoDupUIDs]
  | cons r rs ih =>
    simp only [NoDupUIDs, List.map_cons, List.nodup_cons] at h
    by_cases hr : r.uid = o.uid
    · simpa [NoDupUIDs, hr] using h
    · simp only [ensureOwnerReference_cons, hr, if_false, NoDupUIDs, List.map_cons, List.nodup_cons,
        mem_uids_ensureOwnerReference, or_false]
      exact ⟨h.1, ih h.2⟩

/-- With uids unique, the references with `o`'s uid after ensuring `o` are `o` alone. -/
theorem filter_ensureOwnerReference {refs : List OwnerReference} (h : NoDupUIDs refs)
    (o : OwnerReference) :
    (ensureOwnerReference refs o).filter (fun r => r.uid = o.uid) = [o] := by
  induction refs with
  | nil => simp
  | cons r rs ih =>
    simp only [NoDupUIDs, List.map_cons, List.nodup_cons] at h
    by_cases hr : r.uid = o.uid
    · have hrs : rs.filter (fun r => r.uid = o.uid) = [] := by
        simp only [List.filter_eq_nil_iff, decide_eq_true_eq]
        intro x hx hxo
        exact h.1 (hr ▸ hxo ▸ List.mem_map_of_mem _ hx)
      simp [hr, List.filter_cons, hrs]
    · simp [hr, List.filter_cons, ih h.2]

/-- Ensuring a reference of another uid leaves the references with `o`'s uid as they are. -/
theorem filter_ensureOwnerReference_of_ne (refs : List OwnerReference) {o o' : OwnerReference}
    (h : o'.uid ≠ o.uid) :
    (ensureOwnerReference refs o').filter (fun r => r.uid = o.uid) =
      refs.filter (fun r => r.uid = o.uid) := by
  induction refs with
  | nil => simp [h]
  | cons r rs ih =>
    by_cases hr : r.uid = o'.uid
    · simp [hr, List.filter_cons, h]
    · by_cases hr' : r.uid = o.uid <;> simp [hr, hr', List.filter_cons, ih, Ne.symm h]

/-! ## The merge patch of owner references -/

/-- The strategic merge patch of `metadata.ownerReferences`, a list merged by the key `uid`, in the
two parts the server applies in turn: the uids whose references are deleted (`$patch: delete`),
and the references set. -/
structure OwnersPatch where
  set : List OwnerReference
  delete : List Nat
  deriving DecidableEq

/-- The owner-reference part of `CreateTwoWayMergePatch(cur, mod)`. Each reference of `mod` is
paired with the first reference of its uid in `cur` not paired yet, as the diff of the two lists
sorted by uid pairs them; a reference that differs from its partner, or has none, is set, and the
uid of each reference of `cur` left without a partner is deleted. -/
def ownersPatch : List OwnerReference → List OwnerReference → OwnersPatch
  | cur, [] => ⟨[], cur.map OwnerReference.uid⟩
  | cur, r :: mod =>
    match firstRef cur r with
    | none => let p := ownersPatch cur mod; { p with set := r :: p.set }
    | some c =>
      let p := ownersPatch (cur.erase c) mod
      if c = r then p else { p with set := r :: p.set }

/-- The server's merge of an owner-reference patch into the live references: every reference of a
deleted uid is dropped, then each reference set replaces the first one of its uid, or is appended,
as `EnsureOwnerReference` does. -/
def applyOwnersPatch (p : OwnersPatch) (live : List OwnerReference) : List OwnerReference :=
  p.set.foldl ensureOwnerReference (live.filter fun r => r.uid ∉ p.delete)

/-- The patch from a list to itself is empty. -/
theorem ownersPatch_self (refs : List OwnerReference) : ownersPatch refs refs = ⟨[], []⟩ := by
  induction refs with
  | nil => rfl
  | cons r rs ih => simp [ownersPatch, ih]

/-- Ensuring references of other uids keeps `c` in front. -/
theorem foldl_ensureOwnerReference_cons {rs : List OwnerReference} {c : OwnerReference}
    (h : ∀ r ∈ rs, r.uid ≠ c.uid) (refs : List OwnerReference) :
    rs.foldl ensureOwnerReference (c :: refs) = c :: rs.foldl ensureOwnerReference refs := by
  induction rs generalizing refs with
  | nil => rfl
  | cons r rs ih =>
    simp only [List.foldl_cons, ensureOwnerReference_cons, if_neg (Ne.symm (h r (.head _)))]
    exact ih (fun r' hr' => h r' (.tail _ hr')) _

/-- Ensuring references keeps every uid. -/
theorem mem_uids_foldl_ensureOwnerReference (rs : List OwnerReference) {refs : List OwnerReference}
    {u : Nat} (h : u ∈ refs.map OwnerReference.uid) :
    u ∈ (rs.foldl ensureOwnerReference refs).map OwnerReference.uid := by
  induction rs generalizing refs with
  | nil => exact h
  | cons r rs ih => exact ih ((mem_uids_ensureOwnerReference refs r u).mpr (.inl h))

/-- `p` deletes nothing, sets only references whose uid is in `us`, and merged into `refs` gives
`mod`. -/
structure OwnersPatch.Sets (p : OwnersPatch) (refs mod : List OwnerReference) (us : List Nat) :
    Prop where
  delete : p.delete = []
  set : ∀ r ∈ p.set, r.uid ∈ us
  merge : p.set.foldl ensureOwnerReference refs = mod

section Sets

variable {p : OwnersPatch} {refs mod : List OwnerReference} {us : List Nat}

/-- The empty patch from a list to itself. -/
theorem OwnersPatch.Sets.self (refs : List OwnerReference) (us : List Nat) :
    (ownersPatch refs refs).Sets refs refs us := by
  rw [ownersPatch_self]; exact ⟨rfl, by simp, rfl⟩

/-- Merged into the list it was computed from, a patch that deletes nothing gives its target. -/
theorem OwnersPatch.Sets.apply (h : p.Sets refs mod us) : applyOwnersPatch p refs = mod := by
  simp [applyOwnersPatch, h.delete, h.merge]

/-- Merged into any live list, a patch that deletes nothing keeps every uid. -/
theorem OwnersPatch.Sets.mem_uids (h : p.Sets refs mod us) (live : List OwnerReference) {u : Nat}
    (hu : u ∈ live.map OwnerReference.uid) : u ∈ (applyOwnersPatch p live).map OwnerReference.uid := by
  simpa [applyOwnersPatch, h.delete] using mem_uids_foldl_ensureOwnerReference p.set hu

/-- A patch that sets only uids of `us` sets only uids of a larger list. -/
theorem OwnersPatch.Sets.mono (h : p.Sets refs mod us) (vs : List Nat) (hus : ∀ u ∈ us, u ∈ vs) :
    p.Sets refs mod vs :=
  ⟨h.delete, fun r hr => hus _ (h.set r hr), h.merge⟩

/-- A reference of a uid the patch does not set may stand in front of both lists. -/
theorem OwnersPatch.Sets.cons (h : p.Sets refs mod us) {c : OwnerReference} (hc : c.uid ∉ us) :
    p.Sets (c :: refs) (c :: mod) us :=
  ⟨h.delete, h.set, by
    rw [foldl_ensureOwnerReference_cons (fun r hr he => hc (he ▸ h.set r hr)), h.merge]⟩

/-- Replacing the front reference `c` by `x` of the same uid adds `x` to the patch, unless the two
are equal. -/
theorem OwnersPatch.Sets.replace (h : p.Sets refs mod us) {c x : OwnerReference}
    (hx : c.uid = x.uid) (hxu : x.uid ∈ us) (hne : ∀ r ∈ p.set, r.uid ≠ x.uid) :
    (if c = x then p else { p with set := x :: p.set }).Sets (c :: refs) (x :: mod) us := by
  have hfold : p.set.foldl ensureOwnerReference (x :: refs) = x :: mod := by
    rw [foldl_ensureOwnerReference_cons hne, h.merge]
  split_ifs with hcx
  · subst hcx; exact ⟨h.delete, h.set, hfold⟩
  · refine ⟨h.delete, fun r hr => ?_, ?_⟩
    · rcases List.mem_cons.mp hr with rfl | hr
      exacts [hxu, h.set r hr]
    · simpa [hx] using hfold

end Sets

/-- The patch from `refs` to `refs` with `o` ensured sets at most `o`. -/
theorem ownersPatch_ensureOwnerReference (refs : List OwnerReference) (o : OwnerReference) :
    (ownersPatch refs (ensureOwnerReference refs o)).Sets refs (ensureOwnerReference refs o)
      [o.uid] := by
  induction refs with
  | nil => exact ⟨rfl, by simp [ownersPatch], rfl⟩
  | cons r rs ih =>
    by_cases hr : r.uid = o.uid
    · simpa [ownersPatch, hr] using
        (OwnersPatch.Sets.self rs [o.uid]).replace hr (.head _) (by simp [ownersPatch_self])
    · simpa [ownersPatch, hr] using ih.cons (by simpa using hr)

/-- Replacing the front reference `c` by `x` of its uid, and ensuring `y` of another uid in the
rest, gives a patch that sets only `x` and `y`. -/
theorem ownersPatch_replace_ensureOwnerReference (rest : List OwnerReference)
    {c x y : OwnerReference} (hcx : c.uid = x.uid) (hxy : x.uid ≠ y.uid) {us : List Nat} (hx : x.uid ∈ us) (hy : y.uid ∈ us) :
    (ownersPatch (c :: rest) (x :: ensureOwnerReference rest y)).Sets (c :: rest)
      (x :: ensureOwnerReference rest y) us := by
  have h := ownersPatch_ensureOwnerReference rest y
  have hne : ∀ r ∈ (ownersPatch rest (ensureOwnerReference rest y)).set, r.uid ≠ x.uid :=
    fun r hr => by rw [List.mem_singleton.mp (h.set r hr)]; exact Ne.symm hxy
  simpa [ownersPatch, hcx] using (h.mono us (by simpa using hy)).replace hcx hx hne

/-- The patch that `AddOwnerReferenceToSecret` computes, from `refs` to `refs` with `a` and then
`b` ensured, deletes nothing, sets only references of the two uids, and merged into `refs` gives
its target. -/
theorem ownersPatch_ensureOwnerReference₂ (refs : List OwnerReference) (a b : OwnerReference) :
    (ownersPatch refs (ensureOwnerReference (ensureOwnerReference refs a) b)).Sets refs
      (ensureOwnerReference (ensureOwnerReference refs a) b) [a.uid, b.uid] := by
  induction refs with
  | nil => by_cases hab : a.uid = b.uid <;> constructor <;> simp [ownersPatch, hab]
  | cons c rest ih =>
    by_cases hca : c.uid = a.uid <;> by_cases hcb : c.uid = b.uid
    · -- both uids are `c`'s: `b` replaces `c`
      simpa [ownersPatch, hca, ← hcb] using
        (OwnersPatch.Sets.self rest [a.uid, b.uid]).replace hcb (by simp)
          (by simp [ownersPatch_self])
    · -- `a` replaces `c`, and `b` is ensured in the rest
      rw [ensureOwnerReference_cons, if_pos hca, ensureOwnerReference_cons, if_neg (hca ▸ hcb)]
      exact ownersPatch_replace_ensureOwnerReference rest hca (hca ▸ hcb) (by simp) (by simp)
    · -- `b` replaces `c`, and `a` is ensured in the rest
      rw [ensureOwnerReference_cons, if_neg hca, ensureOwnerReference_cons, if_pos hcb]
      exact ownersPatch_replace_ensureOwnerReference rest hcb (hcb ▸ hca) (by simp) (by simp)
    · -- `c` is kept in front
      simpa [ownersPatch, hca, hcb] using ih.cons (by simp [Ne.symm hca, Ne.symm hcb, hca, hcb])

end MySQLOperator
