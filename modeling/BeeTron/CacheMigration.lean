import BeeTron.IndexStore

namespace BeeTron.Migration

open Storage

/-!
# Migration step 02: rewriting the cache entries

`step_02` moves the cache to a new value format without touching its keys: in
one transaction it lists the IDs of every cache entry, rebuilds each entry from
its ID with a fresh access timestamp, puts the rebuilt entries back, and
commits. The deferred `done()` discards the transaction when any step fails.

The `cache` package is not part of the sources. A cache entry is keyed by its
chunk address (spec §3, Cache Entry); the namespace constant and the
marshalling of an entry are parameters of this module, so every result holds
for any choice of them.
-/

/-- `cache.CacheEntryItem`. -/
structure CacheEntryItem where
  address : SwarmAddress
  accessTimestamp : Int
  deriving DecidableEq, Repr

section StepTwo

variable (cacheNamespace : GoString) (marshal : CacheEntryItem → List UInt8)

/-- Modelled from the spec: a cache entry is stored under its chunk address. -/
def CacheEntryItem.key (entry : CacheEntryItem) : Key :=
  ⟨cacheNamespace, entry.address.byteString⟩

/-- What `Put(entry)` writes for a cache entry. -/
def CacheEntryItem.item (entry : CacheEntryItem) : Item :=
  ⟨entry.key cacheNamespace, marshal entry⟩

/--
The callback `step_02` passes to `Iterate`: it rebuilds the entry from the
listed ID and reads the clock, never stopping and never failing. The `n`-th
call reads the clock for the `n`-th time, and `entries` holds one entry for
each earlier call.
-/
def collectEntry (now : Nat → Int) (res : Result) (entries : List CacheEntryItem) :
    Except GoError (Bool × List CacheEntryItem) :=
  .ok (false, entries ++ [⟨SwarmAddress.newAddress res.id.bytes, now entries.length⟩])

/-- The loop `for _, entry := range entries` putting every entry into the transaction. -/
def putEntries (env : Env) : Transaction → List CacheEntryItem → Except GoError Transaction
  | trx, [] => .ok trx
  | trx, entry :: rest =>
      match trx.put env (entry.item cacheNamespace marshal) with
      | .error err => .error err
      | .ok trx => putEntries env trx rest

/--
`step_02(st)()`: the committed store once the function has returned and
`done()` has run, and the error it returns.
-/
def step02 (env : Env) (st : IndexStore) : IndexStore × Option GoError :=
  let trx := Transaction.new st
  match trx.base.iterate env.iterateFault cacheNamespace (collectEntry env.now) [] with
  | .error err => (st, some err)
  | .ok entries =>
      match putEntries cacheNamespace marshal env trx entries with
      | .error err => (st, some err)
      | .ok trx =>
          match trx.commit env with
          | .error err => (st, some err)
          | .ok committed => (committed, none)

/--
`after` is `before` with the cache entry at every ID rewritten under its own
key, marshalled with the timestamp `stamp id`, and with every item of another
namespace unchanged.
-/
def RewritesCacheEntries (before after : IndexStore) (stamp : GoString → Int) : Prop :=
  ∀ key : Key, after.lookup key =
    if key.ns = cacheNamespace then
      (before.lookup key).map fun _ =>
        marshal ⟨SwarmAddress.newAddress key.id.bytes, stamp key.id⟩
    else
      before.lookup key

/-- The entries `collectEntry` builds for a run of IDs, reading the clock from `n` on. -/
def freshEntries (now : Nat → Int) : Nat → List GoString → List CacheEntryItem
  | _, [] => []
  | n, id :: rest => ⟨SwarmAddress.newAddress id.bytes, now n⟩ :: freshEntries now (n + 1) rest

/-- The iteration callback collects one fresh entry per listed ID, in order. -/
theorem visit_collectEntry (now : Nat → Int) (ids : List GoString)
    (entries : List CacheEntryItem) :
    IndexStore.iterate.visit (collectEntry now) ids entries =
      .ok (entries ++ freshEntries now entries.length ids) := by
  induction ids generalizing entries with
  | nil =>
      simp [IndexStore.iterate.visit, freshEntries]
  | cons id rest inductionHypothesis =>
      simp [IndexStore.iterate.visit, collectEntry, freshEntries, inductionHypothesis]

/-- The fresh entries are stored under the listed IDs, in order. -/
theorem freshEntries_keys (now : Nat → Int) (n : Nat) (ids : List GoString) :
    (freshEntries now n ids).map (CacheEntryItem.key cacheNamespace) =
      ids.map (Key.mk cacheNamespace) := by
  induction ids generalizing n with
  | nil =>
      rfl
  | cons id rest inductionHypothesis =>
      simp [freshEntries, CacheEntryItem.key, SwarmAddress.newAddress,
        SwarmAddress.byteString, inductionHypothesis]

/-- A listed ID gets the clock reading at its position in the list. -/
theorem mem_freshEntries {now : Nat → Int} {n : Nat} {ids : List GoString}
    {id : GoString} (listed : id ∈ ids) :
    ⟨SwarmAddress.newAddress id.bytes, now (n + ids.indexOf id)⟩ ∈ freshEntries now n ids := by
  induction ids generalizing n with
  | nil =>
      cases listed
  | cons head rest inductionHypothesis =>
      by_cases isHead : id = head
      · subst isHead
        simp [freshEntries]
      · have inRest := (List.mem_cons.mp listed).resolve_left isHead
        have later := @inductionHypothesis (n + 1) inRest
        rw [List.indexOf_cons_ne _ (Ne.symm isHead)]
        simp only [freshEntries, List.mem_cons]
        exact Or.inr (by rwa [Nat.add_assoc, Nat.add_comm 1] at later)

/-- A successful put loop buffers exactly the given entries after the earlier ones. -/
theorem putEntries_pending {env : Env} {trx done : Transaction}
    {entries : List CacheEntryItem}
    (succeeded : putEntries cacheNamespace marshal env trx entries = .ok done) :
    done.base = trx.base ∧
      done.pending = trx.pending ++ entries.map (CacheEntryItem.item cacheNamespace marshal) := by
  induction entries generalizing trx with
  | nil =>
      cases succeeded
      simp
  | cons entry rest inductionHypothesis =>
      cases fault : env.putFault trx.pending.length with
      | some err =>
          simp [putEntries, Transaction.put, fault] at succeeded
      | none =>
          simp only [putEntries, Transaction.put, fault] at succeeded
          obtain ⟨sameBase, samePending⟩ := inductionHypothesis succeeded
          simp [sameBase, samePending]

/-- With no `Put` failing, the put loop buffers every entry after the earlier ones. -/
theorem putEntries_eq_ok {env : Env} (puts : ∀ n, env.putFault n = none) (trx : Transaction)
    (entries : List CacheEntryItem) :
    putEntries cacheNamespace marshal env trx entries =
      .ok { trx with
        pending := trx.pending ++ entries.map (CacheEntryItem.item cacheNamespace marshal) } := by
  induction entries generalizing trx with
  | nil => simp [putEntries]
  | cons entry rest inductionHypothesis =>
      simp [putEntries, Transaction.put, puts, inductionHypothesis]

/-- The pairs `Commit` writes after a successful run: one per listed ID. -/
def rewrittenPairs (now : Nat → Int) (st : IndexStore) : List (Key × List UInt8) :=
  (freshEntries now 0 (st.ids cacheNamespace)).map fun entry =>
    (entry.key cacheNamespace, marshal entry)

/-- A run that returns no error commits the rewritten entries over the store. -/
theorem step02_committed {env : Env} {st committed : IndexStore}
    (succeeded : step02 cacheNamespace marshal env st = (committed, none)) :
    committed = GoMap.assignAll st (rewrittenPairs cacheNamespace marshal env.now st) := by
  cases iterated : env.iterateFault with
  | some err =>
      simp [step02, IndexStore.iterate, iterated] at succeeded
  | none =>
      simp only [step02, Transaction.new, IndexStore.iterate, iterated,
        visit_collectEntry, List.length_nil, List.nil_append] at succeeded
      cases put : putEntries cacheNamespace marshal env ⟨st, []⟩
          (freshEntries env.now 0 (st.ids cacheNamespace)) with
      | error err =>
          simp [put] at succeeded
      | ok trx =>
          obtain ⟨sameBase, samePending⟩ := putEntries_pending cacheNamespace marshal put
          cases committedFault : env.commitFault with
          | some err =>
              simp [put, Transaction.commit, committedFault] at succeeded
          | none =>
              simp only [put, Transaction.commit, committedFault, Prod.mk.injEq] at succeeded
              rw [← succeeded.1, sameBase, samePending]
              simp [rewrittenPairs, CacheEntryItem.item, Function.comp_def]

/-- A run that returns an error leaves the committed store as it was. -/
theorem step02_failed {env : Env} {st committed : IndexStore} {err : GoError}
    (failed : step02 cacheNamespace marshal env st = (committed, some err)) :
    committed = st := by
  simp only [step02] at failed
  split at failed
  · exact (Prod.mk.inj failed).1.symm
  · split at failed
    · exact (Prod.mk.inj failed).1.symm
    · split at failed
      · exact (Prod.mk.inj failed).1.symm
      · cases failed

/--
Committing the rewritten pairs rewrites every cache entry with the clock
reading taken at its position in the iteration.
-/
theorem rewritesCacheEntries_rewrittenPairs (now : Nat → Int) (st : IndexStore) :
    RewritesCacheEntries cacheNamespace marshal st
      (GoMap.assignAll st (rewrittenPairs cacheNamespace marshal now st))
      fun id => now ((st.ids cacheNamespace).indexOf id) := by
  have pairKeys :
      (rewrittenPairs cacheNamespace marshal now st).map Prod.fst =
        (st.ids cacheNamespace).map (Key.mk cacheNamespace) := by
    rw [rewrittenPairs, List.map_map, ← freshEntries_keys cacheNamespace now 0]
    rfl
  have distinct : ((rewrittenPairs cacheNamespace marshal now st).map Prod.fst).Nodup := by
    rw [pairKeys]
    exact (IndexStore.ids_nodup st cacheNamespace).map
      (fun _ _ same => (Key.mk.inj same).2)
  rintro ⟨ns, id⟩
  by_cases inCache : ns = cacheNamespace
  · subst inCache
    by_cases listed : id ∈ st.ids ns
    · obtain ⟨value, found⟩ := Finmap.mem_iff.mp (IndexStore.mem_ids.mp listed)
      have written :
          ((⟨ns, id⟩ : Key), marshal ⟨SwarmAddress.newAddress id.bytes, now (0 + (st.ids ns).indexOf id)⟩) ∈
            rewrittenPairs ns marshal now st :=
        List.mem_map_of_mem _ (mem_freshEntries listed)
      rw [GoMap.lookup_assignAll_of_mem distinct written]
      simp [found]
    · have absent : (⟨ns, id⟩ : Key) ∉ st := fun stored => listed (IndexStore.mem_ids.mpr stored)
      rw [GoMap.lookup_assignAll_of_not_mem (by simpa [pairKeys] using listed),
        Finmap.lookup_eq_none.mpr absent]
      simp
  · have absent : (⟨ns, id⟩ : Key) ∉ (rewrittenPairs cacheNamespace marshal now st).map Prod.fst := by
      rw [pairKeys]
      intro listed
      obtain ⟨_, _, same⟩ := List.mem_map.mp listed
      exact inCache (Key.mk.inj same).1.symm
    rw [GoMap.lookup_assignAll_of_not_mem absent]
    simp [inCache]

/-- A rewrite keeps the set of cache entry IDs. -/
theorem RewritesCacheEntries.ids_eq {before after : IndexStore} {stamp : GoString → Int}
    (rewrites : RewritesCacheEntries cacheNamespace marshal before after stamp) :
    after.ids cacheNamespace = before.ids cacheNamespace :=
  IndexStore.ids_congr fun id => by
    rw [← Finmap.lookup_isSome, ← Finmap.lookup_isSome, rewrites]
    simp

/-- A rewrite of a rewrite is a rewrite of the original store, with the later stamps. -/
theorem RewritesCacheEntries.trans {first second third : IndexStore}
    {firstStamp secondStamp : GoString → Int}
    (firstRewrite : RewritesCacheEntries cacheNamespace marshal first second firstStamp)
    (secondRewrite : RewritesCacheEntries cacheNamespace marshal second third secondStamp) :
    RewritesCacheEntries cacheNamespace marshal first third secondStamp := by
  intro key
  rw [secondRewrite, firstRewrite]
  split <;> simp [Option.map_map, Function.comp_def]

/-- Every run either rewrites the cache entries or leaves the store as it was. -/
theorem step02_cases (env : Env) (st : IndexStore) :
    match step02 cacheNamespace marshal env st with
    | (committed, none) =>
        RewritesCacheEntries cacheNamespace marshal st committed
          fun id => env.now ((st.ids cacheNamespace).indexOf id)
    | (committed, some _) => committed = st := by
  match returned : step02 cacheNamespace marshal env st with
  | (committed, none) =>
      rw [step02_committed cacheNamespace marshal returned]
      exact rewritesCacheEntries_rewrittenPairs cacheNamespace marshal env.now st
  | (committed, some _) =>
      exact step02_failed cacheNamespace marshal returned

/--
A run in which neither the listing, any `Put` nor `Commit` fails returns `nil`
and commits every cache entry rewritten with the clock reading taken at its
position in the iteration.
-/
theorem step02_succeeds {env : Env} (st : IndexStore) (listed : env.iterateFault = none)
    (puts : ∀ n, env.putFault n = none) (commits : env.commitFault = none) :
    (step02 cacheNamespace marshal env st).2 = none ∧
      RewritesCacheEntries cacheNamespace marshal st (step02 cacheNamespace marshal env st).1
        fun id => env.now ((st.ids cacheNamespace).indexOf id) := by
  have committed : step02 cacheNamespace marshal env st =
      (GoMap.assignAll st (rewrittenPairs cacheNamespace marshal env.now st), none) := by
    simp [step02, Transaction.new, IndexStore.iterate, listed, visit_collectEntry,
      putEntries_eq_ok cacheNamespace marshal puts, Transaction.commit, commits, rewrittenPairs,
      CacheEntryItem.item, Function.comp_def]
  rw [committed]
  exact ⟨rfl, rewritesCacheEntries_rewrittenPairs cacheNamespace marshal env.now st⟩

/--
`step_02` either commits every cache entry rewritten under its own key with a
fresh timestamp, leaving every other namespace alone, or returns an error with
the committed store untouched. So a second run, whatever its clock and faults,
finds the same cache entries and again leaves a rewrite of the original store.
-/
theorem step02_rewritesCacheEntries (env : Env) (st : IndexStore) :
    (match step02 cacheNamespace marshal env st with
      | (committed, none) =>
          RewritesCacheEntries cacheNamespace marshal st committed
            fun id => env.now ((st.ids cacheNamespace).indexOf id)
      | (committed, some _) => committed = st) ∧
    ∀ env' : Env,
      (step02 cacheNamespace marshal env' (step02 cacheNamespace marshal env st).1).1.ids
          cacheNamespace = st.ids cacheNamespace ∧
        match step02 cacheNamespace marshal env' (step02 cacheNamespace marshal env st).1 with
        | (again, none) => ∃ stamp, RewritesCacheEntries cacheNamespace marshal st again stamp
        | (again, some _) => again = (step02 cacheNamespace marshal env st).1 := by
  refine ⟨step02_cases cacheNamespace marshal env st, fun env' => ?_⟩
  have first := step02_cases cacheNamespace marshal env st
  generalize step02 cacheNamespace marshal env st = once at first ⊢
  rcases once with ⟨committed, _ | _⟩
  all_goals
    have second := step02_cases cacheNamespace marshal env' committed
    generalize step02 cacheNamespace marshal env' committed = twice at second ⊢
    rcases twice with ⟨again, _ | _⟩
    dsimp only at first second ⊢
  · exact ⟨(RewritesCacheEntries.ids_eq cacheNamespace marshal second).trans
        (RewritesCacheEntries.ids_eq cacheNamespace marshal first),
      _, RewritesCacheEntries.trans cacheNamespace marshal first second⟩
  · exact ⟨second ▸ RewritesCacheEntries.ids_eq cacheNamespace marshal first, second⟩
  · subst first
    exact ⟨RewritesCacheEntries.ids_eq cacheNamespace marshal second, _, second⟩
  · subst first second
    exact ⟨rfl, rfl⟩

end StepTwo

end BeeTron.Migration
