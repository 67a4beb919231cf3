import BeeTron.TopologyMock

namespace BeeTron.Steward

/-!
# Re-uploading content and checking that it is retrievable

`Reupload` walks the content under a root and pushes every chunk it meets,
stamped, into one direct-upload session, which it then ends with `Done(root)`,
or with `Cleanup()` when the walk failed. `IsRetrievable` walks the content
fetching every chunk from the network.

The traversal, the stores, the network, the session and address formatting are
not part of the sources: a walk is the list of addresses visited and the
traversal's own failure, and each collaborator call fails with an error the
environment picks, changing nothing, or takes its effect. `reupload_outcome`
gives what a `Reupload` leaves behind on success and on a failed walk.
-/

section Walk

variable {σ : Type}

/--
`traverser.Traverse(ctx, root, fn)` as the environment runs it: `fn` on each
visited address in turn, stopping at the first error; after the last one the
traversal's own outcome `ownFault`.
-/
def traverse (fn : SwarmAddress → σ → Option GoError × σ) (ownFault : Option GoError) :
    List SwarmAddress → σ → Option GoError × σ
  | [], state => (ownFault, state)
  | addr :: rest, state =>
      match fn addr state with
      | (some err, state) => (some err, state)
      | (none, state) => traverse fn ownFault rest state

end Walk

section Reupload

variable {Stamp : Type} (addressString : SwarmAddress → String) (stamp : SwarmAddress → Stamp)

/-- How the steward ended an upload session. -/
inductive Ending where
  | done (root : SwarmAddress)
  | cleanup
  deriving DecidableEq, Repr

/-- A direct-upload session: the stamped chunks it accepted, in order, and how it was ended. -/
structure Session (Stamp : Type) where
  chunks : List (SwarmAddress × Stamp)
  ended : Option Ending

/-- What the collaborators answer for one visited chunk: the local `Get`, `Stamp` and the session's `Put`. -/
structure ChunkFaults where
  get : Option GoError
  stamp : Option GoError
  put : Option GoError
  deriving DecidableEq, Repr

/-- What the environment decides for one `Reupload`. -/
structure Env where
  visits : List SwarmAddress
  traversalFault : Option GoError
  chunkFaults : SwarmAddress → ChunkFaults
  cleanup : Option GoError
  done : Option GoError

/--
The callback `fn(addr)` of `Reupload`: get the chunk from the local store,
stamp it with `stamper.Stamp(c.Address(), c.Address())`, and put it into the
session.
-/
def pushChunk (faults : ChunkFaults) (addr : SwarmAddress) (session : Session Stamp) :
    Option GoError × Session Stamp :=
  match faults.get, faults.stamp, faults.put with
  | some err, _, _ => (some err, session)
  | none, some err, _ => (some (.wrapped ("stamping chunk " ++ addressString addr) err), session)
  | none, none, some err => (some err, session)
  | none, none, none => (none, { session with chunks := session.chunks ++ [(addr, stamp addr)] })

/-- The walk of `Reupload`, from the fresh session `s.netStore.DirectUpload()`. -/
def walk (env : Env) : Option GoError × Session Stamp :=
  traverse (fun addr => pushChunk addressString stamp (env.chunkFaults addr) addr)
    env.traversalFault env.visits ⟨[], none⟩

/-- `s.Reupload(ctx, root, stamper)`: the error it returns, with the list `errors.Join` joins. -/
def reupload (root : SwarmAddress) (env : Env) : Option (List GoError) × Session Stamp :=
  match walk addressString stamp env with
  | (some err, walked) =>
      (join [some (.wrapped ("traversal of " ++ addressString root ++ " failed") err), env.cleanup],
        { walked with ended := some .cleanup })
  | (none, walked) => (env.done.map ([·]), { walked with ended := some (.done root) })

/-- The callback returns `nil` exactly when all three calls succeed, and then adds the stamped chunk. -/
theorem pushChunk_eq_none {faults : ChunkFaults} {addr : SwarmAddress} {session : Session Stamp}
    (returned : (pushChunk addressString stamp faults addr session).1 = none) :
    faults = ⟨none, none, none⟩ ∧
      (pushChunk addressString stamp faults addr session).2 =
        { session with chunks := session.chunks ++ [(addr, stamp addr)] } := by
  rcases faults with ⟨_ | _, _ | _, _ | _⟩ <;> simp_all [pushChunk]

/-- A walk of `Reupload` that returned `nil` met no failure and pushed every visited chunk in order. -/
theorem traverse_pushChunk_eq_none {faults : SwarmAddress → ChunkFaults} {ownFault : Option GoError}
    {visits : List SwarmAddress} {session : Session Stamp}
    (returned : (traverse (fun addr => pushChunk addressString stamp (faults addr) addr) ownFault
      visits session).1 = none) :
    ownFault = none ∧ (∀ addr ∈ visits, faults addr = ⟨none, none, none⟩) ∧
      (traverse (fun addr => pushChunk addressString stamp (faults addr) addr) ownFault visits
        session).2 =
        { session with chunks := session.chunks ++ visits.map fun addr => (addr, stamp addr) } := by
  induction visits generalizing session with
  | nil => simpa [traverse] using returned
  | cons addr rest inductionHypothesis =>
      simp only [traverse] at returned ⊢
      split at returned
      · cases returned
      · rename_i after continued
        obtain ⟨fine, pushed⟩ := pushChunk_eq_none addressString stamp (congrArg Prod.fst continued)
        rw [continued] at pushed
        obtain ⟨finished, restFine, restPushed⟩ := inductionHypothesis returned
        refine ⟨finished, List.forall_mem_cons.mpr ⟨fine, restFine⟩, ?_⟩
        rw [restPushed, show after = _ from pushed]
        simp

/--
Whatever the traversal visits and whichever collaborator fails: a `Reupload`
that returned `nil` met no failure, pushed every visited chunk exactly once,
in the order visited, with the stamp issued for its address, and ended the
session with `Done(root)`; a walk that failed makes `Reupload` end the session
with `Cleanup()` and return the walk's error wrapped as
`traversal of <root> failed`, joined with whatever `Cleanup` returns.
-/
theorem reupload_outcome (root : SwarmAddress) (env : Env) :
    ((reupload addressString stamp root env).1 = none →
        env.traversalFault = none ∧ (∀ addr ∈ env.visits, env.chunkFaults addr = ⟨none, none, none⟩) ∧
          (reupload addressString stamp root env).2 =
            ⟨env.visits.map fun addr => (addr, stamp addr), some (.done root)⟩) ∧
      ∀ err, (walk addressString stamp env).1 = some err →
        (reupload addressString stamp root env).1 =
            some (.wrapped ("traversal of " ++ addressString root ++ " failed") err ::
              env.cleanup.toList) ∧
          (reupload addressString stamp root env).2.ended = some .cleanup := by
  unfold reupload
  split
  · rename_i err walked failed
    refine ⟨fun joined => by simp [join] at joined, fun walkErr walkFailed => ?_⟩
    rw [failed] at walkFailed
    cases walkFailed
    exact ⟨by cases env.cleanup <;> rfl, rfl⟩
  · rename_i walked finished
    refine ⟨fun _ => ?_, fun _ walkFailed => by simp [finished] at walkFailed⟩
    simp only [walk] at finished
    obtain ⟨noFault, allFine, pushed⟩ :=
      traverse_pushChunk_eq_none addressString stamp (congrArg Prod.fst finished)
    rw [finished] at pushed
    refine ⟨noFault, allFine, ?_⟩
    simp [show walked = _ from pushed]

end Reupload

section IsRetrievable

variable (addressString : SwarmAddress → String) (errStorageNotFound : GoError)

/--
`s.IsRetrievable(ctx, root)`: the walk fetching every visited chunk with
`RetrieveChunk`, then the switch on its error; `storage.ErrNotFound` is not part
of the sources and is the parameter `errStorageNotFound`.
-/
def isRetrievable (root : SwarmAddress) (visits : List SwarmAddress)
    (traversalFault : Option GoError) (retrieveFault : SwarmAddress → Option GoError) :
    Bool × Option GoError :=
  match (traverse (fun addr (_ : Unit) => (retrieveFault addr, ())) traversalFault visits ()).1 with
  | some err =>
      if err.is errStorageNotFound then (false, none)
      else if err.is Topology.errNotFound then (false, none)
      else (false, some (.wrapped ("traversal of \"" ++ addressString root ++ "\" failed") err))
  | none => (true, none)

end IsRetrievable

end BeeTron.Steward
