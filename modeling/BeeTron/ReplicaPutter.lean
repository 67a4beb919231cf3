import BeeTron.Values

namespace BeeTron.Replicas

/-!
# Putting dispersed replicas concurrently

`putter.Put` starts one goroutine per replica the replicator yields; each signs
its chunk, puts it, and sends the error, `nil` included, into the buffered
channel `errc` before its deferred `wg.Done()`. The caller waits on the group,
closes and drains `errc`, and returns `errors.Join` of what it drained. The
replicator, the signing, the inner putter and the buffer size
`GetReplicaCount()`, the parameter `capacity`, are the environment's, and all
steps interleave in any order.

`put_result`: a call that returned returned `nil` exactly when every replica
was stored. `put_blocks` and `put_progress`: the call never returns when more
replicas are yielded than `errc` holds, and is never stuck otherwise.
-/

/-- One replica the replicator yields: the identifier its single-owner chunk is made under. -/
structure Replica where
  id : List UInt8
  deriving DecidableEq, Repr

/-- Where one replica goroutine stands: before signing and putting, before its send, or done. -/
inductive WorkerPc where
  | sign
  | send (err : Option GoError)
  | done (err : Option GoError)
  deriving DecidableEq, Repr

/-- One replica goroutine. -/
structure Worker where
  replica : Replica
  pc : WorkerPc
  deriving DecidableEq, Repr

/-- Where the calling goroutine stands: in the loop over the replicas not yet received, waiting on the wait group, or returned. -/
inductive CallerPc where
  | spawning (pending : List Replica)
  | waiting
  | returned (result : Option (List GoError))
  deriving DecidableEq, Repr

/-- One `Put` call in progress: its goroutines, the wait group counter, the channel's buffer, and what the wrapped putter stored. -/
structure PutCall where
  caller : CallerPc
  workers : List Worker
  wg : Nat
  errc : List (Option GoError)
  stored : List Replica
  deriving DecidableEq, Repr

/-- The replicas `Put` starts goroutines for: none when `p.rLevel == 0`. -/
def yielded (rLevel : Nat) (replicas : List Replica) : List Replica :=
  if rLevel = 0 then [] else replicas

/-- `Put(ctx, ch)` as it starts: it returns at once when `p.rLevel == 0`. -/
def PutCall.start (rLevel : Nat) (replicas : List Replica) : PutCall :=
  if rLevel = 0 then ⟨.returned none, [], 0, [], []⟩ else ⟨.spawning replicas, [], 0, [], []⟩

section Run

variable (capacity : Nat)

/-- The caller's next step: receive a replica and start its goroutine, leave the loop, or return once the wait group is zero. -/
def callerStep (put : PutCall) : PutCall :=
  match put.caller with
  | .spawning [] => { put with caller := .waiting }
  | .spawning (replica :: rest) =>
      { put with
        caller := .spawning rest
        workers := put.workers ++ [⟨replica, .sign⟩]
        wg := put.wg + 1 }
  | .waiting => if put.wg = 0 then { put with caller := .returned (join put.errc) } else put
  | .returned _ => put

/--
The next step of the goroutine at `index`: sign its replica and put it, the
error being the signing error, else the inner `Put`'s error; or send that
error into `errc`, waiting while the buffer is full.
-/
def workerStep (put : PutCall) (index : Nat) (signFault putFault : Option GoError) : PutCall :=
  match put.workers[index]? with
  | none => put
  | some worker =>
      match worker.pc with
      | .sign =>
          let err := signFault <|> putFault
          { put with
            workers := put.workers.set index ⟨worker.replica, .send err⟩
            stored := if err = none then put.stored ++ [worker.replica] else put.stored }
      | .send err =>
          if put.errc.length < capacity then
            { put with
              workers := put.workers.set index ⟨worker.replica, .done err⟩
              errc := put.errc ++ [err]
              wg := put.wg - 1 }
          else
            put
      | .done _ => put

/-- One scheduler action. -/
inductive Action where
  | caller
  | worker (index : Nat) (signFault putFault : Option GoError)

/-- Apply one scheduler action. -/
def PutCall.step (put : PutCall) : Action → PutCall
  | .caller => callerStep put
  | .worker index signFault putFault => workerStep capacity put index signFault putFault

/-- Apply a schedule of actions in order. -/
def PutCall.run (put : PutCall) (actions : List Action) : PutCall :=
  actions.foldl (PutCall.step capacity) put

namespace WorkerPc

/-- Whether the goroutine has not yet run its deferred `wg.Done()`. -/
def running : WorkerPc → Bool
  | .sign => true
  | .send _ => true
  | .done _ => false

/-- What the goroutine sent into `errc`, once it has. -/
def sent : WorkerPc → Option (Option GoError)
  | .sign => none
  | .send _ => none
  | .done err => some err

/-- Whether the wrapped putter stored the goroutine's replica. -/
def storedIt : WorkerPc → Bool
  | .sign => false
  | .send err => err.isNone
  | .done err => err.isNone

end WorkerPc

/-- The replica the wrapped putter stored for a goroutine, if it did. -/
def Worker.storedReplica (worker : Worker) : Option Replica :=
  if worker.pc.storedIt then some worker.replica else none

/-- The replicas the caller has not received from the replicator yet. -/
def CallerPc.pending : CallerPc → List Replica
  | .spawning pending => pending
  | _ => []

/--
What every reachable state of a `Put` call satisfies: the goroutines were
started for the yielded replicas in order, the wait group counts the running
ones, the buffer holds what the finished ones sent and never more than it can
hold, the store holds the replicas whose signing and put succeeded, and a
returned call returned the join of the buffer after the wait group reached
zero.
-/
structure Consistent (yielded : List Replica) (put : PutCall) : Prop where
  spawned : put.workers.map Worker.replica ++ put.caller.pending = yielded
  wg : put.wg = put.workers.countP fun worker => worker.pc.running
  errc : put.errc.Perm (put.workers.filterMap fun worker => worker.pc.sent)
  bounded : put.errc.length ≤ capacity
  stored : put.stored.Perm (put.workers.filterMap Worker.storedReplica)
  returned : ∀ result, put.caller = .returned result → put.wg = 0 ∧ result = join put.errc

/-- A call starts consistent with the replicas it starts goroutines for. -/
theorem consistent_start (rLevel : Nat) (replicas : List Replica) :
    Consistent capacity (yielded rLevel replicas) (PutCall.start rLevel replicas) := by
  unfold PutCall.start yielded
  split <;> exact ⟨by simp [CallerPc.pending], rfl, .nil, Nat.zero_le _, .nil,
    by simp [join]⟩

/-- The caller's step keeps a call consistent. -/
theorem callerStep_consistent {yielded : List Replica} {put : PutCall}
    (consistent : Consistent capacity yielded put) :
    Consistent capacity yielded (callerStep put) := by
  obtain ⟨spawned, wg, errc, bounded, stored, returned⟩ := consistent
  unfold callerStep
  split
  · rename_i leaving
    exact ⟨by simpa [leaving, CallerPc.pending] using spawned, wg, errc, bounded, stored,
      by simp⟩
  · rename_i replica rest receiving
    refine ⟨by simpa [receiving, CallerPc.pending] using spawned,
      by simp [wg, List.countP_append, WorkerPc.running], ?_, bounded, ?_, by simp⟩
    · simpa [WorkerPc.sent] using errc
    · simpa [Worker.storedReplica, WorkerPc.storedIt] using stored
  · split
    · rename_i waiting finished
      exact ⟨by simpa [waiting, CallerPc.pending] using spawned, wg, errc, bounded, stored,
        fun _ returning => ⟨finished, by cases returning; rfl⟩⟩
    · exact ⟨spawned, wg, errc, bounded, stored, returned⟩
  · exact ⟨spawned, wg, errc, bounded, stored, returned⟩

/--
Moving the running goroutine at `index` to the stage `pc` keeps every
goroutine's replica, stops what `pc` stops, and adds what `pc` sends and
stores.
-/
theorem moveWorker {workers : List Worker} {index : Nat} {worker : Worker}
    (found : workers[index]? = some worker) (running : worker.pc.running = true) (pc : WorkerPc) :
    (workers.set index ⟨worker.replica, pc⟩).map Worker.replica = workers.map Worker.replica ∧
      (workers.set index ⟨worker.replica, pc⟩).countP (fun worker => worker.pc.running) + 1 =
        workers.countP (fun worker => worker.pc.running) + pc.running.toNat ∧
      ((workers.set index ⟨worker.replica, pc⟩).filterMap fun worker => worker.pc.sent).Perm
        (pc.sent.toList ++ workers.filterMap fun worker => worker.pc.sent) ∧
      ((workers.set index ⟨worker.replica, pc⟩).filterMap Worker.storedReplica ++
          worker.storedReplica.toList).Perm
        ((Worker.storedReplica ⟨worker.replica, pc⟩).toList ++
          workers.filterMap Worker.storedReplica) := by
  obtain ⟨inBounds, atIndex⟩ := List.getElem?_eq_some_iff.mp found
  have notSent : worker.pc.sent = none := by
    cases stage : worker.pc <;> simp_all [WorkerPc.running, WorkerPc.sent]
  obtain ⟨sentBefore, sentAfter⟩ := filterMap_set_perm ⟨worker.replica, pc⟩
    (fun worker => worker.pc.sent) found notSent rfl
  obtain ⟨storedBefore, storedAfter⟩ := filterMap_set_perm ⟨worker.replica, pc⟩
    Worker.storedReplica found rfl rfl
  refine ⟨map_set_of_getElem? Worker.replica found rfl, ?_, ?_, ?_⟩
  · have atLeastOne := List.boole_getElem_le_countP (fun worker : Worker => worker.pc.running)
      workers index inBounds
    rw [List.countP_set _ _ _ _ inBounds]
    simp only [atIndex, running, if_true] at atLeastOne ⊢
    cases pc.running <;> simp <;> omega
  · simpa using sentAfter.trans (List.Perm.append_left _ sentBefore.symm)
  · refine (storedAfter.append_right _).trans ?_
    rw [List.append_assoc]
    exact List.Perm.append_left _
      (List.perm_append_comm.trans storedBefore.symm)

/-- A goroutine's step keeps a call consistent. -/
theorem workerStep_consistent {yielded : List Replica} {put : PutCall}
    (consistent : Consistent capacity yielded put) (index : Nat)
    (signFault putFault : Option GoError) :
    Consistent capacity yielded (workerStep capacity put index signFault putFault) := by
  obtain ⟨spawned, wg, errc, bounded, stored, returned⟩ := consistent
  unfold workerStep
  split
  · exact ⟨spawned, wg, errc, bounded, stored, returned⟩
  · rename_i worker found
    cases stage : worker.pc with
    | sign =>
        dsimp only
        generalize (signFault <|> putFault) = err
        obtain ⟨replicas, counted, sentMoved, storedMoved⟩ :=
          moveWorker found (by rw [stage]; rfl) (.send err)
        have sendRuns : (WorkerPc.send err).running.toNat = 1 := rfl
        refine ⟨by simpa [replicas] using spawned, by dsimp only; omega,
          errc.trans (by simpa [WorkerPc.sent] using sentMoved.symm), bounded, ?_, returned⟩
        simp only [Worker.storedReplica, stage, WorkerPc.storedIt] at storedMoved
        cases err <;> simp at storedMoved ⊢
        · exact ((stored.append_right _).trans List.perm_append_comm).trans storedMoved.symm
        · exact stored.trans storedMoved.symm
    | send err =>
        dsimp only
        split
        · rename_i room
          obtain ⟨replicas, counted, sentMoved, storedMoved⟩ :=
            moveWorker found (by rw [stage]; rfl) (.done err)
          have doneStops : (WorkerPc.done err).running.toNat = 0 := rfl
          have running : 0 < put.wg := by omega
          simp only [Worker.storedReplica, stage, WorkerPc.storedIt] at storedMoved
          refine ⟨by simpa [replicas] using spawned, by dsimp only; omega,
            ((errc.append_right _).trans List.perm_append_comm).trans
              (by simpa [WorkerPc.sent] using sentMoved.symm),
            by simpa using room, ?_,
            fun result returning => absurd (returned result returning).1 running.ne'⟩
          exact stored.trans
            ((List.perm_append_right_iff _).mp (storedMoved.trans List.perm_append_comm)).symm
        · exact ⟨spawned, wg, errc, bounded, stored, returned⟩
    | done err => exact ⟨spawned, wg, errc, bounded, stored, returned⟩

/-- Every schedule from the start keeps a call consistent. -/
theorem consistent_run (rLevel : Nat) (replicas : List Replica) (actions : List Action) :
    Consistent capacity (yielded rLevel replicas)
      ((PutCall.start rLevel replicas).run capacity actions) := by
  suffices preserved : ∀ put, Consistent capacity (yielded rLevel replicas) put →
      Consistent capacity (yielded rLevel replicas) (put.run capacity actions) from
    preserved _ (consistent_start capacity rLevel replicas)
  induction actions with
  | nil => exact fun _ consistent => consistent
  | cons action rest inductionHypothesis =>
      intro put consistent
      apply inductionHypothesis
      cases action with
      | caller => exact callerStep_consistent capacity consistent
      | worker index signFault putFault =>
          exact workerStep_consistent capacity consistent index signFault putFault

/-- A returned call has waited for every goroutine it started. -/
theorem Consistent.finished {yielded : List Replica} {put : PutCall} {result : Option (List GoError)}
    (consistent : Consistent capacity yielded put) (returnedWith : put.caller = .returned result) :
    ∀ worker ∈ put.workers, ∃ err, worker.pc = .done err := by
  have waited := (consistent.returned result returnedWith).1
  rw [consistent.wg, List.countP_eq_zero] at waited
  intro worker member
  have stopped := waited worker member
  cases stage : worker.pc <;> simp_all [WorkerPc.running]

/-- Once every goroutine is done, the buffer holds one error from each. -/
theorem Consistent.errc_length_of_finished {yielded : List Replica} {put : PutCall}
    (consistent : Consistent capacity yielded put)
    (finished : ∀ worker ∈ put.workers, ∃ err, worker.pc = .done err) :
    put.errc.length = put.workers.length := by
  rw [consistent.errc.length_eq, List.length_filterMap_eq_countP, List.countP_eq_length]
  intro worker member
  obtain ⟨err, stage⟩ := finished worker member
  simp [stage, WorkerPc.sent]

/--
While the caller waits and `errc` can buffer every replica, a running
goroutine can take a step: one about to sign signs, and one about to send
finds room in the buffer.
-/
theorem Consistent.worker_steps {yielded : List Replica} {put : PutCall}
    (consistent : Consistent capacity yielded put) (waiting : put.caller = .waiting)
    (fits : yielded.length ≤ capacity) {worker : Worker} (member : worker ∈ put.workers)
    (isRunning : worker.pc.running) :
    ∃ action, put.step capacity action ≠ put := by
  obtain ⟨index, found⟩ := List.getElem?_of_mem member
  cases stage : worker.pc with
  | sign =>
      refine ⟨.worker index none none, fun same => ?_⟩
      have moved := congrArg (fun put => (put.workers[index]?).map Worker.pc) same
      simp [PutCall.step, workerStep, found, stage, List.getElem?_set,
        (List.getElem?_eq_some_iff.mp found).1] at moved
  | send err =>
      have sentFewer : put.errc.length < put.workers.length := by
        rw [consistent.errc.length_eq, List.length_filterMap_eq_countP,
          List.countP_eq_length_filter, List.length_filter_lt_length_iff_exists]
        exact ⟨worker, member, by simp [stage, WorkerPc.sent]⟩
      have spawned := congrArg List.length consistent.spawned
      simp only [waiting, CallerPc.pending, List.append_nil, List.length_map] at spawned
      refine ⟨.worker index none none, fun same => ?_⟩
      have moved := congrArg (fun put => put.errc.length) same
      simp [PutCall.step, workerStep, found, stage, show put.errc.length < capacity by omega]
        at moved
  | done err => simp [stage, WorkerPc.running] at isRunning

/--
Whatever the schedule and whichever signings and puts fail, a `Put` call that
returned has waited for every goroutine it started, and it returned `nil`
exactly when the wrapped putter stored every replica the replicator yielded.
-/
theorem put_result (rLevel : Nat) (replicas : List Replica) (actions : List Action)
    (result : Option (List GoError))
    (returnedWith : ((PutCall.start rLevel replicas).run capacity actions).caller =
      .returned result) :
    (∀ worker ∈ ((PutCall.start rLevel replicas).run capacity actions).workers,
        worker.pc.running = false) ∧
      (result = none ↔ ((PutCall.start rLevel replicas).run capacity actions).stored.Perm
        (yielded rLevel replicas)) := by
  have consistent := consistent_run capacity rLevel replicas actions
  generalize (PutCall.start rLevel replicas).run capacity actions = put at consistent returnedWith ⊢
  have finished := consistent.finished capacity returnedWith
  have allYielded : put.workers.map Worker.replica = yielded rLevel replicas := by
    simpa [returnedWith, CallerPc.pending] using consistent.spawned
  refine ⟨fun worker member => by
    obtain ⟨err, stage⟩ := finished worker member
    simp [stage, WorkerPc.running], ?_⟩
  rw [(consistent.returned result returnedWith).2, join_eq_none, ← allYielded]
  constructor
  · intro noErrors
    have everyStored : ∀ worker ∈ put.workers, worker.storedReplica = some worker.replica := by
      intro worker member
      obtain ⟨err, stage⟩ := finished worker member
      have sentIt : err ∈ put.errc := consistent.errc.mem_iff.mpr
        (List.mem_filterMap.mpr ⟨worker, member, by simp [stage, WorkerPc.sent]⟩)
      simp [Worker.storedReplica, stage, WorkerPc.storedIt, noErrors err sentIt]
    exact List.filterMap_eq_map_iff_forall_eq_some.mpr everyStored ▸ consistent.stored
  · intro allStored err member
    obtain ⟨worker, inWorkers, sentIt⟩ :=
      List.mem_filterMap.mp (consistent.errc.mem_iff.mp member)
    obtain ⟨doneErr, stage⟩ := finished worker inWorkers
    have full := consistent.stored.length_eq.symm.trans allStored.length_eq
    rw [List.length_filterMap_eq_countP, List.length_map, List.countP_eq_length] at full
    have storedIt := full worker inWorkers
    simp only [stage, WorkerPc.sent, Option.some.injEq] at sentIt
    subst sentIt
    simpa [Worker.storedReplica, stage, WorkerPc.storedIt] using storedIt

/-- The result law applies to two replicas, the second failing to sign. -/
theorem put_result_signingFails :
    let run := (PutCall.start 1 [⟨[1]⟩, ⟨[2]⟩]).run 2
      [.caller, .caller, .caller, .worker 0 none none,
        .worker 1 (some (.new "errSign" "signing failed")) none, .worker 0 none none,
        .worker 1 none none, .caller]
    run.caller = .returned (some [.new "errSign" "signing failed"]) ∧
      (∀ worker ∈ run.workers, worker.pc.running = false) ∧
      (some [GoError.new "errSign" "signing failed"] = none ↔
        run.stored.Perm (yielded 1 [⟨[1]⟩, ⟨[2]⟩])) :=
  ⟨by decide, put_result 2 1 _ _ _ (by decide)⟩

/--
When the replicator yields more replicas than `errc` can buffer, no schedule
lets a `Put` call return: the goroutines past the buffer wait on their send
while the caller waits on the wait group. `Put` thus relies on the replicator,
which is not part of the sources, to yield at most `GetReplicaCount()` replicas.
-/
theorem put_blocks (rLevel : Nat) (replicas : List Replica)
    (overflow : capacity < (yielded rLevel replicas).length) (actions : List Action)
    (result : Option (List GoError)) :
    ((PutCall.start rLevel replicas).run capacity actions).caller ≠ .returned result := by
  intro returnedWith
  have consistent := consistent_run capacity rLevel replicas actions
  have everySent := consistent.errc_length_of_finished capacity
    (consistent.finished capacity returnedWith)
  have spawned := congrArg List.length consistent.spawned
  simp only [returnedWith, CallerPc.pending, List.append_nil, List.length_map] at spawned
  have bounded := consistent.bounded
  omega

/-- The blocking law applies to two replicas and a buffer of one. -/
theorem put_blocks_twoReplicas :
    1 < (yielded 1 [⟨[1]⟩, ⟨[2]⟩]).length ∧
      ((PutCall.start 1 [⟨[1]⟩, ⟨[2]⟩]).run 1
        [.caller, .caller, .caller, .worker 0 none none, .worker 1 none none,
          .worker 0 none none, .worker 1 none none, .caller]).caller ≠ .returned none :=
  ⟨by decide, put_blocks 1 1 _ (by decide) _ _⟩

/--
When `errc` can buffer every replica the replicator yields, no schedule
reaches a state where the call has not returned and nothing can move: the
caller or one of the goroutines can always take a step.
-/
theorem put_progress (rLevel : Nat) (replicas : List Replica)
    (fits : (yielded rLevel replicas).length ≤ capacity) (actions : List Action)
    (running : ∀ result,
      ((PutCall.start rLevel replicas).run capacity actions).caller ≠ .returned result) :
    ∃ action, ((PutCall.start rLevel replicas).run capacity actions).step capacity action ≠
      (PutCall.start rLevel replicas).run capacity actions := by
  have consistent := consistent_run capacity rLevel replicas actions
  generalize (PutCall.start rLevel replicas).run capacity actions = put at consistent running ⊢
  cases calling : put.caller with
  | returned result => exact absurd calling (running result)
  | spawning pending =>
      refine ⟨.caller, fun same => ?_⟩
      have moved := congrArg PutCall.caller same
      cases pending <;> simp [PutCall.step, callerStep, calling] at moved
  | waiting =>
      by_cases idle : put.wg = 0
      · refine ⟨.caller, fun same => ?_⟩
        have moved := congrArg PutCall.caller same
        simp [PutCall.step, callerStep, calling, idle] at moved
      have busy : 0 < put.workers.countP fun worker => worker.pc.running := by
        rw [← consistent.wg]
        omega
      obtain ⟨worker, member, isRunning⟩ := List.countP_pos_iff.mp busy
      exact consistent.worker_steps capacity calling fits member isRunning

/-- The progress law applies to two replicas waited for with a buffer of two. -/
theorem put_progress_waiting :
    let put := (PutCall.start 1 [⟨[1]⟩, ⟨[2]⟩]).run 2 [.caller, .caller, .caller]
    (yielded 1 [⟨[1]⟩, ⟨[2]⟩]).length ≤ 2 ∧ (∀ result, put.caller ≠ .returned result) ∧
      ∃ action, put.step 2 action ≠ put :=
  have waiting : ((PutCall.start 1 [⟨[1]⟩, ⟨[2]⟩]).run 2 [.caller, .caller, .caller]).caller =
      .waiting := by decide
  have unfinished : ∀ result, ((PutCall.start 1 [⟨[1]⟩, ⟨[2]⟩]).run 2
      [.caller, .caller, .caller]).caller ≠ .returned result :=
    fun _ returned => CallerPc.noConfusion (waiting.symm.trans returned)
  ⟨by decide, unfinished, put_progress 2 1 _ (by decide) _ unfinished⟩

end Run

end BeeTron.Replicas
