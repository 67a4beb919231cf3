import BeeTron.SwapReceiveCheque

namespace BeeTron.Swap

/-!
# Concurrent `ReceiveCheque` calls

The swap protocol calls `ReceiveCheque` once per cheque a peer sends, and
nothing in `Service` orders two calls for the same peer. This module runs any
number of calls side by side. Every call is a control-flow machine over the
segments of `BeeTron.SwapReceiveCheque`: one step of a call is one segment, so
one collaborator call together with the local code after it, with the
environment choosing that collaborator's outcome. A scheduler action either
starts a new call or advances one in-flight call by a step.

The world also keeps a history of the calls inside which the cheque store
accepted a cheque. Running one call alone, step after step, is `receiveCheque`
itself (`runAlone_eq_receiveCheque`); every binding change in any interleaving
is made by a call that read its peer as unbound (`step_rebinding`); and two
racing calls for one peer can both have their cheques accepted and rebind the
peer (`racingCalls_rebind`).
-/

/-- Where one call stands: before one of its segments, or returned. -/
inductive Pc where
  | checkChequebook
  | acceptCheque
  | deductAndConvert
  | bindChequebook
  | notifyPayment
  | returned (halt : Option Halt)
  deriving DecidableEq, Repr

/-- One `ReceiveCheque` call: its arguments, its locals, and where it stands. -/
structure Call where
  peer : SwarmAddress
  cheque : SignedCheque
  exchangeRate : Int
  deduction : Int
  expectedChequebook : CommonAddress
  known : Bool
  receivedAmount : Int
  amount : Int
  pc : Pc
  deriving DecidableEq, Repr

namespace Call

/-- A call about to start, its locals at their zero values. -/
def start (peer : SwarmAddress) (cheque : SignedCheque) (exchangeRate deduction : Int) : Call :=
  ⟨peer, cheque, exchangeRate, deduction, ⟨0⟩, false, 0, 0, .checkChequebook⟩

/-- Continue after a segment: on success with `next`, on a halt by returning. -/
def resume {α : Type} (call : Call) (next : α → Call) :
    EStateM.Result Halt Service α → Call × Service
  | .ok value s => (next value, s)
  | .error halt s => ({ call with pc := .returned (some halt) }, s)

/-- One atomic step: the segment at the call's `pc`, its collaborator failing with `fault`. -/
def step (call : Call) (fault : Option GoError) (s : Service) : Call × Service :=
  match call.pc with
  | .checkChequebook =>
      call.resume (fun read => { call with
          expectedChequebook := read.1, known := read.2, pc := .acceptCheque })
        ((checkChequebook fault call.peer call.cheque).run s)
  | .acceptCheque =>
      call.resume (fun receivedAmount => { call with receivedAmount, pc := .deductAndConvert })
        ((acceptCheque fault call.cheque).run s)
  | .deductAndConvert =>
      call.resume (fun amount => { call with amount, pc := .bindChequebook })
        ((deductAndConvert fault call.peer call.exchangeRate call.deduction
          call.receivedAmount).run s)
  | .bindChequebook =>
      call.resume (fun _ => { call with pc := .notifyPayment })
        ((bindChequebook fault call.peer call.cheque call.known).run s)
  | .notifyPayment =>
      call.resume (fun _ => { call with pc := .returned none })
        ((notifyPayment fault call.peer call.amount).run s)
  | .returned _ => (call, s)

end Call

/-- Every in-flight call, the collaborators, and the calls whose cheques were accepted. -/
structure World where
  service : Service
  calls : List Call
  accepted : List Call

/-- One scheduler action. -/
inductive Action where
  /-- A new `ReceiveCheque` call begins. -/
  | spawn (peer : SwarmAddress) (cheque : SignedCheque) (exchangeRate deduction : Int)
  /-- The call at `index` takes one step, its collaborator failing with `fault`. -/
  | advance (index : Nat) (fault : Option GoError)

/-- The fault a call meets at each segment, taken from one `Faults` record. -/
def Faults.at (faults : Faults) : Pc → Option GoError
  | .checkChequebook => faults.chequebook
  | .acceptCheque => faults.receiveCheque
  | .deductAndConvert => faults.addDeductionFor
  | .bindChequebook => faults.putChequebook
  | .notifyPayment => faults.notifyPaymentReceived
  | .returned _ => none

/-- How many segments a call still has to run. -/
def Pc.remaining : Pc → Nat
  | .checkChequebook => 5
  | .acceptCheque => 4
  | .deductAndConvert => 3
  | .bindChequebook => 2
  | .notifyPayment => 1
  | .returned _ => 0

/-- Whether a call stands between its chequebook check and its binding segment. -/
def Pc.beforeBinding : Pc → Bool
  | .acceptCheque | .deductAndConvert | .bindChequebook => true
  | _ => false

/-- A call between its check and its binding is past its check. -/
theorem Pc.ne_checkChequebook_of_beforeBinding {pc : Pc} (window : pc.beforeBinding) :
    pc ≠ .checkChequebook := by
  cases pc <;> simp_all [Pc.beforeBinding]

namespace Call

/-- What is left of a call: the segments from its `pc` on, with its locals. -/
def rest (faults : Faults) (call : Call) : EStateM Halt Service Unit :=
  match call.pc with
  | .checkChequebook =>
      receiveCheque faults call.peer call.cheque call.exchangeRate call.deduction
  | .acceptCheque => do
      let receivedAmount ← acceptCheque faults.receiveCheque call.cheque
      let amount ← deductAndConvert faults.addDeductionFor call.peer call.exchangeRate
        call.deduction receivedAmount
      bindChequebook faults.putChequebook call.peer call.cheque call.known
      notifyPayment faults.notifyPaymentReceived call.peer amount
  | .deductAndConvert => do
      let amount ← deductAndConvert faults.addDeductionFor call.peer call.exchangeRate
        call.deduction call.receivedAmount
      bindChequebook faults.putChequebook call.peer call.cheque call.known
      notifyPayment faults.notifyPaymentReceived call.peer amount
  | .bindChequebook => do
      bindChequebook faults.putChequebook call.peer call.cheque call.known
      notifyPayment faults.notifyPaymentReceived call.peer call.amount
  | .notifyPayment => notifyPayment faults.notifyPaymentReceived call.peer call.amount
  | .returned none => pure ()
  | .returned (some halt) => throw halt

/-- Where a finished run leaves a call, and the state it leaves. -/
def returnedWith : EStateM.Result Halt Service Unit → Pc × Service
  | .ok _ after => (.returned none, after)
  | .error halt after => (.returned (some halt), after)

/-- One step of a call does not change how its remaining run ends. -/
theorem rest_step (faults : Faults) (call : Call) (s : Service) :
    returnedWith (((call.step (faults.at call.pc) s).1.rest faults).run
        (call.step (faults.at call.pc) s).2) =
      returnedWith ((call.rest faults).run s) := by
  rcases call with ⟨peer, cheque, exchangeRate, deduction, expected, known, receivedAmount, amount, pc⟩
  cases pc with
  | checkChequebook =>
      rcases checked : (checkChequebook faults.chequebook peer cheque).run s with
        ⟨⟨expectedChequebook, known⟩, after⟩ | ⟨halt, after⟩ <;>
      simp only [rest, step, resume, Faults.at, checked, throw_run, receiveCheque, run_bind]
  | acceptCheque =>
      rcases accepted : (acceptCheque faults.receiveCheque cheque).run s with
        ⟨receivedAmount, after⟩ | ⟨halt, after⟩ <;>
      simp only [rest, step, resume, Faults.at, accepted, throw_run, run_bind]
  | deductAndConvert =>
      rcases converted : (deductAndConvert faults.addDeductionFor peer exchangeRate deduction
          receivedAmount).run s with ⟨amount, after⟩ | ⟨halt, after⟩ <;>
      simp only [rest, step, resume, Faults.at, converted, throw_run, run_bind]
  | bindChequebook =>
      rcases bound : (bindChequebook faults.putChequebook peer cheque known).run s with
        ⟨_, after⟩ | ⟨halt, after⟩ <;>
      simp only [rest, step, resume, Faults.at, bound, throw_run, run_bind]
  | notifyPayment =>
      rcases notified : (notifyPayment faults.notifyPaymentReceived peer amount).run s with
        ⟨_, after⟩ | ⟨halt, after⟩ <;>
      simp only [returnedWith, rest, step, resume, Faults.at, notified, pure_run, throw_run]
  | returned halt =>
      rfl

/-- A resumed call has no more segments left than its continuation. -/
theorem resume_remaining {α : Type} {call : Call} {next : α → Call} {bound : Nat}
    (result : EStateM.Result Halt Service α) (nextBound : ∀ value, (next value).pc.remaining ≤ bound) :
    (call.resume next result).1.pc.remaining ≤ bound := by
  cases result with
  | ok value _ => exact nextBound value
  | error => exact Nat.zero_le bound

/-- Every step of a running call finishes at least one of its segments. -/
theorem step_remaining (fault : Option GoError) (call : Call) (s : Service)
    (running : 0 < call.pc.remaining) :
    (call.step fault s).1.pc.remaining < call.pc.remaining := by
  rcases call with ⟨peer, cheque, exchangeRate, deduction, expected, known, receivedAmount, amount, pc⟩
  cases pc with
  | returned halt => exact absurd running (Nat.lt_irrefl 0)
  | _ => exact Nat.lt_of_le_of_lt (resume_remaining _ fun _ => le_rfl) (by simp [Pc.remaining])

/-- Run one call alone for `fuel` steps, meeting `faults`. -/
def runAlone (faults : Faults) : Nat → Call → Service → Call × Service
  | 0, call, s => (call, s)
  | fuel + 1, call, s => runAlone faults fuel (call.step (faults.at call.pc) s).1 (call.step (faults.at call.pc) s).2

/-- Running a call alone does not change how its remaining run ends. -/
theorem runAlone_rest (faults : Faults) (fuel : Nat) (call : Call) (s : Service) :
    returnedWith (((call.runAlone faults fuel s).1.rest faults).run (call.runAlone faults fuel s).2) =
      returnedWith ((call.rest faults).run s) := by
  induction fuel generalizing call s with
  | zero => rfl
  | succ fuel inductionHypothesis =>
      rw [runAlone, inductionHypothesis, rest_step]

/-- A call run alone for as many steps as it has segments has returned. -/
theorem runAlone_returns (faults : Faults) (fuel : Nat) (call : Call) (s : Service)
    (enough : call.pc.remaining ≤ fuel) :
    (call.runAlone faults fuel s).1.pc.remaining = 0 := by
  induction fuel generalizing call s with
  | zero => simpa [runAlone] using enough
  | succ fuel inductionHypothesis =>
      by_cases running : 0 < call.pc.remaining
      · exact inductionHypothesis _ _ (by have := step_remaining (faults.at call.pc) call s running; omega)
      · have finished : call.pc.remaining = 0 := by omega
        obtain ⟨halt, returned⟩ : ∃ halt, call.pc = .returned halt := by
          cases pc : call.pc with
          | returned halt => exact ⟨halt, rfl⟩
          | _ => simp [pc, Pc.remaining] at finished
        have stays : ∀ fault, call.step fault s = (call, s) := fun _ => by simp [step, returned]
        rw [runAlone, stays]
        exact inductionHypothesis call s (by omega)

/-- A returned call stays where it is. -/
theorem returnedWith_rest (faults : Faults) (call : Call) (s : Service)
    (finished : call.pc.remaining = 0) :
    returnedWith ((call.rest faults).run s) = (call.pc, s) := by
  rcases call with ⟨_, _, _, _, _, _, _, _, _ | _ | _ | _ | _ | _ | _⟩ <;>
    simp_all [Pc.remaining, rest, returnedWith]

/--
A call run alone, segment after segment, ends where `receiveCheque` ends: the
machine refines the sequential function.
-/
theorem runAlone_eq_receiveCheque (faults : Faults) (peer : SwarmAddress) (cheque : SignedCheque)
    (exchangeRate deduction : Int) (s : Service) :
    ((Call.start peer cheque exchangeRate deduction).runAlone faults 5 s).1.pc =
        (returnedWith ((receiveCheque faults peer cheque exchangeRate deduction).run s)).1 ∧
      ((Call.start peer cheque exchangeRate deduction).runAlone faults 5 s).2 =
        (returnedWith ((receiveCheque faults peer cheque exchangeRate deduction).run s)).2 := by
  have sameEnd := (returnedWith_rest faults _ _
    (runAlone_returns faults 5 (Call.start peer cheque exchangeRate deduction) s le_rfl)).symm.trans
    (runAlone_rest faults 5 _ s)
  exact Prod.ext_iff.mp sameEnd

/-- What a step leaves of the service is what its segment leaves. -/
@[simp] theorem resume_snd {α : Type} (call : Call) (next : α → Call)
    (result : EStateM.Result Halt Service α) :
    (call.resume next result).2 = finalState result := by
  cases result <;> rfl

/-- A step keeps the call's peer. -/
@[simp] theorem step_peer (fault : Option GoError) (call : Call) (s : Service) :
    (call.step fault s).1.peer = call.peer := by
  unfold step resume
  split <;> (try split) <;> rfl

/-- A step keeps the call's cheque. -/
@[simp] theorem step_cheque (fault : Option GoError) (call : Call) (s : Service) :
    (call.step fault s).1.cheque = call.cheque := by
  unfold step resume
  split <;> (try split) <;> rfl

/-- Only the chequebook check writes what the call read of its peer. -/
theorem step_known (fault : Option GoError) (call : Call) (s : Service)
    (checked : call.pc ≠ .checkChequebook) :
    (call.step fault s).1.known = call.known := by
  unfold step resume
  split
  · contradiction
  all_goals (try split) <;> rfl

/-- A call that stands before its binding after a step stood there or at its check before it. -/
theorem step_beforeBinding (fault : Option GoError) (call : Call) (s : Service)
    (window : (call.step fault s).1.pc.beforeBinding) :
    call.pc.beforeBinding ∨ call.pc = .checkChequebook := by
  revert window
  unfold step resume
  split <;> (try split) <;> simp_all [Pc.beforeBinding]

/--
A step binds a peer only as the binding segment of a call that read the peer
as unknown, and only when `PutChequebook` succeeds.
-/
theorem step_chequebooks (fault : Option GoError) (call : Call) (s : Service) :
    (call.step fault s).2.addressbook.chequebooks =
      if call.pc = .bindChequebook ∧ call.known = false ∧ fault = none then
        s.addressbook.chequebooks.insert call.peer call.cheque.cheque.chequebook
      else
        s.addressbook.chequebooks := by
  rcases call with ⟨peer, cheque, exchangeRate, deduction, expected, known, receivedAmount, amount, pc⟩
  cases pc with
  | bindChequebook => simp [step, bindChequebook_chequebooks]
  | _ => simp [step]

/--
A call for `peer` that can neither bind `peer` nor have the cheque store accept
a cheque of a chequebook other than `chequebook`: while it stands between its
check and its binding, it read the peer as bound and its cheque is from
`chequebook`.
-/
def Settled (peer : SwarmAddress) (chequebook : CommonAddress) (call : Call) : Prop :=
  call.peer = peer → call.pc.beforeBinding →
    call.known = true ∧ call.cheque.cheque.chequebook = chequebook

/-- While `peer` is bound to `chequebook`, a step keeps a settled call settled. -/
theorem Settled.step {peer : SwarmAddress} {chequebook : CommonAddress} {call : Call}
    (fault : Option GoError) {s : Service}
    (bound : s.addressbook.chequebooks.lookup peer = some chequebook)
    (settled : call.Settled peer chequebook) :
    (call.step fault s).1.Settled peer chequebook := by
  intro samePeer window
  rw [step_peer] at samePeer
  rcases step_beforeBinding fault call s window with stillBefore | checking
  · rw [step_known fault call s (Pc.ne_checkChequebook_of_beforeBinding stillBefore), step_cheque]
    exact settled samePeer stillBefore
  · rcases call with ⟨callPeer, cheque, exchangeRate, deduction, expected, known,
      receivedAmount, amount, pc⟩
    subst samePeer checking
    by_cases same : chequebook = cheque.cheque.chequebook <;> cases fault <;>
      simp_all [Call.step, resume, checkChequebook_run, Pc.beforeBinding]

end Call

namespace World

/-- Apply one scheduler action. -/
def step (world : World) : Action → World
  | .spawn peer cheque exchangeRate deduction =>
      { world with calls := world.calls ++ [Call.start peer cheque exchangeRate deduction] }
  | .advance index fault =>
      match world.calls[index]? with
      | none => world
      | some call =>
          let (next, service) := call.step fault world.service
          { service
            calls := world.calls.set index next
            accepted :=
              if call.pc = .acceptCheque ∧ next.pc = .deductAndConvert then
                world.accepted ++ [call]
              else
                world.accepted }

/-- Advancing a call in flight runs its step on the shared service. -/
theorem advance_eq {world : World} {index : Nat} {call : Call} (fault : Option GoError)
    (found : world.calls[index]? = some call) :
    world.step (.advance index fault) =
      { service := (call.step fault world.service).2
        calls := world.calls.set index (call.step fault world.service).1
        accepted :=
          if call.pc = .acceptCheque ∧ (call.step fault world.service).1.pc = .deductAndConvert then
            world.accepted ++ [call]
          else
            world.accepted } := by
  simp [step, found]

/--
Every change of a peer's binding, in any interleaving, is the binding segment
of a call for that peer that read the peer as unknown, binding it to that
call's chequebook.
-/
theorem step_rebinding (world : World) (action : Action) (peer : SwarmAddress)
    (rebound : (world.step action).service.addressbook.chequebooks.lookup peer ≠
      world.service.addressbook.chequebooks.lookup peer) :
    ∃ index call, action = .advance index none ∧ world.calls[index]? = some call ∧
      call.peer = peer ∧ call.pc = .bindChequebook ∧ call.known = false ∧
      (world.step action).service.addressbook.chequebooks.lookup peer =
        some call.cheque.cheque.chequebook := by
  cases action with
  | spawn => exact absurd rfl rebound
  | advance index fault =>
      cases found : world.calls[index]? with
      | none => simp [step, found] at rebound
      | some call =>
          rw [advance_eq fault found] at rebound ⊢
          rw [Call.step_chequebooks] at rebound ⊢
          split at rebound
          · rename_i binding
            obtain ⟨binds, unknown, rfl⟩ := binding
            by_cases samePeer : call.peer = peer
            · subst samePeer
              exact ⟨index, call, rfl, found, rfl, binds, unknown, by simp [binds, unknown]⟩
            · simp [Finmap.lookup_insert_of_ne _ (Ne.symm samePeer)] at rebound
          · exact absurd rfl rebound

/-- The rebinding lemma applies to a call binding an unknown peer. -/
theorem step_rebinding_firstBinding :
    let binding : World := ⟨⟨⟨∅, ∅⟩, ⟨∅⟩, ⟨[]⟩⟩,
      [⟨⟨[1]⟩, ⟨⟨⟨0⟩, 10, ⟨0xaaaa#160⟩⟩, []⟩, 1, 0, ⟨0⟩, false, 10, 10, .bindChequebook⟩], []⟩
    (binding.step (.advance 0 none)).service.addressbook.chequebooks.lookup ⟨[1]⟩ ≠
        binding.service.addressbook.chequebooks.lookup ⟨[1]⟩ ∧
      ∃ index call, Action.advance 0 none = .advance index none ∧ binding.calls[index]? = some call ∧
        call.peer = ⟨[1]⟩ ∧ call.pc = .bindChequebook ∧ call.known = false ∧
        (binding.step (.advance 0 none)).service.addressbook.chequebooks.lookup ⟨[1]⟩ =
          some call.cheque.cheque.chequebook :=
  ⟨by decide, step_rebinding _ (.advance 0 none) ⟨[1]⟩ (by decide)⟩

/-- Apply a schedule of actions in order. -/
def run (world : World) (actions : List Action) : World :=
  actions.foldl step world

/-- Running a schedule runs its first action, then the rest. -/
@[simp] theorem run_cons (world : World) (action : Action) (actions : List Action) :
    world.run (action :: actions) = (world.step action).run actions :=
  rfl

/-- The one-chequebook-per-peer rule on the history: every call for `peer` whose cheque was accepted carried one and the same chequebook. -/
def OneChequebookPerPeer (peer : SwarmAddress) (world : World) : Prop :=
  ∀ first ∈ world.accepted, ∀ second ∈ world.accepted, first.peer = peer → second.peer = peer →
    first.cheque.cheque.chequebook = second.cheque.cheque.chequebook

/-- The rule is decided on the finite history. -/
instance (peer : SwarmAddress) (world : World) : Decidable (OneChequebookPerPeer peer world) :=
  inferInstanceAs (Decidable (∀ first ∈ world.accepted, ∀ second ∈ world.accepted,
    first.peer = peer → second.peer = peer →
      first.cheque.cheque.chequebook = second.cheque.cheque.chequebook))

/--
`peer` is bound to `chequebook`, and every call in flight is settled: none of
them can bind `peer` again or have a cheque of another chequebook accepted.
-/
structure Settled (peer : SwarmAddress) (chequebook : CommonAddress) (world : World) : Prop where
  bound : world.service.addressbook.chequebooks.lookup peer = some chequebook
  calls : ∀ call ∈ world.calls, call.Settled peer chequebook

/-- From `world` to `after` the history only grew, by calls for `peer` that all carried `chequebook`. -/
def AcceptedFrom (peer : SwarmAddress) (chequebook : CommonAddress) (world after : World) : Prop :=
  ∃ later, after.accepted = world.accepted ++ later ∧
    ∀ call ∈ later, call.peer = peer → call.cheque.cheque.chequebook = chequebook

/-- Growing the history by such calls twice grows it by such calls. -/
theorem AcceptedFrom.trans {peer : SwarmAddress} {chequebook : CommonAddress}
    {world middle after : World} (first : AcceptedFrom peer chequebook world middle)
    (second : AcceptedFrom peer chequebook middle after) :
    AcceptedFrom peer chequebook world after := by
  obtain ⟨early, middleAccepted, earlyCarry⟩ := first
  obtain ⟨late, afterAccepted, lateCarry⟩ := second
  refine ⟨early ++ late, by rw [afterAccepted, middleAccepted, List.append_assoc], ?_⟩
  intro call member
  rcases List.mem_append.mp member with inEarly | inLate
  exacts [earlyCarry call inEarly, lateCarry call inLate]

/-- A scheduler action keeps a settled world settled, and accepts only cheques of the bound chequebook for the peer. -/
theorem Settled.step {peer : SwarmAddress} {chequebook : CommonAddress} {world : World}
    (settled : world.Settled peer chequebook) (action : Action) :
    (world.step action).Settled peer chequebook ∧
      AcceptedFrom peer chequebook world (world.step action) := by
  cases action with
  | spawn callPeer cheque exchangeRate deduction =>
      refine ⟨⟨settled.bound, ?_⟩, [], by simp [World.step], by simp⟩
      intro call member
      rcases List.mem_append.mp member with inFlight | started
      · exact settled.calls call inFlight
      · intro _ window
        simp [List.mem_singleton.mp started, Call.start, Pc.beforeBinding] at window
  | advance index fault =>
      cases found : world.calls[index]? with
      | none =>
          simp only [World.step, found]
          exact ⟨settled, [], by simp, by simp⟩
      | some call =>
          have callSettled := settled.calls call (List.getElem?_mem found)
          rw [advance_eq fault found]
          refine ⟨⟨?_, ?_⟩, ?_⟩
          · rw [Call.step_chequebooks]
            split
            · rename_i binding
              have otherPeer : call.peer ≠ peer := fun samePeer =>
                absurd (callSettled samePeer (by simp [binding.1, Pc.beforeBinding])).1
                  (by simp [binding.2.1])
              simpa [Finmap.lookup_insert_of_ne _ (Ne.symm otherPeer)] using settled.bound
            · exact settled.bound
          · intro other member
            rcases List.mem_or_eq_of_mem_set member with inFlight | stepped
            · exact settled.calls other inFlight
            · exact stepped ▸ Call.Settled.step fault settled.bound callSettled
          · split
            · rename_i accepting
              refine ⟨[call], rfl, ?_⟩
              intro accepted member samePeer
              rw [List.mem_singleton.mp member] at samePeer ⊢
              exact (callSettled samePeer (by simp [accepting.1, Pc.beforeBinding])).2
            · exact ⟨[], by simp, by simp⟩

/--
Once a peer is bound and every call in flight is settled, no interleaving of
any number of calls, with any collaborator failures, rebinds the peer, and
every cheque accepted for the peer from then on is from its chequebook.
-/
theorem Settled.bindingStable {peer : SwarmAddress} {chequebook : CommonAddress}
    {world : World} (settled : world.Settled peer chequebook) (actions : List Action) :
    (world.run actions).Settled peer chequebook ∧
      AcceptedFrom peer chequebook world (world.run actions) := by
  induction actions generalizing world with
  | nil => exact ⟨settled, [], by simp [World.run], by simp⟩
  | cons action rest inductionHypothesis =>
      obtain ⟨stepSettled, stepAccepted⟩ := settled.step action
      obtain ⟨restSettled, restAccepted⟩ := inductionHypothesis stepSettled
      exact ⟨restSettled, stepAccepted.trans restAccepted⟩

/-- The stability law applies to a bound peer sent a cheque of another chequebook. -/
theorem bindingStable_otherChequebook :
    let bound : World :=
      ⟨⟨⟨(∅ : GoMap SwarmAddress CommonAddress).insert ⟨[1]⟩ ⟨0xaaaa#160⟩, ∅⟩, ⟨∅⟩, ⟨[]⟩⟩, [], []⟩
    let actions : List Action := [.spawn ⟨[1]⟩ ⟨⟨⟨0⟩, 10, ⟨0xbbbb#160⟩⟩, []⟩ 1 0, .advance 0 none]
    bound.Settled ⟨[1]⟩ ⟨0xaaaa#160⟩ ∧
      (bound.run actions).Settled ⟨[1]⟩ ⟨0xaaaa#160⟩ ∧
      AcceptedFrom ⟨[1]⟩ ⟨0xaaaa#160⟩ bound (bound.run actions) :=
  have settled : World.Settled ⟨[1]⟩ ⟨0xaaaa#160⟩
      ⟨⟨⟨(∅ : GoMap SwarmAddress CommonAddress).insert ⟨[1]⟩ ⟨0xaaaa#160⟩, ∅⟩, ⟨∅⟩, ⟨[]⟩⟩, [], []⟩ :=
    ⟨by decide, fun _ inFlight => absurd inFlight (List.not_mem_nil _)⟩
  ⟨settled, Settled.bindingStable settled _⟩

/--
Two calls for a peer no chequebook is bound to, with cheques from two
chequebooks, run through their segments in lockstep: both read the peer as
unknown, both cheques are accepted, the first binding binds the peer to the
first chequebook and the second rebinds it to the other. Without any overlap,
a call whose `PutChequebook` fails after its cheque was accepted lets the next
call have a cheque of another chequebook accepted.
-/
theorem racingCalls_rebind :
    (let racing := World.run ⟨⟨⟨∅, ∅⟩, ⟨∅⟩, ⟨[]⟩⟩, [], []⟩
      [.spawn ⟨[1]⟩ ⟨⟨⟨0⟩, 10, ⟨0xaaaa#160⟩⟩, []⟩ 1 0, .spawn ⟨[1]⟩ ⟨⟨⟨0⟩, 10, ⟨0xbbbb#160⟩⟩, []⟩ 1 0,
        .advance 0 none, .advance 1 none, .advance 0 none, .advance 1 none,
        .advance 0 none, .advance 1 none, .advance 0 none]
    let sequential := World.run ⟨⟨⟨∅, ∅⟩, ⟨∅⟩, ⟨[]⟩⟩, [], []⟩
      [.spawn ⟨[1]⟩ ⟨⟨⟨0⟩, 10, ⟨0xaaaa#160⟩⟩, []⟩ 1 0,
        .advance 0 none, .advance 0 none, .advance 0 none,
        .advance 0 (some (.new "errStore" "store failure")),
        .spawn ⟨[1]⟩ ⟨⟨⟨0⟩, 10, ⟨0xbbbb#160⟩⟩, []⟩ 1 0,
        .advance 1 none, .advance 1 none, .advance 1 none, .advance 1 none, .advance 1 none]
    racing.service.addressbook.chequebooks.lookup ⟨[1]⟩ = some ⟨0xaaaa#160⟩ ∧
      (racing.step (.advance 1 none)).service.addressbook.chequebooks.lookup ⟨[1]⟩ =
        some ⟨0xbbbb#160⟩ ∧
      ¬ OneChequebookPerPeer ⟨[1]⟩ (racing.step (.advance 1 none)) ∧
      ¬ OneChequebookPerPeer ⟨[1]⟩ sequential) := by
  decide

end World

end BeeTron.Swap
