import BeeTron.SwapInterleaving

namespace BeeTron.Swap

/-!
# No payment lost or duplicated across racing `ReceiveCheque` calls

The accounting learns of a received payment only from the last segment of a
`ReceiveCheque` call, and a call that reaches it returns that segment's error.
Over any interleaving of any number of calls, with any collaborator failing
at any segment, the payments the accounting was notified of are therefore, up
to order, those it held at the start and one per call that returned `nil`,
each with that call's peer and amount (`World.run_paymentsReceived`). A call
that failed, at whatever segment, notified nothing, even when the cheque store
accepted its cheque.

The cheque store, in turn, is the history of accepted cheques: along every
schedule it holds the cheques of the calls accepted during the run written
over its start in acceptance order (`World.run_chequeStore`).
-/

namespace Call

/-- The payment a call has notified the accounting of: its peer and amount, once it returned `nil`. -/
def notified (call : Call) : Option (SwarmAddress × Int) :=
  match call.pc with
  | .returned none => some (call.peer, call.amount)
  | _ => none

/--
A segment before the notification, which neither writes the accounting nor
lets the call return `nil`, leaves the payments notified as they were.
-/
theorem resume_payments {α : Type} (call : Call) (next : α → Call)
    (result : EStateM.Result Halt Service α) {s : Service}
    (unchanged : (finalState result).accounting = s.accounting)
    (continues : ∀ value, (next value).notified = none) (notYet : call.notified = none) :
    (call.resume next result).2.accounting.paymentsReceived ++ call.notified.toList =
      s.accounting.paymentsReceived ++ (call.resume next result).1.notified.toList := by
  cases result <;> simp_all [resume, notified]

/--
A step writes to the accounting only as a successful notification, appending
the call's payment, and the call then counts that payment as notified; every
other step changes neither.
-/
theorem step_payments (fault : Option GoError) (call : Call) (s : Service) :
    (call.step fault s).2.accounting.paymentsReceived ++ call.notified.toList =
      s.accounting.paymentsReceived ++ (call.step fault s).1.notified.toList := by
  rcases call with ⟨peer, cheque, exchangeRate, deduction, expected, known, receivedAmount, amount, pc⟩
  cases pc with
  | checkChequebook =>
      simp only [step]
      exact resume_payments _ _ _ (by rw [checkChequebook_finalState]) (by intro; rfl) (by rfl)
  | acceptCheque =>
      simp only [step]
      exact resume_payments _ _ _ (by cases fault <;> simp [acceptCheque_run]) (by intro; rfl)
        (by rfl)
  | deductAndConvert =>
      simp only [step]
      refine resume_payments _ _ _ ?_ (by intro; rfl) (by rfl)
      by_cases positive : deduction > 0 <;> cases fault <;>
        simp [deductAndConvert_run, bigIntDiv_run, positive, apply_ite finalState]
  | bindChequebook =>
      simp only [step]
      exact resume_payments _ _ _ (by cases known <;> cases fault <;> simp [bindChequebook_run])
        (by intro; rfl) (by rfl)
  | notifyPayment =>
      cases fault <;> simp [step, resume, notifyPayment_run, notified]
  | returned halt =>
      rfl

/-- The cheque-store entry a call's accepted cheque writes: its chequebook and the cheque. -/
def storedCheque (call : Call) : CommonAddress × SignedCheque :=
  (call.cheque.cheque.chequebook, call.cheque)

/-- A step writes the cheque store only as an accepted cheque, which replaces its chequebook's last one. -/
theorem step_chequeStore (fault : Option GoError) (call : Call) (s : Service) :
    (call.step fault s).2.chequeStore =
      if call.pc = .acceptCheque ∧ fault = none then
        ⟨s.chequeStore.lastCheques.insert call.storedCheque.1 call.storedCheque.2⟩
      else
        s.chequeStore := by
  rcases call with ⟨peer, cheque, exchangeRate, deduction, expected, known, receivedAmount, amount, pc⟩
  cases pc with
  | checkChequebook => simp [step]
  | acceptCheque => cases fault <;> simp [step, acceptCheque_run, storedCheque, Service.receiveCheque]
  | deductAndConvert =>
      by_cases positive : deduction > 0 <;> cases fault <;>
        simp [step, deductAndConvert_run, bigIntDiv_run, positive, apply_ite finalState]
  | bindChequebook => cases known <;> cases fault <;> simp [step, bindChequebook_run]
  | notifyPayment => cases fault <;> simp [step, notifyPayment_run]
  | returned halt => rfl

/-- The cheque store accepts a call's cheque exactly when the call moves on from its acceptance. -/
theorem step_accepts {fault : Option GoError} {call : Call} {s : Service}
    (accepting : call.pc = .acceptCheque) :
    (call.step fault s).1.pc = .deductAndConvert ↔ fault = none := by
  rcases call with ⟨peer, cheque, exchangeRate, deduction, expected, known, receivedAmount, amount, pc⟩
  subst accepting
  cases fault <;> simp [step, resume, acceptCheque_run]

end Call

namespace World

/-- The payments the in-flight and returned calls have notified, as a multiset. -/
def notified (world : World) : Multiset (SwarmAddress × Int) :=
  world.calls.filterMap Call.notified

/-- The payments the accounting holds, as a multiset. -/
def paymentsReceived (world : World) : Multiset (SwarmAddress × Int) :=
  world.service.accounting.paymentsReceived

/-- A scheduler step adds to the accounting exactly the payments its calls newly notified. -/
theorem step_paymentsReceived (world : World) (action : Action) :
    (world.step action).paymentsReceived + world.notified =
      world.paymentsReceived + (world.step action).notified := by
  cases action with
  | spawn => simp [step, notified, paymentsReceived, List.filterMap_append, Call.notified, Call.start]
  | advance index fault =>
      cases found : world.calls[index]? with
      | none => simp [step, found]
      | some call =>
          rw [advance_eq fault found]
          obtain ⟨before, after⟩ :=
            filterMap_set_perm (call.step fault world.service).1 Call.notified found rfl rfl
          have payments := congrArg (fun payments : List (SwarmAddress × Int) =>
            (payments : Multiset (SwarmAddress × Int))) (Call.step_payments fault call world.service)
          simp only [← Multiset.coe_add] at payments
          simp only [notified, paymentsReceived, Multiset.coe_eq_coe.mpr before,
            Multiset.coe_eq_coe.mpr after, ← Multiset.coe_add]
          rw [← add_assoc, payments, add_assoc]

/-- A schedule adds to the accounting exactly the payments its calls newly notified. -/
theorem run_paymentsReceived_add (world : World) (actions : List Action) :
    (world.run actions).paymentsReceived + world.notified =
      world.paymentsReceived + (world.run actions).notified := by
  induction actions generalizing world with
  | nil => rfl
  | cons action rest inductionHypothesis =>
      rw [run_cons]
      apply add_right_cancel (b := (world.step action).notified)
      calc ((world.step action).run rest).paymentsReceived + world.notified +
              (world.step action).notified
          = ((world.step action).run rest).paymentsReceived + (world.step action).notified +
              world.notified := add_right_comm _ _ _
        _ = (world.step action).paymentsReceived + ((world.step action).run rest).notified +
              world.notified := by rw [inductionHypothesis]
        _ = world.paymentsReceived + (world.step action).notified +
              ((world.step action).run rest).notified := by
            rw [add_right_comm, step_paymentsReceived]
        _ = world.paymentsReceived + ((world.step action).run rest).notified +
              (world.step action).notified := add_right_comm _ _ _

/--
From any service, along every schedule of any number of `ReceiveCheque`
calls and with any collaborator failing at any segment, the accounting holds,
up to order, the payments it held at the start and exactly one payment per
call that returned `nil`, with that call's peer and amount: no payment is
lost, none is notified twice, and no call that failed notified one.
-/
theorem run_paymentsReceived (s : Service) (actions : List Action) :
    ((⟨s, [], []⟩ : World).run actions).service.accounting.paymentsReceived.Perm
      (s.accounting.paymentsReceived ++ ((⟨s, [], []⟩ : World).run actions).calls.filterMap
        Call.notified) := by
  have conserved := run_paymentsReceived_add ⟨s, [], []⟩ actions
  simp only [paymentsReceived, notified, List.filterMap_nil, Multiset.coe_nil, add_zero,
    Multiset.coe_add] at conserved
  exact Multiset.coe_eq_coe.mp conserved

/-- A scheduler step writes into the cheque store exactly the cheques of the calls it newly accepted. -/
theorem step_chequeStore (world : World) (action : Action) :
    ∃ newlyAccepted, (world.step action).accepted = world.accepted ++ newlyAccepted ∧
      (world.step action).service.chequeStore.lastCheques =
        GoMap.assignAll world.service.chequeStore.lastCheques
          (newlyAccepted.map Call.storedCheque) := by
  cases action with
  | spawn => exact ⟨[], by simp [step], rfl⟩
  | advance index fault =>
      cases found : world.calls[index]? with
      | none => exact ⟨[], by simp [step, found], by simp [step, found]⟩
      | some call =>
          rw [advance_eq fault found]
          by_cases accepting : call.pc = .acceptCheque ∧ fault = none
          · have moved := (Call.step_accepts (s := world.service) accepting.1).mpr accepting.2
            refine ⟨[call], by simp [accepting.1, moved], ?_⟩
            simp [Call.step_chequeStore, accepting]
          · have stayed : ¬ (call.pc = .acceptCheque ∧
                (call.step fault world.service).1.pc = .deductAndConvert) :=
              fun ⟨atAccept, moved⟩ => accepting ⟨atAccept, (Call.step_accepts atAccept).mp moved⟩
            refine ⟨[], by simp [stayed], ?_⟩
            simp [Call.step_chequeStore, accepting]

/--
Along every schedule of any number of `ReceiveCheque` calls, with any
collaborator failing at any segment, the cheque store holds what it held at the
start with the cheques of the calls accepted during the run written over it in
the order they were accepted: each chequebook's last cheque is the cheque of
the last call accepted from it, and no other cheque is ever stored.
-/
theorem run_chequeStore (world : World) (actions : List Action) :
    ∃ newlyAccepted, (world.run actions).accepted = world.accepted ++ newlyAccepted ∧
      (world.run actions).service.chequeStore.lastCheques =
        GoMap.assignAll world.service.chequeStore.lastCheques
          (newlyAccepted.map Call.storedCheque) := by
  induction actions generalizing world with
  | nil => exact ⟨[], by simp [run], rfl⟩
  | cons action rest inductionHypothesis =>
      obtain ⟨first, firstAccepted, firstStore⟩ := step_chequeStore world action
      obtain ⟨later, laterAccepted, laterStore⟩ := inductionHypothesis (world.step action)
      refine ⟨first ++ later, by rw [run_cons, laterAccepted, firstAccepted, List.append_assoc], ?_⟩
      rw [run_cons, laterStore, firstStore, List.map_append, GoMap.assignAll, GoMap.assignAll,
        GoMap.assignAll, List.foldl_append]

end World

end BeeTron.Swap
