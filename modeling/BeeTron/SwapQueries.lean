import BeeTron.SwapReceiveCheque

namespace BeeTron.Swap

/-!
# Reading back what `ReceiveCheque` recorded

`LastReceivedCheque` and `TotalReceived` answer from the two collaborators
`ReceiveCheque` writes: the address book's binding of the peer, then the
cheque store's last cheque from that chequebook. The sentinel errors
`chequebook.ErrNoCheque` and `settlement.ErrPeerNoSettlements` are declared in
packages that are not part of the sources, so they are parameters here.

A call that returned `nil` is read back at once: both queries report the
cheque it received (`receiveCheque_readBack`). A call that failed after the
cheque store accepted its cheque is read back too, though the accounting was
never notified of it (`receiveCheque_recordedNotCredited`).
-/

/-- The error each collaborator call of a query returns, `none` when it succeeds. -/
structure ReadFaults where
  chequebook : Option GoError
  lastCheque : Option GoError

section Queries

variable (errNoCheque errPeerNoSettlements : GoError)

/-- `chequeStore.LastCheque(chequebook)`: the last cheque received from it, or `ErrNoCheque`. -/
def ChequeStore.lastCheque (fault : Option GoError) (store : ChequeStore)
    (chequebook : CommonAddress) : Except GoError SignedCheque :=
  match fault with
  | some err => .error err
  | none =>
      match store.lastCheques.lookup chequebook with
      | some cheque => .ok cheque
      | none => .error errNoCheque

/-- `s.addressbook.Chequebook(peer)` as a query calls it. -/
def readChequebook (fault : Option GoError) (s : Service) (peer : SwarmAddress) :
    Except GoError (CommonAddress × Bool) :=
  match fault with
  | some err => .error err
  | none => .ok (s.addressbook.chequebook peer)

/-- `s.LastReceivedCheque(peer)`. -/
def lastReceivedCheque (faults : ReadFaults) (s : Service) (peer : SwarmAddress) :
    Except GoError SignedCheque := do
  let (common, known) ← readChequebook faults.chequebook s peer
  if !known then
    throw errNoCheque
  s.chequeStore.lastCheque errNoCheque faults.lastCheque common

/-- `s.TotalReceived(peer)`. -/
def totalReceived (faults : ReadFaults) (s : Service) (peer : SwarmAddress) :
    Except GoError Int := do
  let (chequebookAddress, known) ← readChequebook faults.chequebook s peer
  if !known then
    throw errPeerNoSettlements
  match s.chequeStore.lastCheque errNoCheque faults.lastCheque chequebookAddress with
  | .error err => if err.is errNoCheque then throw errPeerNoSettlements else throw err
  | .ok cheque => pure cheque.cheque.cumulativePayout

/-- A peer bound to a chequebook is answered from that chequebook's last cheque. -/
theorem queries_of_bound {s : Service} {peer : SwarmAddress} {chequebook : CommonAddress}
    {cheque : SignedCheque} (bound : s.addressbook.chequebooks.lookup peer = some chequebook)
    (last : s.chequeStore.lastCheques.lookup chequebook = some cheque) :
    lastReceivedCheque errNoCheque ⟨none, none⟩ s peer = .ok cheque ∧
      totalReceived errNoCheque errPeerNoSettlements ⟨none, none⟩ s peer =
        .ok cheque.cheque.cumulativePayout := by
  simp [lastReceivedCheque, totalReceived, readChequebook, ChequeStore.lastCheque, bind,
    Except.bind, pure, Except.pure, bound, last]

/--
Right after a `ReceiveCheque` that returned `nil`, with queries whose
collaborators do not fail, `LastReceivedCheque` returns the cheque and
`TotalReceived` its cumulative payout.
-/
theorem receiveCheque_readBack (faults : Faults) (peer : SwarmAddress) (cheque : SignedCheque)
    (exchangeRate deduction : Int) (s after : Service)
    (returnedNil : (receiveCheque faults peer cheque exchangeRate deduction).run s = .ok () after) :
    lastReceivedCheque errNoCheque ⟨none, none⟩ after peer = .ok cheque ∧
      totalReceived errNoCheque errPeerNoSettlements ⟨none, none⟩ after peer =
        .ok cheque.cheque.cumulativePayout := by
  obtain ⟨accepted, bound, -⟩ := receiveCheque_ok peer cheque exchangeRate deduction returnedNil
  exact queries_of_bound errNoCheque errPeerNoSettlements bound (by simp [accepted])

/-- Both queries read back a first cheque received with a deduction. -/
theorem receiveCheque_readBack_firstCheque :
    let s : Service := ⟨⟨∅, ∅⟩, ⟨∅⟩, ⟨[]⟩⟩
    let cheque : SignedCheque := ⟨⟨⟨0xffff#160⟩, 101, ⟨0xeeee#160⟩⟩, []⟩
    let after := (((s.receiveCheque cheque).2.addDeductionFor ⟨[1]⟩).putChequebook
      ⟨[1]⟩ ⟨0xeeee#160⟩).notifyPaymentReceived ⟨[1]⟩ 10
    (receiveCheque ⟨none, none, none, none, none⟩ ⟨[1]⟩ cheque 10 1).run s = .ok () after ∧
      lastReceivedCheque (.new "ErrNoCheque" "no cheque") ⟨none, none⟩ after ⟨[1]⟩ =
        .ok cheque ∧
      totalReceived (.new "ErrNoCheque" "no cheque")
          (.new "ErrPeerNoSettlements" "no settlements for peer") ⟨none, none⟩ after ⟨[1]⟩ =
        .ok 101 := by
  intro s cheque after
  have returnedNil :
      (receiveCheque ⟨none, none, none, none, none⟩ ⟨[1]⟩ cheque 10 1).run s = .ok () after := rfl
  exact ⟨returnedNil, receiveCheque_readBack (.new "ErrNoCheque" "no cheque")
    (.new "ErrPeerNoSettlements" "no settlements for peer") _ ⟨[1]⟩ cheque 10 1 s after returnedNil⟩

/--
A call for a peer already bound to the cheque's chequebook that returns an
error after changing the state has left the cheque in the cheque store:
`TotalReceived` reports its cumulative payout, though the accounting was never
notified of the payment.
-/
theorem receiveCheque_recordedNotCredited (faults : Faults) (peer : SwarmAddress)
    (cheque : SignedCheque) (exchangeRate deduction : Int) (s after : Service) (halt : Halt)
    (positiveRate : 0 < exchangeRate)
    (bound : s.addressbook.chequebooks.lookup peer = some cheque.cheque.chequebook)
    (halted : (receiveCheque faults peer cheque exchangeRate deduction).run s = .error halt after)
    (changed : after ≠ s) :
    totalReceived errNoCheque errPeerNoSettlements ⟨none, none⟩ after peer =
        .ok cheque.cheque.cumulativePayout ∧
      after.accounting = s.accounting := by
  obtain ⟨-, -, sameAccounting, ⟨unchanged, -⟩ | ⟨⟨accepted, bindings, -⟩, -⟩⟩ :=
    receiveCheque_error peer cheque exchangeRate deduction positiveRate halted
  · exact absurd unchanged changed
  have stillBound : after.addressbook.chequebooks.lookup peer = some cheque.cheque.chequebook := by
    rcases List.mem_pair.mp bindings with same | same <;> simp [same, bound]
  exact ⟨(queries_of_bound errNoCheque errPeerNoSettlements stillBound (by simp [accepted])).2,
    sameAccounting⟩

/-- A failed notification for a bound peer leaves its cheque counted by `TotalReceived`. -/
theorem receiveCheque_recordedNotCredited_notifyFails :
    let s : Service := ⟨⟨Finmap.singleton ⟨[1]⟩ ⟨0xeeee#160⟩, ∅⟩, ⟨∅⟩, ⟨[]⟩⟩
    let cheque : SignedCheque := ⟨⟨⟨0xffff#160⟩, 101, ⟨0xeeee#160⟩⟩, []⟩
    let failure : GoError := .new "errAccounting" "accounting failure"
    (0 : Int) < 10 ∧ s.addressbook.chequebooks.lookup ⟨[1]⟩ = some cheque.cheque.chequebook ∧
      (receiveCheque ⟨none, none, none, none, some failure⟩ ⟨[1]⟩ cheque 10 0).run s =
        .error (.error failure) (s.receiveCheque cheque).2 ∧
      (s.receiveCheque cheque).2 ≠ s ∧
      totalReceived (.new "ErrNoCheque" "no cheque")
          (.new "ErrPeerNoSettlements" "no settlements for peer") ⟨none, none⟩
          (s.receiveCheque cheque).2 ⟨[1]⟩ = .ok 101 ∧
        (s.receiveCheque cheque).2.accounting = s.accounting := by
  intro s cheque failure
  have changed : (s.receiveCheque cheque).2 ≠ s := fun same => by
    simpa [s, cheque] using
      congrArg (fun t : Service => t.chequeStore.lastCheques.lookup ⟨0xeeee#160⟩) same
  have halted : (receiveCheque ⟨none, none, none, none, some failure⟩ ⟨[1]⟩ cheque 10 0).run s =
      .error (.error failure) (s.receiveCheque cheque).2 := rfl
  exact ⟨by decide, by simp [s, cheque], halted, changed,
    receiveCheque_recordedNotCredited (.new "ErrNoCheque" "no cheque")
      (.new "ErrPeerNoSettlements" "no settlements for peer") _ ⟨[1]⟩ cheque 10 0 s _ _
      (by decide) (by simp [s, cheque]) halted changed⟩

end Queries

end BeeTron.Swap
