import BeeTron.SwapState

namespace BeeTron.Swap

/-!
# `Service.ReceiveCheque`

`ReceiveCheque` is written here as the Go function is, one segment per
collaborator call together with the local code that follows it up to the
next call: the chequebook check, the cheque store, the deduction and the
conversion into accounting units, the first-cheque binding, and the
notification. `receiveCheque` chains the five segments in the order of the
source. The interleaving model in `BeeTron.SwapInterleaving` runs the same
segments as atomic steps of concurrent calls.

Each segment has one evaluation lemma; every later result is proved from
those lemmas and `run_bind`, never by unfolding a segment again.
`receiveCheque_creditedOrRecorded` gives what a call leaves behind, naming for
an error the collaborator call that returned it.
-/

/-- The error each collaborator call of one `ReceiveCheque` returns, `none` when it succeeds. -/
structure Faults where
  chequebook : Option GoError
  receiveCheque : Option GoError
  addDeductionFor : Option GoError
  putChequebook : Option GoError
  notifyPaymentReceived : Option GoError

/-- `new(big.Int).Div(x, y)`: Euclidean division, which panics when `y` is zero. -/
def bigIntDiv {σ : Type} (x y : Int) : EStateM Halt σ Int :=
  if y = 0 then throw (.panic "division by zero") else pure (x / y)

/--
`expectedChequebook, known, err := s.addressbook.Chequebook(peer)` and the
check that a known peer keeps its chequebook.
-/
def checkChequebook (fault : Option GoError) (peer : SwarmAddress) (cheque : SignedCheque) :
    EStateM Halt Service (CommonAddress × Bool) := do
  let (expectedChequebook, known) ←
    orReturn (← call fault fun s => (s.addressbook.chequebook peer, s))
  if known && expectedChequebook != cheque.cheque.chequebook then
    throw (.error errWrongChequebook)
  return (expectedChequebook, known)

/-- `receivedAmount, err := s.chequeStore.ReceiveCheque(...)`, wrapping its refusal. -/
def acceptCheque (fault : Option GoError) (cheque : SignedCheque) :
    EStateM Halt Service Int := do
  match ← call fault (·.receiveCheque cheque) with
  | .error err => throw (.error (.wrapped "rejecting cheque" err))
  | .ok receivedAmount => return receivedAmount

/-- A positive deduction is recorded for the peer; then the amount is converted. -/
def deductAndConvert (fault : Option GoError) (peer : SwarmAddress)
    (exchangeRate deduction receivedAmount : Int) : EStateM Halt Service Int := do
  if deduction > 0 then
    orReturn (← call fault fun s => ((), s.addDeductionFor peer))
  let decreasedAmount := receivedAmount - deduction
  bigIntDiv decreasedAmount exchangeRate

/-- `if !known { err = s.addressbook.PutChequebook(peer, cheque.Chequebook) ... }`. -/
def bindChequebook (fault : Option GoError) (peer : SwarmAddress) (cheque : SignedCheque)
    (known : Bool) : EStateM Halt Service Unit := do
  if !known then
    orReturn (← call fault fun s => ((), s.putChequebook peer cheque.cheque.chequebook))

/-- `return s.accounting.NotifyPaymentReceived(peer, amount)`. -/
def notifyPayment (fault : Option GoError) (peer : SwarmAddress) (amount : Int) :
    EStateM Halt Service Unit := do
  orReturn (← call fault fun s => ((), s.notifyPaymentReceived peer amount))

/-- `s.ReceiveCheque(ctx, peer, cheque, exchangeRate, deduction)`. -/
def receiveCheque (faults : Faults) (peer : SwarmAddress) (cheque : SignedCheque)
    (exchangeRate deduction : Int) : EStateM Halt Service Unit := do
  let (_, known) ← checkChequebook faults.chequebook peer cheque
  let receivedAmount ← acceptCheque faults.receiveCheque cheque
  let amount ← deductAndConvert faults.addDeductionFor peer exchangeRate deduction receivedAmount
  bindChequebook faults.putChequebook peer cheque known
  notifyPayment faults.notifyPaymentReceived peer amount

/-- The check `known && expectedChequebook != cheque.Chequebook` refuses: the peer is bound elsewhere. -/
def BoundElsewhere (s : Service) (peer : SwarmAddress) (cheque : SignedCheque) : Prop :=
  ∃ bound, s.addressbook.chequebooks.lookup peer = some bound ∧ bound ≠ cheque.cheque.chequebook

section Segments

variable {fault : Option GoError} {peer : SwarmAddress} {cheque : SignedCheque} {s : Service}

/-- The chequebook check never writes; it passes exactly for an unknown peer or a matching chequebook. -/
theorem checkChequebook_run :
    (checkChequebook fault peer cheque).run s =
      match fault with
      | some err => .error (.error err) s
      | none =>
          if (s.addressbook.chequebook peer).2 &&
              (s.addressbook.chequebook peer).1 != cheque.cheque.chequebook then
            .error (.error errWrongChequebook) s
          else
            .ok (s.addressbook.chequebook peer) s := by
  cases fault <;> simp [checkChequebook, run_bind]

/-- The chequebook check's condition holds exactly when the peer is bound to another chequebook. -/
theorem refuses_iff_boundElsewhere :
    ((s.addressbook.chequebook peer).2 &&
        (s.addressbook.chequebook peer).1 != cheque.cheque.chequebook) = true ↔
      BoundElsewhere s peer cheque := by
  unfold Addressbook.chequebook BoundElsewhere
  cases s.addressbook.chequebooks.lookup peer <;> simp

/-- The cheque store either refuses the cheque, changing nothing, or keeps it. -/
theorem acceptCheque_run :
    (acceptCheque fault cheque).run s =
      match fault with
      | some err => .error (.error (.wrapped "rejecting cheque" err)) s
      | none => .ok (s.receiveCheque cheque).1 (s.receiveCheque cheque).2 := by
  cases fault <;> simp [acceptCheque, run_bind]

/-- `Div` panics on a zero divisor and otherwise divides, changing nothing. -/
theorem bigIntDiv_run {σ : Type} {x y : Int} {state : σ} :
    (bigIntDiv x y).run state =
      if y = 0 then .error (.panic "division by zero") state else .ok (x / y) state := by
  simp [bigIntDiv]

/-- A positive deduction is recorded before the amount is converted. -/
theorem deductAndConvert_run {exchangeRate deduction receivedAmount : Int} :
    (deductAndConvert fault peer exchangeRate deduction receivedAmount).run s =
      if deduction > 0 then
        match fault with
        | some err => .error (.error err) s
        | none => (bigIntDiv (receivedAmount - deduction) exchangeRate).run (s.addDeductionFor peer)
      else
        (bigIntDiv (receivedAmount - deduction) exchangeRate).run s := by
  by_cases positive : deduction > 0 <;> cases fault <;>
    simp [deductAndConvert, run_bind, positive]

/-- Only a peer not known before is bound, to the cheque's chequebook. -/
theorem bindChequebook_run {known : Bool} :
    (bindChequebook fault peer cheque known).run s =
      if known then
        .ok () s
      else
        match fault with
        | some err => .error (.error err) s
        | none => .ok () (s.putChequebook peer cheque.cheque.chequebook) := by
  cases known <;> cases fault <;> simp [bindChequebook, run_bind]

/-- The notification's error is the call's result. -/
theorem notifyPayment_run {amount : Int} :
    (notifyPayment fault peer amount).run s =
      match fault with
      | some err => .error (.error err) s
      | none => .ok () (s.notifyPaymentReceived peer amount) := by
  cases fault <;> simp [notifyPayment, run_bind]

/-- The chequebook check leaves every state as it was. -/
@[simp] theorem checkChequebook_finalState :
    finalState ((checkChequebook fault peer cheque).run s) = s := by
  rw [checkChequebook_run]
  cases fault <;> simp only [finalState_error]
  split <;> rfl

/-- The cheque store does not touch the address book. -/
@[simp] theorem acceptCheque_addressbook :
    (finalState ((acceptCheque fault cheque).run s)).addressbook = s.addressbook := by
  rw [acceptCheque_run]
  cases fault <;> rfl

/-- `Div` changes no state, whether it divides or panics. -/
@[simp] theorem bigIntDiv_finalState {σ : Type} {x y : Int} {state : σ} :
    finalState ((bigIntDiv x y).run state) = state := by
  rw [bigIntDiv_run]
  split <;> rfl

/-- Recording a deduction and converting the amount leave the bindings alone. -/
@[simp] theorem deductAndConvert_chequebooks {exchangeRate deduction receivedAmount : Int} :
    (finalState ((deductAndConvert fault peer exchangeRate deduction
      receivedAmount).run s)).addressbook.chequebooks = s.addressbook.chequebooks := by
  rw [deductAndConvert_run]
  split
  · cases fault <;> simp
  · simp

/-- The binding segment binds the peer exactly when it was unknown and `PutChequebook` succeeds. -/
theorem bindChequebook_chequebooks {known : Bool} :
    (finalState ((bindChequebook fault peer cheque known).run s)).addressbook.chequebooks =
      if known = false ∧ fault = none then
        s.addressbook.chequebooks.insert peer cheque.cheque.chequebook
      else
        s.addressbook.chequebooks := by
  rw [bindChequebook_run]
  cases known <;> cases fault <;> rfl

/-- The notification does not touch the address book. -/
@[simp] theorem notifyPayment_addressbook {amount : Int} :
    (finalState ((notifyPayment fault peer amount).run s)).addressbook = s.addressbook := by
  rw [notifyPayment_run]
  cases fault <;> rfl

/-- A check that passed met no fault, read the peer's binding, and a known binding matches the cheque. -/
theorem checkChequebook_ok {read : CommonAddress × Bool} {after : Service}
    (passed : (checkChequebook fault peer cheque).run s = .ok read after) :
    after = s ∧ read = s.addressbook.chequebook peer ∧
      (read.2 = true → read.1 = cheque.cheque.chequebook) ∧ fault = none ∧
      ¬ BoundElsewhere s peer cheque := by
  cases fault with
  | some err => simp [checkChequebook_run] at passed
  | none =>
      simp only [checkChequebook_run] at passed
      split at passed
      · cases passed
      · rename_i matching
        cases passed
        exact ⟨rfl, rfl, by simpa using matching, rfl,
          fun elsewhere => matching (refuses_iff_boundElsewhere.mpr elsewhere)⟩

/-- A cheque store that accepted the cheque returned its amount and kept the cheque. -/
theorem acceptCheque_ok {receivedAmount : Int} {after : Service}
    (accepted : (acceptCheque fault cheque).run s = .ok receivedAmount after) :
    receivedAmount = (s.receiveCheque cheque).1 ∧ after = (s.receiveCheque cheque).2 ∧
      fault = none := by
  rw [acceptCheque_run] at accepted
  cases fault <;> cases accepted
  exact ⟨rfl, rfl, rfl⟩

/-- A conversion that returned divided the decreased amount and touched neither bindings, cheques nor accounting. -/
theorem deductAndConvert_ok {exchangeRate deduction receivedAmount amount : Int} {after : Service}
    (converted : (deductAndConvert fault peer exchangeRate deduction receivedAmount).run s =
      .ok amount after) :
    amount = (receivedAmount - deduction) / exchangeRate ∧ after.chequeStore = s.chequeStore ∧
      after.addressbook.chequebooks = s.addressbook.chequebooks ∧
      after.accounting = s.accounting ∧
      after.addressbook.deductionFor ∈
        [s.addressbook.deductionFor, insert peer s.addressbook.deductionFor] ∧
      (0 < deduction → fault = none) := by
  by_cases rateZero : exchangeRate = 0
  · by_cases positive : deduction > 0 <;> cases fault <;>
      simp [deductAndConvert_run, bigIntDiv_run, rateZero, positive] at converted
  · by_cases positive : deduction > 0 <;> cases fault <;>
      simp [deductAndConvert_run, bigIntDiv_run, rateZero, positive] at converted <;>
      simp [← converted, positive]

/-- A binding segment that returned bound an unknown peer and left a known one. -/
theorem bindChequebook_ok {known : Bool} {after : Service}
    (bound : (bindChequebook fault peer cheque known).run s = .ok () after) :
    after = if known then s else s.putChequebook peer cheque.cheque.chequebook := by
  rw [bindChequebook_run] at bound
  cases known <;> cases fault <;> cases bound <;> rfl

/-- A binding segment that returned met no fault if it called `PutChequebook`. -/
theorem bindChequebook_ok_fault {known : Bool} {after : Service}
    (bound : (bindChequebook fault peer cheque known).run s = .ok () after) :
    known = false → fault = none := by
  rintro rfl
  rw [bindChequebook_run] at bound
  cases fault <;> cases bound; rfl

/-- A notification that returned recorded the payment. -/
theorem notifyPayment_ok {amount : Int} {after : Service}
    (notified : (notifyPayment fault peer amount).run s = .ok () after) :
    after = s.notifyPaymentReceived peer amount := by
  rw [notifyPayment_run] at notified
  cases fault <;> cases notified
  rfl

/--
A failing chequebook check changes nothing and returns the lookup's error, or
`ErrWrongChequebook` for a peer bound to another chequebook.
-/
theorem checkChequebook_error {halt : Halt} {after : Service}
    (failed : (checkChequebook fault peer cheque).run s = .error halt after) :
    after = s ∧ ∃ err, halt = .error err ∧
      (fault = some err ∨
        fault = none ∧ BoundElsewhere s peer cheque ∧ err = errWrongChequebook) := by
  cases fault with
  | some err =>
      simp only [checkChequebook_run] at failed
      cases failed
      exact ⟨rfl, _, rfl, .inl rfl⟩
  | none =>
      simp only [checkChequebook_run] at failed
      split at failed <;> cases failed
      rename_i refused
      exact ⟨rfl, _, rfl, .inr ⟨rfl, refuses_iff_boundElsewhere.mp refused, rfl⟩⟩

/-- A refused cheque changes nothing and returns the store's error, wrapped. -/
theorem acceptCheque_error {halt : Halt} {after : Service}
    (failed : (acceptCheque fault cheque).run s = .error halt after) :
    after = s ∧ ∃ err, fault = some err ∧ halt = .error (.wrapped "rejecting cheque" err) := by
  rw [acceptCheque_run] at failed
  cases fault <;> cases failed
  exact ⟨rfl, _, rfl, rfl⟩

/-- With a nonzero rate, a failing conversion is a failing `AddDeductionFor`, which changes nothing. -/
theorem deductAndConvert_error {exchangeRate deduction receivedAmount : Int} {halt : Halt}
    {after : Service} (rateNonzero : exchangeRate ≠ 0)
    (failed : (deductAndConvert fault peer exchangeRate deduction receivedAmount).run s =
      .error halt after) :
    after = s ∧ 0 < deduction ∧ ∃ err, fault = some err ∧ halt = .error err := by
  by_cases positive : deduction > 0 <;> cases fault <;>
    simp [deductAndConvert_run, bigIntDiv_run, rateNonzero, positive] at failed
  exact ⟨failed.2.symm, positive, _, rfl, failed.1.symm⟩

/-- A failing `PutChequebook`, called for an unknown peer, returns its error and changes nothing. -/
theorem bindChequebook_error {known : Bool} {halt : Halt} {after : Service}
    (failed : (bindChequebook fault peer cheque known).run s = .error halt after) :
    after = s ∧ known = false ∧ ∃ err, fault = some err ∧ halt = .error err := by
  rw [bindChequebook_run] at failed
  cases known <;> cases fault <;> cases failed
  exact ⟨rfl, rfl, _, rfl, rfl⟩

/-- A failing notification returns its error and changes nothing. -/
theorem notifyPayment_error {amount : Int} {halt : Halt} {after : Service}
    (failed : (notifyPayment fault peer amount).run s = .error halt after) :
    after = s ∧ ∃ err, fault = some err ∧ halt = .error err := by
  rw [notifyPayment_run] at failed
  cases fault <;> cases failed
  exact ⟨rfl, _, rfl, rfl⟩

end Segments

section Outcome

variable (peer : SwarmAddress) (cheque : SignedCheque) (exchangeRate deduction : Int)

/--
What a call that returned `nil` has done: the cheque store accepted the
cheque, the peer is bound to its chequebook, and the accounting was notified of
`(received - deduction) / exchangeRate` for the peer.
-/
def Credited (s after : Service) : Prop :=
  after.chequeStore = (s.receiveCheque cheque).2.chequeStore ∧
    after.addressbook.chequebooks.lookup peer = some cheque.cheque.chequebook ∧
    after.accounting.paymentsReceived =
      s.accounting.paymentsReceived ++
        [(peer, ((s.receiveCheque cheque).1 - deduction) / exchangeRate)]

/-- A call that returned `nil` has credited the cheque, whatever the faults and the rate. -/
theorem receiveCheque_ok {faults : Faults} {s after : Service}
    (returnedNil : (receiveCheque faults peer cheque exchangeRate deduction).run s = .ok () after) :
    Credited peer cheque exchangeRate deduction s after := by
  obtain ⟨⟨expected, known⟩, checkedState, checked, afterCheck⟩ := run_bind_eq_ok returnedNil
  obtain ⟨received, acceptedState, accepted, afterAccept⟩ := run_bind_eq_ok afterCheck
  obtain ⟨amount, convertedState, converted, afterConvert⟩ := run_bind_eq_ok afterAccept
  obtain ⟨_, boundState, bound, notified⟩ := run_bind_eq_ok afterConvert
  obtain ⟨rfl, read, matching, -⟩ := checkChequebook_ok checked
  obtain ⟨rfl, rfl, -⟩ := acceptCheque_ok accepted
  obtain ⟨rfl, sameCheques, sameBindings, sameAccounting, -⟩ := deductAndConvert_ok converted
  rw [bindChequebook_ok bound] at notified
  rw [notifyPayment_ok notified]
  cases known with
  | true =>
      have binding : checkedState.addressbook.chequebooks.lookup peer = some expected := by
        unfold Addressbook.chequebook at read
        split at read <;> simp_all
      have sameChequebook : expected = cheque.cheque.chequebook := matching rfl
      exact ⟨sameCheques, by simp [sameBindings, binding, sameChequebook],
        by simp [sameAccounting]⟩
  | false =>
      exact ⟨sameCheques, by simp, by simp [sameAccounting]⟩

/--
The all-or-nothing reading of one call: on `nil` it credited the cheque; on an
error the cheque store's last cheque for the chequebook, the peer's chequebook
binding and deduction flag, and the accounting are as before.
-/
def AllOrNothing (faults : Faults) (s : Service) : Prop :=
  match (receiveCheque faults peer cheque exchangeRate deduction).run s with
  | .ok _ after => Credited peer cheque exchangeRate deduction s after
  | .error _ after =>
      after.chequeStore.lastCheques.lookup cheque.cheque.chequebook =
          s.chequeStore.lastCheques.lookup cheque.cheque.chequebook ∧
        after.addressbook.chequebooks.lookup peer = s.addressbook.chequebooks.lookup peer ∧
        (peer ∈ after.addressbook.deductionFor ↔ peer ∈ s.addressbook.deductionFor) ∧
        after.accounting = s.accounting

/--
What a call that stopped after the cheque store accepted the cheque has left:
the cheque accepted, and at most the peer's deduction flag and its binding to
the cheque's chequebook added to the address book.
-/
def Recorded (s after : Service) : Prop :=
  after.chequeStore = (s.receiveCheque cheque).2.chequeStore ∧
    after.addressbook.chequebooks ∈
      [s.addressbook.chequebooks, s.addressbook.chequebooks.insert peer cheque.cheque.chequebook] ∧
    after.addressbook.deductionFor ∈
      [s.addressbook.deductionFor, insert peer s.addressbook.deductionFor]

/--
A call stopped with `err` before the cheque store accepted the cheque: the
chequebook lookup failed with it, the peer is bound to another chequebook, or
the cheque store refused the cheque with the error `err` wraps.
-/
def RefusedWith (faults : Faults) (s : Service) (err : GoError) : Prop :=
  faults.chequebook = some err ∨
    faults.chequebook = none ∧ BoundElsewhere s peer cheque ∧ err = errWrongChequebook ∨
    faults.chequebook = none ∧ ¬ BoundElsewhere s peer cheque ∧
      ∃ refusal, faults.receiveCheque = some refusal ∧ err = .wrapped "rejecting cheque" refusal

/--
A call stopped with `err` after the cheque store accepted the cheque: the
first of `AddDeductionFor` (for a positive deduction), `PutChequebook` (for a
peer not bound before) and `NotifyPaymentReceived` to fail returned it.
-/
def FailedAfterAcceptance (faults : Faults) (s : Service) (err : GoError) : Prop :=
  faults.chequebook = none ∧ ¬ BoundElsewhere s peer cheque ∧ faults.receiveCheque = none ∧
    (0 < deduction ∧ faults.addDeductionFor = some err ∨
      (0 < deduction → faults.addDeductionFor = none) ∧
        (s.addressbook.chequebooks.lookup peer = none ∧ faults.putChequebook = some err ∨
          (s.addressbook.chequebooks.lookup peer = none → faults.putChequebook = none) ∧
            faults.notifyPaymentReceived = some err))

/--
What a call can leave behind: on `nil` it credited the cheque. On an error the
accounting is as before, and either nothing changed and the call was refused
before the cheque store accepted the cheque, or the cheque was recorded and a
later address-book or accounting call returned the error.
-/
def CreditedOrRecorded (faults : Faults) (s : Service) : Prop :=
  match (receiveCheque faults peer cheque exchangeRate deduction).run s with
  | .ok _ after => Credited peer cheque exchangeRate deduction s after
  | .error halt after =>
      ∃ err, halt = .error err ∧ after.accounting = s.accounting ∧
        (after = s ∧ RefusedWith peer cheque faults s err ∨
          Recorded peer cheque s after ∧ FailedAfterAcceptance peer cheque deduction faults s err)

/-- An unknown peer is one the address book does not bind. -/
theorem lookup_eq_none_iff_unknown {book : Addressbook} {read : CommonAddress × Bool}
    (isRead : read = book.chequebook peer) :
    book.chequebooks.lookup peer = none ↔ read.2 = false := by
  subst isRead
  unfold Addressbook.chequebook
  cases book.chequebooks.lookup peer <;> simp

/--
With a positive rate, a call that returned an error returned no panic, left the
accounting alone, and either changed nothing, refused before the cheque store
accepted the cheque, or recorded the cheque and returned the error of the
address-book or accounting call that failed after it.
-/
theorem receiveCheque_error {faults : Faults} {s after : Service} {halt : Halt}
    (positiveRate : 0 < exchangeRate)
    (halted : (receiveCheque faults peer cheque exchangeRate deduction).run s = .error halt after) :
    ∃ err, halt = .error err ∧ after.accounting = s.accounting ∧
      (after = s ∧ RefusedWith peer cheque faults s err ∨
        Recorded peer cheque s after ∧
          FailedAfterAcceptance peer cheque deduction faults s err) := by
  rcases run_bind_eq_error halted with
    checkFailed | ⟨⟨_, known⟩, checkedState, checked, afterCheck⟩
  · obtain ⟨rfl, err, rfl, cause⟩ := checkChequebook_error checkFailed
    exact ⟨err, rfl, rfl, .inl ⟨rfl, cause.imp_right .inl⟩⟩
  obtain ⟨rfl, read, -, checkPassed, notElsewhere⟩ := checkChequebook_ok checked
  rcases run_bind_eq_error afterCheck with acceptFailed | ⟨_, _, accepted, afterAccept⟩
  · obtain ⟨rfl, refusal, refused, rfl⟩ := acceptCheque_error acceptFailed
    exact ⟨_, rfl, rfl,
      .inl ⟨rfl, .inr (.inr ⟨checkPassed, notElsewhere, refusal, refused, rfl⟩)⟩⟩
  obtain ⟨rfl, rfl, storeAccepted⟩ := acceptCheque_ok accepted
  rcases run_bind_eq_error afterAccept with
    convertFailed | ⟨_, convertedState, converted, afterConvert⟩
  · obtain ⟨rfl, positive, err, failing, rfl⟩ :=
      deductAndConvert_error positiveRate.ne' convertFailed
    exact ⟨err, rfl, rfl, .inr ⟨⟨rfl, by simp, by simp⟩,
      checkPassed, notElsewhere, storeAccepted, .inl ⟨positive, failing⟩⟩⟩
  obtain ⟨-, sameCheques, sameBindings, sameAccounting, deductions, deducted⟩ :=
    deductAndConvert_ok converted
  have recorded : ∀ after : Service, after.chequeStore = convertedState.chequeStore →
      after.addressbook.chequebooks ∈ [convertedState.addressbook.chequebooks,
        convertedState.addressbook.chequebooks.insert peer cheque.cheque.chequebook] →
      after.addressbook.deductionFor = convertedState.addressbook.deductionFor →
      Recorded peer cheque checkedState after := by
    intro after store bindings sameDeductions
    refine ⟨store.trans sameCheques, ?_, by simpa [sameDeductions] using deductions⟩
    simpa [sameBindings] using bindings
  have unknownIff := lookup_eq_none_iff_unknown peer read
  rcases run_bind_eq_error afterConvert with bindFailed | ⟨_, _, bound, notifyFailed⟩
  · obtain ⟨rfl, unknown, err, failing, rfl⟩ := bindChequebook_error bindFailed
    exact ⟨err, rfl, sameAccounting, .inr ⟨recorded _ rfl (by simp) rfl, checkPassed,
      notElsewhere, storeAccepted, .inr ⟨deducted, .inl ⟨unknownIff.mpr unknown, failing⟩⟩⟩⟩
  obtain ⟨rfl, err, failing, rfl⟩ := notifyPayment_error notifyFailed
  have bindPassed := bindChequebook_ok_fault bound
  rw [bindChequebook_ok bound]
  refine ⟨err, rfl, ?_, .inr ⟨?_, checkPassed, notElsewhere, storeAccepted,
    .inr ⟨deducted, .inr ⟨fun unbound => bindPassed (unknownIff.mp unbound), failing⟩⟩⟩⟩
  · cases known <;> simpa using sameAccounting
  · cases known <;> exact recorded _ rfl (by simp) rfl

/--
A failure of the address book after the cheque store has accepted a cheque
makes the call return an error with the cheque recorded: the all-or-nothing
reading fails for a first cheque whose deduction cannot be recorded.
-/
theorem receiveCheque_not_allOrNothing :
    ¬ ∀ (faults : Faults) (peer : SwarmAddress) (cheque : SignedCheque)
        (exchangeRate deduction : Int) (s : Service),
      0 < exchangeRate → AllOrNothing peer cheque exchangeRate deduction faults s := by
  intro allOrNothing
  have failedDeduction := allOrNothing
    ⟨none, none, some (.new "errStore" "store failure"), none, none⟩ ⟨[1]⟩
    ⟨⟨⟨0xffff#160⟩, 101, ⟨0xeeee#160⟩⟩, []⟩ 10 1 ⟨⟨∅, ∅⟩, ⟨∅⟩, ⟨[]⟩⟩ (by decide)
  simp [AllOrNothing, receiveCheque, run_bind, checkChequebook_run, acceptCheque_run,
    deductAndConvert_run] at failedDeduction

/--
For a positive exchange rate, a call that returns `nil` has credited the
cheque. A call that returns an error has not notified the accounting; either
the chequebook lookup, the binding check or the cheque store refused and
nothing changed, or the cheque is recorded and the error is that of the first
failing `AddDeductionFor`, `PutChequebook` or `NotifyPaymentReceived`.
-/
theorem receiveCheque_creditedOrRecorded (faults : Faults) (s : Service)
    (positiveRate : 0 < exchangeRate) :
    CreditedOrRecorded peer cheque exchangeRate deduction faults s := by
  unfold CreditedOrRecorded
  split
  · rename_i returnedNil
    exact receiveCheque_ok peer cheque exchangeRate deduction returnedNil
  · rename_i halted
    exact receiveCheque_error peer cheque exchangeRate deduction positiveRate halted

/-- The outcome characterisation applies to a first cheque with a deduction. -/
theorem receiveCheque_creditedOrRecorded_firstCheque :
    (0 : Int) < 10 ∧
      CreditedOrRecorded ⟨[1]⟩ ⟨⟨⟨0xffff#160⟩, 101, ⟨0xeeee#160⟩⟩, []⟩ 10 1
        ⟨none, none, none, none, none⟩ ⟨⟨∅, ∅⟩, ⟨∅⟩, ⟨[]⟩⟩ :=
  ⟨by decide, receiveCheque_creditedOrRecorded _ _ _ _ _ _ (by decide)⟩

end Outcome

end BeeTron.Swap
