import BeeTron.Values
import Mathlib.Data.Finset.Basic

namespace BeeTron.Swap

/-!
# Swap settlement: the state `ReceiveCheque` changes

`Service.ReceiveCheque` talks to three collaborators: the swap address book,
which binds each peer to the chequebook it pays from and records deductions;
the cheque store, which keeps the last cheque received from every chequebook;
and the accounting, which is notified of every payment received from a peer.

None of the three implementations is part of the sources. Each is modelled by
the state its interface reads and writes, and every call to it either fails
with an error the environment chooses, leaving its state alone, or takes its
effect. The cheque store's effect on acceptance follows its tests: the amount
received is the increase of the cumulative payout over the last cheque from
the same chequebook, and the new cheque replaces that last cheque.
-/

/-- A `common.Address`: a 20-byte chain address. -/
structure CommonAddress where
  bytes : BitVec 160
  deriving DecidableEq, Repr

/-- `chequebook.Cheque`. -/
structure Cheque where
  beneficiary : CommonAddress
  cumulativePayout : Int
  chequebook : CommonAddress
  deriving DecidableEq, Repr

/-- `chequebook.SignedCheque`: a cheque with its issuer's signature. -/
structure SignedCheque where
  cheque : Cheque
  signature : List UInt8
  deriving DecidableEq, Repr

/-- `ErrWrongChequebook`. -/
def errWrongChequebook : GoError :=
  .new "ErrWrongChequebook" "wrong chequebook"

/-- The swap address book: each peer's chequebook, and the peers owing a deduction. -/
structure Addressbook where
  chequebooks : GoMap SwarmAddress CommonAddress
  deductionFor : Finset SwarmAddress

/-- The cheque store: the last cheque received from each chequebook. -/
structure ChequeStore where
  lastCheques : GoMap CommonAddress SignedCheque

/-- The accounting's record of the payments it was notified of, in order. -/
structure Accounting where
  paymentsReceived : List (SwarmAddress × Int)

/-- The collaborators' state a swap `Service` reaches. -/
structure Service where
  addressbook : Addressbook
  chequeStore : ChequeStore
  accounting : Accounting

/-- `Chequebook(peer)`: the bound chequebook and `true`, or the zero address and `false`. -/
def Addressbook.chequebook (book : Addressbook) (peer : SwarmAddress) : CommonAddress × Bool :=
  match book.chequebooks.lookup peer with
  | some chequebook => (chequebook, true)
  | none => (⟨0⟩, false)

@[simp] theorem Addressbook.chequebook_of_lookup_none {book : Addressbook} {peer : SwarmAddress}
    (unbound : book.chequebooks.lookup peer = none) :
    book.chequebook peer = (⟨0⟩, false) := by
  simp [Addressbook.chequebook, unbound]

@[simp] theorem Addressbook.chequebook_of_lookup_some {book : Addressbook} {peer : SwarmAddress}
    {chequebook : CommonAddress} (bound : book.chequebooks.lookup peer = some chequebook) :
    book.chequebook peer = (chequebook, true) := by
  simp [Addressbook.chequebook, bound]

/-- The cumulative payout of the last cheque from a chequebook, zero before the first. -/
def ChequeStore.lastPayout (store : ChequeStore) (chequebook : CommonAddress) : Int :=
  ((store.lastCheques.lookup chequebook).map fun last => last.cheque.cumulativePayout).getD 0

namespace Service

/-- `chequeStore.ReceiveCheque` accepting a cheque: the amount received, and the store keeping it. -/
@[simps]
def receiveCheque (s : Service) (cheque : SignedCheque) : Int × Service :=
  (cheque.cheque.cumulativePayout - s.chequeStore.lastPayout cheque.cheque.chequebook,
    { s with chequeStore :=
        ⟨s.chequeStore.lastCheques.insert cheque.cheque.chequebook cheque⟩ })

/-- `addressbook.AddDeductionFor(peer)`. -/
@[simps]
def addDeductionFor (s : Service) (peer : SwarmAddress) : Service :=
  { s with addressbook :=
      { s.addressbook with deductionFor := insert peer s.addressbook.deductionFor } }

/-- `addressbook.PutChequebook(peer, chequebook)`. -/
@[simps]
def putChequebook (s : Service) (peer : SwarmAddress) (chequebook : CommonAddress) : Service :=
  { s with addressbook :=
      { s.addressbook with chequebooks := s.addressbook.chequebooks.insert peer chequebook } }

/-- `accounting.NotifyPaymentReceived(peer, amount)`. -/
@[simps]
def notifyPaymentReceived (s : Service) (peer : SwarmAddress) (amount : Int) : Service :=
  { s with accounting := ⟨s.accounting.paymentsReceived ++ [(peer, amount)]⟩ }

end Service

/--
One call to a collaborator: it fails with the environment's error `fault`,
leaving the state alone, or it takes its effect and returns its value.
-/
def call {α : Type} (fault : Option GoError) (effect : Service → α × Service) :
    EStateM Halt Service (Except GoError α) :=
  fun s =>
    match fault with
    | some err => .ok (.error err) s
    | none => .ok (.ok (effect s).1) (effect s).2

@[simp] theorem call_some_run {α : Type} (err : GoError) (effect : Service → α × Service)
    (s : Service) :
    (call (some err) effect).run s = .ok (.error err) s :=
  rfl

@[simp] theorem call_none_run {α : Type} (effect : Service → α × Service) (s : Service) :
    (call none effect).run s = .ok (.ok (effect s).1) (effect s).2 :=
  rfl

end BeeTron.Swap
