import BeeTron.SwapQueries

namespace BeeTron.Swap

/-!
# Settlements per peer, and paying a peer

`SettlementsSent`, `SettlementsReceived`, `LastSentCheques` and
`LastReceivedCheques` range over the last cheques of one side, find each
cheque's peer through the address book's reverse lookup, and list a value
under the peer's `String()`: the settlements stop at the first failed lookup,
the cheque listings skip it. The chequebook service, the lookups, the address
formatting and the range orders are the environment's; `Pay`, with its
deferred notification of the accounting, closes the module.

`listByPeer_outcome` and `listByPeer_rangeOrder_independent` give what the
shared listing loop returns in every range order, and the per-peer totals
agree with the listings (`totalReceived_agrees_settlementsReceived`,
`totalSent_agrees_settlementsSent`).
-/

/-- `ErrNoChequebook`. -/
def errNoChequebook : GoError :=
  .new "ErrNoChequebook" "no chequebook"

/-- `ErrUnknownBeneficary`. -/
def errUnknownBeneficary : GoError :=
  .new "ErrUnknownBeneficary" "unknown beneficiary for peer"

/-- `cheque.CumulativePayout`, the value the settlements list. -/
def cumulativePayout (cheque : SignedCheque) : Int :=
  cheque.cheque.cumulativePayout

section Listing

variable {V : Type} (addressString : SwarmAddress → String)
  (peerOf : CommonAddress → Except GoError (SwarmAddress × Bool)) (value : SignedCheque → V)

/--
The range loop the four listings share: each cheque, in the order visited, is
stored under its peer's `String()` when the lookup `peerOf` of its address
knows the peer. A failed lookup ends the loop with its error when
`abortOnError`, as in `SettlementsSent` and `SettlementsReceived`, and skips
the cheque otherwise, as in `LastSentCheques` and `LastReceivedCheques`.
-/
def listByPeer (abortOnError : Bool) :
    List (CommonAddress × SignedCheque) → GoMap String V → Except GoError (GoMap String V)
  | [], result => .ok result
  | (address, cheque) :: rest, result =>
      match peerOf address with
      | .error err => if abortOnError then .error err else listByPeer abortOnError rest result
      | .ok (_, false) => listByPeer abortOnError rest result
      | .ok (peer, true) =>
          listByPeer abortOnError rest (result.insert (addressString peer) (value cheque))

/-- The entry a visited cheque adds to a listing, when its peer is known. -/
def listedEntry (entry : CommonAddress × SignedCheque) : Option (String × V) :=
  match peerOf entry.1 with
  | .ok (peer, true) => some (addressString peer, value entry.2)
  | _ => none

/-- The error the lookup of a visited cheque's address fails with. -/
def lookupFailure (entry : CommonAddress × SignedCheque) : Option GoError :=
  match peerOf entry.1 with
  | .error err => some err
  | .ok _ => none

/-- A visited cheque fails its lookup exactly when the lookup of its address fails. -/
@[simp] theorem lookupFailure_eq_some {entry : CommonAddress × SignedCheque} {err : GoError} :
    lookupFailure peerOf entry = some err ↔ peerOf entry.1 = .error err := by
  unfold lookupFailure
  split <;> simp_all

/--
The loop is the assignment of the listed entries in the order visited, unless
it aborts: then it returns the first failed lookup's error.
-/
theorem listByPeer_eq (abortOnError : Bool) (entries : List (CommonAddress × SignedCheque))
    (result : GoMap String V) :
    listByPeer addressString peerOf value abortOnError entries result =
      (if abortOnError then entries.findSome? (lookupFailure peerOf) else none).elim
        (.ok (GoMap.assignAll result (entries.filterMap (listedEntry addressString peerOf value))))
        .error := by
  induction entries generalizing result with
  | nil => cases abortOnError <;> rfl
  | cons entry rest inductionHypothesis =>
      obtain ⟨address, cheque⟩ := entry
      simp only [listByPeer, List.findSome?_cons, List.filterMap_cons, lookupFailure, listedEntry]
      rcases peerOf address with err | ⟨peer, _ | _⟩ <;> cases abortOnError <;>
        simp [inductionHypothesis]

/-- A loop that returned assigned the listed entries in the order visited. -/
theorem eq_assignAll_of_listByPeer {abortOnError : Bool}
    {entries : List (CommonAddress × SignedCheque)} {result : GoMap String V}
    (listed : listByPeer addressString peerOf value abortOnError entries ∅ = .ok result) :
    result = GoMap.assignAll ∅ (entries.filterMap (listedEntry addressString peerOf value)) := by
  rw [listByPeer_eq] at listed
  revert listed
  cases (if abortOnError then entries.findSome? (lookupFailure peerOf) else none) with
  | none => exact fun listed => (Except.ok.inj listed).symm
  | some err => exact fun listed => nomatch listed

/-- A loop that failed aborted at the first visited cheque whose lookup failed. -/
theorem listByPeer_eq_error {abortOnError : Bool} {entries : List (CommonAddress × SignedCheque)}
    {result : GoMap String V} {err : GoError}
    (failed : listByPeer addressString peerOf value abortOnError entries result = .error err) :
    abortOnError = true ∧ entries.findSome? (lookupFailure peerOf) = some err := by
  rw [listByPeer_eq] at failed
  revert failed
  cases abortOnError with
  | false => exact fun failed => nomatch failed
  | true =>
      cases entries.findSome? (lookupFailure peerOf) with
      | none => exact fun failed => nomatch failed
      | some first => exact fun failed => ⟨rfl, congrArg some (Except.error.inj failed)⟩

/-- The cheque a map holds at `address` is listed under `key` with the value `v`. -/
def ListedAs (cheques : GoMap CommonAddress SignedCheque) (key : String) (v : V)
    (address : CommonAddress) : Prop :=
  ∃ cheque peer, cheques.lookup address = some cheque ∧ peerOf address = .ok (peer, true) ∧
    addressString peer = key ∧ value cheque = v

/-- At most one address of the map is listed under `key`. -/
def ListedOnce (cheques : GoMap CommonAddress SignedCheque) (key : String) : Prop :=
  ∀ v w first second, ListedAs addressString peerOf value cheques key v first →
    ListedAs addressString peerOf value cheques key w second → first = second

variable {cheques : GoMap CommonAddress SignedCheque}

/-- One address is listed with one value, its cheque's. -/
theorem ListedAs.value_eq {key other : String} {v w : V} {address : CommonAddress}
    (listed : ListedAs addressString peerOf value cheques key v address)
    (again : ListedAs addressString peerOf value cheques other w address) : v = w := by
  obtain ⟨_, _, found, -, -, rfl⟩ := listed
  obtain ⟨_, _, foundAgain, -, -, rfl⟩ := again
  exact congrArg value (Option.some.inj (found.symm.trans foundAgain))

/-- Over the cheques of one address, every key lists at most that address. -/
theorem listedOnce_singleton (address : CommonAddress) (cheque : SignedCheque) (key : String) :
    ListedOnce addressString peerOf value (Finmap.singleton address cheque) key := by
  rintro v w first second ⟨_, _, found, -⟩ ⟨_, _, foundAgain, -⟩
  have present := Finmap.mem_of_lookup_eq_some found
  have presentAgain := Finmap.mem_of_lookup_eq_some foundAgain
  rw [Finmap.mem_singleton] at present presentAgain
  exact present.trans presentAgain.symm

/-- A visited cheque adds an entry exactly when it is listed under that entry. -/
theorem mem_filterMap_listedEntry (order : GoMap.RangeOrder cheques) {key : String} {v : V} :
    (key, v) ∈ order.entries.filterMap (listedEntry addressString peerOf value) ↔
      ∃ address, ListedAs addressString peerOf value cheques key v address := by
  simp only [List.mem_filterMap, Prod.exists, ListedAs, ← order.mem_entries, listedEntry]
  constructor
  · rintro ⟨address, cheque, visited, listed⟩
    split at listed
    · cases listed
      exact ⟨address, cheque, _, visited, ‹_›, rfl, rfl⟩
    · cases listed
  · rintro ⟨address, cheque, peer, visited, known, rfl, rfl⟩
    exact ⟨address, cheque, visited, by simp [known]⟩

/-- No visited cheque fails its lookup exactly when no lookup of the map's addresses fails. -/
theorem findSome?_lookupFailure_eq_none (order : GoMap.RangeOrder cheques) :
    order.entries.findSome? (lookupFailure peerOf) = none ↔
      ∀ address ∈ cheques, ∀ err, peerOf address ≠ .error err := by
  rw [List.findSome?_eq_none_iff]
  constructor
  · intro none address present err failed
    obtain ⟨cheque, found⟩ := Finmap.mem_iff.mp present
    simpa [lookupFailure, failed] using none _ (order.mem_entries.mpr found)
  · rintro allFine ⟨address, cheque⟩ visited
    have present := Finmap.mem_of_lookup_eq_some (order.mem_entries.mp visited)
    unfold lookupFailure
    split
    · exact absurd ‹_› (allFine address present _)
    · rfl

/-- A loop over a range order fails with the error of a lookup of the map's addresses. -/
theorem failing_of_listByPeer_eq_error (order : GoMap.RangeOrder cheques) {abortOnError : Bool}
    {err : GoError}
    (failed : listByPeer addressString peerOf value abortOnError order.entries ∅ = .error err) :
    abortOnError = true ∧ ∃ address ∈ cheques, peerOf address = .error err := by
  obtain ⟨aborted, first⟩ := listByPeer_eq_error addressString peerOf value failed
  obtain ⟨⟨address, cheque⟩, visited, failing⟩ := List.exists_of_findSome?_eq_some first
  exact ⟨aborted, address, Finmap.mem_of_lookup_eq_some (order.mem_entries.mp visited),
    (lookupFailure_eq_some peerOf).mp failing⟩

/-- A loop over a range order fails exactly when it aborts and a lookup of the map fails. -/
theorem listByPeer_fails_iff (order : GoMap.RangeOrder cheques) (abortOnError : Bool) :
    (∃ err, listByPeer addressString peerOf value abortOnError order.entries ∅ = .error err) ↔
      abortOnError = true ∧ ∃ address ∈ cheques, ∃ err, peerOf address = .error err := by
  constructor
  · rintro ⟨err, failed⟩
    obtain ⟨aborted, address, present, failing⟩ :=
      failing_of_listByPeer_eq_error addressString peerOf value order failed
    exact ⟨aborted, address, present, err, failing⟩
  · rintro ⟨rfl, address, present, err, failing⟩
    cases first : order.entries.findSome? (lookupFailure peerOf) with
    | none =>
        exact absurd failing
          ((findSome?_lookupFailure_eq_none peerOf order).mp first address present err)
    | some firstErr => exact ⟨firstErr, by rw [listByPeer_eq, if_pos rfl, first]; rfl⟩

/-- A listing returned over a range order holds the listed keys, each with a listed value. -/
theorem listed_of_listByPeer (order : GoMap.RangeOrder cheques) {abortOnError : Bool}
    {result : GoMap String V}
    (listed : listByPeer addressString peerOf value abortOnError order.entries ∅ = .ok result)
    (key : String) (v : V) :
    (key ∈ result ↔ ∃ w address, ListedAs addressString peerOf value cheques key w address) ∧
      (result.lookup key = some v →
        ∃ address, ListedAs addressString peerOf value cheques key v address) := by
  rw [eq_assignAll_of_listByPeer addressString peerOf value listed]
  refine ⟨?_, fun found => ?_⟩
  · simp only [GoMap.mem_assignAll, Finmap.not_mem_empty, or_false, List.mem_map, Prod.exists,
      exists_and_right, exists_eq_right, mem_filterMap_listedEntry]
  · exact (mem_filterMap_listedEntry addressString peerOf value order).mp
      (GoMap.mem_of_lookup_assignAll found)

/-- Under a key listed once, a returned listing holds exactly the listed value. -/
theorem lookup_listByPeer_of_listedOnce {key : String}
    (once : ListedOnce addressString peerOf value cheques key)
    (order : GoMap.RangeOrder cheques) {abortOnError : Bool} {result : GoMap String V}
    (listed : listByPeer addressString peerOf value abortOnError order.entries ∅ = .ok result)
    (v : V) :
    result.lookup key = some v ↔
      ∃ address, ListedAs addressString peerOf value cheques key v address := by
  have holds := listed_of_listByPeer addressString peerOf value order listed key
  refine ⟨(holds v).2, fun ⟨address, listedAt⟩ => ?_⟩
  obtain ⟨w, found⟩ := Finmap.mem_iff.mp ((holds v).1.mpr ⟨v, address, listedAt⟩)
  obtain ⟨other, listedOther⟩ := (holds w).2 found
  obtain rfl := once v w address other listedAt listedOther
  rw [found, ListedAs.value_eq addressString peerOf value listedOther listedAt]

/--
When no lookup of the map's addresses fails, a listing over a range order
returns, and holds under a key listed once the value of the cheque listed there.
-/
theorem lookup_listByPeer_of_listedAs (order : GoMap.RangeOrder cheques) (abortOnError : Bool)
    (noFailure : ∀ address ∈ cheques, ∀ err, peerOf address ≠ .error err) {key : String} {v : V}
    {address : CommonAddress} (listedAt : ListedAs addressString peerOf value cheques key v address)
    (once : ListedOnce addressString peerOf value cheques key) :
    ∃ result, listByPeer addressString peerOf value abortOnError order.entries ∅ = .ok result ∧
      result.lookup key = some v := by
  cases listing : listByPeer addressString peerOf value abortOnError order.entries ∅ with
  | error err =>
      obtain ⟨-, failing, present, failed⟩ :=
        failing_of_listByPeer_eq_error addressString peerOf value order listing
      exact absurd failed (noFailure failing present err)
  | ok result =>
      exact ⟨result, rfl, (lookup_listByPeer_of_listedOnce addressString peerOf value once order
        listing v).mpr ⟨address, listedAt⟩⟩

/--
In every range order, a listing fails exactly when it aborts on a failed
lookup, with the error of a lookup that failed; a listing it returns holds
exactly the keys some cheque is listed under, each with the value of a cheque
listed under it.
-/
theorem listByPeer_outcome (order : GoMap.RangeOrder cheques) (abortOnError : Bool) :
    ((∃ err, listByPeer addressString peerOf value abortOnError order.entries ∅ = .error err) ↔
        abortOnError = true ∧ ∃ address ∈ cheques, ∃ err, peerOf address = .error err) ∧
      (∀ err, listByPeer addressString peerOf value abortOnError order.entries ∅ = .error err →
        ∃ address ∈ cheques, peerOf address = .error err) ∧
      ∀ result, listByPeer addressString peerOf value abortOnError order.entries ∅ = .ok result →
        ∀ key v,
          (key ∈ result ↔ ∃ w address, ListedAs addressString peerOf value cheques key w address) ∧
            (result.lookup key = some v →
              ∃ address, ListedAs addressString peerOf value cheques key v address) :=
  ⟨listByPeer_fails_iff addressString peerOf value order abortOnError,
    fun _ failed => (failing_of_listByPeer_eq_error addressString peerOf value order failed).2,
    fun _ listed => listed_of_listByPeer addressString peerOf value order listed⟩

/--
When no two addresses are listed under one key, a listing does not depend on
the range order, but for which failed lookup's error it returns, and holds
under each key exactly the value of the cheque listed under it.
-/
theorem listByPeer_rangeOrder_independent
    (once : ∀ key, ListedOnce addressString peerOf value cheques key)
    (first second : GoMap.RangeOrder cheques) (abortOnError : Bool) :
    (listByPeer addressString peerOf value abortOnError first.entries ∅).toOption =
        (listByPeer addressString peerOf value abortOnError second.entries ∅).toOption ∧
      ∀ result, listByPeer addressString peerOf value abortOnError first.entries ∅ = .ok result →
        ∀ key v, result.lookup key = some v ↔
          ∃ address, ListedAs addressString peerOf value cheques key v address := by
  have fails := (listByPeer_fails_iff addressString peerOf value first abortOnError).trans
    (listByPeer_fails_iff addressString peerOf value second abortOnError).symm
  refine ⟨?_, fun _ listed key =>
    lookup_listByPeer_of_listedOnce addressString peerOf value (once key) first listed⟩
  cases firstListing : listByPeer addressString peerOf value abortOnError first.entries ∅ with
  | error err =>
      obtain ⟨other, failed⟩ := fails.mp ⟨err, firstListing⟩
      rw [failed]
      rfl
  | ok result =>
      cases secondListing : listByPeer addressString peerOf value abortOnError second.entries ∅ with
      | error err =>
          obtain ⟨other, failed⟩ := fails.mpr ⟨err, secondListing⟩
          rw [failed] at firstListing
          cases firstListing
      | ok other =>
          refine congrArg some (Finmap.ext_lookup fun key => Option.ext fun v => ?_)
          rw [Option.mem_def, Option.mem_def,
            lookup_listByPeer_of_listedOnce addressString peerOf value (once key) first firstListing,
            lookup_listByPeer_of_listedOnce addressString peerOf value (once key) second secondListing]

/-- Two chequebooks of two peers are listed alike in both their range orders. -/
theorem listByPeer_rangeOrder_independent_twoPeers :
    let first : CommonAddress := ⟨0xc1#160⟩
    let second : CommonAddress := ⟨0xc2#160⟩
    let one : SignedCheque := ⟨⟨⟨0xeeee#160⟩, 101, first⟩, []⟩
    let two : SignedCheque := ⟨⟨⟨0xeeee#160⟩, 202, second⟩, []⟩
    let cheques := (Finmap.singleton first one).insert second two
    let addressString : SwarmAddress → String := fun peer => if peer.b = [1] then "01" else "02"
    let chequebookPeer : CommonAddress → Except GoError (SwarmAddress × Bool) :=
      fun address => if address = first then .ok (⟨[1]⟩, true) else .ok (⟨[2]⟩, true)
    let forward : GoMap.RangeOrder cheques := ⟨[(first, one), (second, two)], by decide⟩
    let backward : GoMap.RangeOrder cheques := ⟨[(second, two), (first, one)], by decide⟩
    (∀ key, ListedOnce addressString chequebookPeer cumulativePayout cheques key) ∧
      ((listByPeer addressString chequebookPeer cumulativePayout true forward.entries ∅).toOption =
          (listByPeer addressString chequebookPeer cumulativePayout true backward.entries ∅).toOption ∧
        ∀ result, listByPeer addressString chequebookPeer cumulativePayout true forward.entries ∅ =
            .ok result →
          ∀ key v, result.lookup key = some v ↔
            ∃ address, ListedAs addressString chequebookPeer cumulativePayout cheques key v address) := by
  intro first second one two cheques addressString chequebookPeer forward backward
  have once : ∀ key, ListedOnce addressString chequebookPeer cumulativePayout cheques key := by
    rintro key v w address other ⟨_, peer, found, known, rfl, -⟩
      ⟨_, otherPeer, otherFound, otherKnown, named, -⟩
    have members : ∀ address ∈ cheques, address = first ∨ address = second := by
      intro address present
      simpa [cheques, Finmap.mem_insert, Finmap.mem_singleton, or_comm] using present
    rcases members address (Finmap.mem_of_lookup_eq_some found) with rfl | rfl <;>
      rcases members other (Finmap.mem_of_lookup_eq_some otherFound) with rfl | rfl
    all_goals first
      | rfl
      | simp [chequebookPeer, first, second] at known otherKnown
        subst known otherKnown
        simp [addressString] at named
  exact ⟨once, listByPeer_rangeOrder_independent addressString chequebookPeer cumulativePayout once
    forward backward true⟩

end Listing

section Listings

variable (addressString : SwarmAddress → String)

/--
`s.SettlementsSent()`: `lastCheques` is `none` when `s.chequebook` is `nil`,
else what its `LastCheques()` returns, with the order the loop ranges over it in.
-/
def settlementsSent (beneficiaryPeer : CommonAddress → Except GoError (SwarmAddress × Bool))
    (lastCheques : Option (Except GoError (GoMap.Ranged CommonAddress SignedCheque))) :
    Except GoError (GoMap String Int) :=
  match lastCheques with
  | none => .ok ∅
  | some (.error err) => .error err
  | some (.ok cheques) =>
      listByPeer addressString beneficiaryPeer cumulativePayout true cheques.order.entries ∅

/-- `s.SettlementsReceived()`: `lastCheques` is what `s.chequeStore.LastCheques()` returns. -/
def settlementsReceived (chequebookPeer : CommonAddress → Except GoError (SwarmAddress × Bool))
    (lastCheques : Except GoError (GoMap.Ranged CommonAddress SignedCheque)) :
    Except GoError (GoMap String Int) :=
  match lastCheques with
  | .error err => .error err
  | .ok cheques =>
      listByPeer addressString chequebookPeer cumulativePayout true cheques.order.entries ∅

/-- `s.LastSentCheques()`, with `lastCheques` as for `settlementsSent`. -/
def lastSentCheques (beneficiaryPeer : CommonAddress → Except GoError (SwarmAddress × Bool))
    (lastCheques : Option (Except GoError (GoMap.Ranged CommonAddress SignedCheque))) :
    Except GoError (GoMap String SignedCheque) :=
  match lastCheques with
  | none => .error errNoChequebook
  | some (.error err) => .error err
  | some (.ok cheques) => listByPeer addressString beneficiaryPeer id false cheques.order.entries ∅

/-- `s.LastReceivedCheques()`, with `lastCheques` as for `settlementsReceived`. -/
def lastReceivedCheques (chequebookPeer : CommonAddress → Except GoError (SwarmAddress × Bool))
    (lastCheques : Except GoError (GoMap.Ranged CommonAddress SignedCheque)) :
    Except GoError (GoMap String SignedCheque) :=
  match lastCheques with
  | .error err => .error err
  | .ok cheques => listByPeer addressString chequebookPeer id false cheques.order.entries ∅

/-- Listing payouts lists the payouts of the cheques the cheque listing lists. -/
theorem filterMap_listedEntry_cumulativePayout
    (peerOf : CommonAddress → Except GoError (SwarmAddress × Bool))
    (entries : List (CommonAddress × SignedCheque)) :
    entries.filterMap (listedEntry addressString peerOf cumulativePayout) =
      (entries.filterMap (listedEntry addressString peerOf id)).map
        fun entry => (entry.1, cumulativePayout entry.2) := by
  rw [List.map_filterMap]
  congr
  funext entry
  unfold listedEntry
  split <;> rfl

/--
Over the same range of the cheque store's last cheques, `LastReceivedCheques`
returns whatever the address book's lookups answer, `SettlementsReceived`
returns exactly when none of them fails, and then lists under each key the
cumulative payout of the cheque `LastReceivedCheques` lists there.
-/
theorem settlementsReceived_agrees_lastReceivedCheques
    (chequebookPeer : CommonAddress → Except GoError (SwarmAddress × Bool))
    (cheques : GoMap.Ranged CommonAddress SignedCheque) :
    ∃ listed, lastReceivedCheques addressString chequebookPeer (.ok cheques) = .ok listed ∧
      ((∃ settled, settlementsReceived addressString chequebookPeer (.ok cheques) = .ok settled) ↔
        ∀ address ∈ cheques.map, ∀ err, chequebookPeer address ≠ .error err) ∧
      ∀ settled, settlementsReceived addressString chequebookPeer (.ok cheques) = .ok settled →
        ∀ key, settled.lookup key = (listed.lookup key).map cumulativePayout := by
  have fails := listByPeer_fails_iff addressString chequebookPeer cumulativePayout cheques.order true
  refine ⟨_, listByPeer_eq addressString chequebookPeer id false _ ∅, ?_,
    fun settled listed key => ?_⟩
  · constructor
    · rintro ⟨settled, listed⟩ address present err failed
      obtain ⟨_, stopped⟩ := fails.mpr ⟨rfl, address, present, err, failed⟩
      exact nomatch listed.symm.trans stopped
    · intro noFailure
      cases listing : settlementsReceived addressString chequebookPeer (.ok cheques) with
      | error err =>
          obtain ⟨-, address, present, failed, failing⟩ := fails.mp ⟨err, listing⟩
          exact absurd failing (noFailure address present failed)
      | ok settled => exact ⟨settled, rfl⟩
  · rw [eq_assignAll_of_listByPeer addressString chequebookPeer cumulativePayout listed,
      filterMap_listedEntry_cumulativePayout, GoMap.lookup_assignAll_map]

end Listings

section PeerQueries

variable (addressString : SwarmAddress → String) (errNoCheque errPeerNoSettlements : GoError)

/-- The chequebook service `s.chequebook`: the last cheque it issued to each beneficiary. -/
structure Chequebook where
  lastCheques : GoMap CommonAddress SignedCheque

/-- `s.chequebook.LastCheque(beneficiary)`, read as the cheque store reads its own record. -/
def Chequebook.lastCheque (fault : Option GoError) (book : Chequebook)
    (beneficiary : CommonAddress) : Except GoError SignedCheque :=
  ChequeStore.lastCheque errNoCheque fault ⟨book.lastCheques⟩ beneficiary

/--
`s.TotalSent(peer)`: `beneficiaryOf` answers the address book's
`Beneficiary(peer)`, `chequebook` is `s.chequebook`, `none` when it is `nil`.
-/
def totalSent (beneficiaryOf : SwarmAddress → Except GoError (CommonAddress × Bool))
    (chequebook : Option Chequebook) (fault : Option GoError) (peer : SwarmAddress) :
    Except GoError Int := do
  let (beneficiary, known) ← beneficiaryOf peer
  if !known then
    throw errPeerNoSettlements
  match chequebook with
  | none => pure 0
  | some book =>
      match book.lastCheque errNoCheque fault beneficiary with
      | .error err => if err.is errNoCheque then throw errPeerNoSettlements else throw err
      | .ok cheque => pure cheque.cheque.cumulativePayout

/-- `s.LastSentCheque(peer)`, with `beneficiaryOf` and `chequebook` as for `totalSent`. -/
def lastSentCheque (beneficiaryOf : SwarmAddress → Except GoError (CommonAddress × Bool))
    (chequebook : Option Chequebook) (fault : Option GoError) (peer : SwarmAddress) :
    Except GoError SignedCheque := do
  let (common, known) ← beneficiaryOf peer
  if !known then
    throw errNoCheque
  match chequebook with
  | none => throw errNoChequebook
  | some book => book.lastCheque errNoCheque fault common

/--
`TotalReceived` and `SettlementsReceived` agree on a peer the address book
binds to a chequebook both ways: when the chequebook's lookup names the peer,
no lookup fails and no other chequebook is listed under the peer's key,
`SettlementsReceived` lists under the peer's key, in every range order of the
cheque store, the cumulative payout `TotalReceived` reports for the peer.
-/
theorem totalReceived_agrees_settlementsReceived
    (chequebookPeer : CommonAddress → Except GoError (SwarmAddress × Bool)) (s : Service)
    (order : GoMap.RangeOrder s.chequeStore.lastCheques) {peer : SwarmAddress}
    {chequebook : CommonAddress} {cheque : SignedCheque}
    (bound : s.addressbook.chequebooks.lookup peer = some chequebook)
    (last : s.chequeStore.lastCheques.lookup chequebook = some cheque)
    (reverse : chequebookPeer chequebook = .ok (peer, true))
    (noFailure : ∀ address ∈ s.chequeStore.lastCheques, ∀ err, chequebookPeer address ≠ .error err)
    (once : ListedOnce addressString chequebookPeer cumulativePayout s.chequeStore.lastCheques
      (addressString peer)) :
    totalReceived errNoCheque errPeerNoSettlements ⟨none, none⟩ s peer =
        .ok cheque.cheque.cumulativePayout ∧
      ∃ settled, settlementsReceived addressString chequebookPeer (.ok ⟨_, order⟩) = .ok settled ∧
        settled.lookup (addressString peer) = some cheque.cheque.cumulativePayout :=
  ⟨(queries_of_bound errNoCheque errPeerNoSettlements bound last).2,
    lookup_listByPeer_of_listedAs addressString chequebookPeer cumulativePayout order true noFailure
      ⟨cheque, peer, last, reverse, rfl, rfl⟩ once⟩

/-- A peer bound both ways to the chequebook of its one cheque is reported alike by both queries. -/
theorem totalReceived_agrees_settlementsReceived_onePeer :
    let chequebook : CommonAddress := ⟨0xc1#160⟩
    let cheque : SignedCheque := ⟨⟨⟨0xeeee#160⟩, 101, chequebook⟩, []⟩
    let s : Service :=
      ⟨⟨Finmap.singleton ⟨[1]⟩ chequebook, ∅⟩, ⟨Finmap.singleton chequebook cheque⟩, ⟨[]⟩⟩
    let addressString : SwarmAddress → String := fun _ => "01"
    let chequebookPeer : CommonAddress → Except GoError (SwarmAddress × Bool) :=
      fun _ => .ok (⟨[1]⟩, true)
    let order : GoMap.RangeOrder s.chequeStore.lastCheques := ⟨[(chequebook, cheque)], by decide⟩
    let errNoCheque : GoError := .new "ErrNoCheque" "no cheque"
    let errPeerNoSettlements : GoError := .new "ErrPeerNoSettlements" "no settlements for peer"
    s.addressbook.chequebooks.lookup ⟨[1]⟩ = some chequebook ∧
      s.chequeStore.lastCheques.lookup chequebook = some cheque ∧
      chequebookPeer chequebook = .ok (⟨[1]⟩, true) ∧
      (∀ address ∈ s.chequeStore.lastCheques, ∀ err, chequebookPeer address ≠ .error err) ∧
      ListedOnce addressString chequebookPeer cumulativePayout s.chequeStore.lastCheques
        (addressString ⟨[1]⟩) ∧
      (totalReceived errNoCheque errPeerNoSettlements ⟨none, none⟩ s ⟨[1]⟩ = .ok 101 ∧
        ∃ settled, settlementsReceived addressString chequebookPeer (.ok ⟨_, order⟩) = .ok settled ∧
          settled.lookup (addressString ⟨[1]⟩) = some 101) := by
  intro chequebook cheque s addressString chequebookPeer order errNoCheque errPeerNoSettlements
  have bound : s.addressbook.chequebooks.lookup ⟨[1]⟩ = some chequebook := by simp [s]
  have last : s.chequeStore.lastCheques.lookup chequebook = some cheque := by simp [s]
  have noFailure : ∀ address ∈ s.chequeStore.lastCheques, ∀ err,
      chequebookPeer address ≠ .error err := fun _ _ _ failed => nomatch failed
  have once : ListedOnce addressString chequebookPeer cumulativePayout s.chequeStore.lastCheques
      (addressString ⟨[1]⟩) :=
    listedOnce_singleton addressString chequebookPeer cumulativePayout chequebook cheque _
  exact ⟨bound, last, rfl, noFailure, once,
    totalReceived_agrees_settlementsReceived addressString errNoCheque errPeerNoSettlements
      chequebookPeer s order bound last rfl noFailure once⟩

/--
`TotalSent` and `SettlementsSent` agree on a peer whose beneficiary the
address book maps both ways, as the received side does, when a chequebook is
set. Without one, `TotalSent` answers zero for the peer while
`SettlementsSent` lists no peer at all, and `LastSentCheque` and
`LastSentCheques` fail with `ErrNoChequebook`.
-/
theorem totalSent_agrees_settlementsSent
    (beneficiaryOf : SwarmAddress → Except GoError (CommonAddress × Bool))
    (beneficiaryPeer : CommonAddress → Except GoError (SwarmAddress × Bool)) {peer : SwarmAddress}
    {beneficiary : CommonAddress} (known : beneficiaryOf peer = .ok (beneficiary, true)) :
    (totalSent errNoCheque errPeerNoSettlements beneficiaryOf none none peer = .ok 0 ∧
        settlementsSent addressString beneficiaryPeer none = .ok ∅ ∧
        lastSentCheque errNoCheque beneficiaryOf none none peer = .error errNoChequebook ∧
        lastSentCheques addressString beneficiaryPeer none = .error errNoChequebook) ∧
      ∀ (book : Chequebook) (order : GoMap.RangeOrder book.lastCheques) (cheque : SignedCheque),
        book.lastCheques.lookup beneficiary = some cheque →
        beneficiaryPeer beneficiary = .ok (peer, true) →
        (∀ address ∈ book.lastCheques, ∀ err, beneficiaryPeer address ≠ .error err) →
        ListedOnce addressString beneficiaryPeer cumulativePayout book.lastCheques (addressString peer) →
        totalSent errNoCheque errPeerNoSettlements beneficiaryOf (some book) none peer =
            .ok cheque.cheque.cumulativePayout ∧
          ∃ settled,
            settlementsSent addressString beneficiaryPeer (some (.ok ⟨_, order⟩)) = .ok settled ∧
            settled.lookup (addressString peer) = some cheque.cheque.cumulativePayout := by
  refine ⟨by simp [totalSent, lastSentCheque, settlementsSent, lastSentCheques, known, bind,
      Except.bind, pure, Except.pure, throw, throwThe, MonadExceptOf.throw],
    fun book order cheque last reverse noFailure once => ⟨?_, ?_⟩⟩
  · simp [totalSent, Chequebook.lastCheque, ChequeStore.lastCheque, known, last, bind, Except.bind,
      pure, Except.pure]
  · exact lookup_listByPeer_of_listedAs addressString beneficiaryPeer cumulativePayout order true
      noFailure ⟨cheque, peer, last, reverse, rfl, rfl⟩ once

/-- A peer whose beneficiary is known is reported alike by both sent queries. -/
theorem totalSent_agrees_settlementsSent_knownBeneficiary :
    let beneficiaryOf : SwarmAddress → Except GoError (CommonAddress × Bool) :=
      fun _ => .ok (⟨0xb1#160⟩, true)
    let beneficiaryPeer : CommonAddress → Except GoError (SwarmAddress × Bool) :=
      fun _ => .ok (⟨[1]⟩, true)
    let cheque : SignedCheque := ⟨⟨⟨0xb1#160⟩, 101, ⟨0xc1#160⟩⟩, []⟩
    let book : Chequebook := ⟨Finmap.singleton ⟨0xb1#160⟩ cheque⟩
    let order : GoMap.RangeOrder book.lastCheques := ⟨[(⟨0xb1#160⟩, cheque)], by decide⟩
    let errNoCheque : GoError := .new "ErrNoCheque" "no cheque"
    let errPeerNoSettlements : GoError := .new "ErrPeerNoSettlements" "no settlements for peer"
    beneficiaryOf ⟨[1]⟩ = .ok (⟨0xb1#160⟩, true) ∧
      book.lastCheques.lookup ⟨0xb1#160⟩ = some cheque ∧
      beneficiaryPeer ⟨0xb1#160⟩ = .ok (⟨[1]⟩, true) ∧
      (∀ address ∈ book.lastCheques, ∀ err, beneficiaryPeer address ≠ .error err) ∧
      ListedOnce (fun _ => "01") beneficiaryPeer cumulativePayout book.lastCheques "01" ∧
      (totalSent errNoCheque errPeerNoSettlements beneficiaryOf none none ⟨[1]⟩ = .ok 0 ∧
        settlementsSent (fun _ => "01") beneficiaryPeer none = .ok ∅ ∧
        lastSentCheque errNoCheque beneficiaryOf none none ⟨[1]⟩ = .error errNoChequebook ∧
        lastSentCheques (fun _ => "01") beneficiaryPeer none = .error errNoChequebook) ∧
      (totalSent errNoCheque errPeerNoSettlements beneficiaryOf (some book) none ⟨[1]⟩ = .ok 101 ∧
        ∃ settled, settlementsSent (fun _ => "01") beneficiaryPeer (some (.ok ⟨_, order⟩)) =
            .ok settled ∧
          settled.lookup "01" = some 101) := by
  intro beneficiaryOf beneficiaryPeer cheque book order errNoCheque errPeerNoSettlements
  have known : beneficiaryOf ⟨[1]⟩ = .ok (⟨0xb1#160⟩, true) := rfl
  have last : book.lastCheques.lookup ⟨0xb1#160⟩ = some cheque := by simp [book]
  have noFailure : ∀ address ∈ book.lastCheques, ∀ err, beneficiaryPeer address ≠ .error err :=
    fun _ _ _ failed => nomatch failed
  have once : ListedOnce (fun _ => "01") beneficiaryPeer cumulativePayout book.lastCheques "01" :=
    listedOnce_singleton _ beneficiaryPeer cumulativePayout _ cheque "01"
  have agrees := @totalSent_agrees_settlementsSent (fun _ => "01") errNoCheque errPeerNoSettlements
    beneficiaryOf beneficiaryPeer ⟨[1]⟩ ⟨0xb1#160⟩ known
  exact ⟨known, last, rfl, noFailure, once, agrees.1,
    agrees.2 book order cheque last rfl noFailure once⟩

end PeerQueries

section Pay

/-- One `accounting.NotifyPaymentSent(peer, amount, err)` call. -/
structure PaymentSent where
  peer : SwarmAddress
  amount : Int
  err : Option GoError
  deriving DecidableEq, Repr

/--
What `Pay`'s collaborators answer: the address book's `Beneficiary(peer)`, and
the protocol's `EmitCheque` to a beneficiary, which returns the chequebook's
balance.
-/
structure PayAnswers where
  beneficiary : Except GoError (CommonAddress × Bool)
  emitCheque : CommonAddress → Except GoError Int

/--
The body of `s.Pay(ctx, peer, amount)` up to its return: the value its
variable `err` holds when it returns, and the notifications made on the way.
Both `:=` statements assign the `err` declared by `var err error`, which is in
their scope.
-/
def payBody (hasChequebook : Bool) (answers : PayAnswers) (peer : SwarmAddress) (amount : Int) :
    Option GoError × List PaymentSent :=
  if !hasChequebook then (some errNoChequebook, [])
  else
    match answers.beneficiary with
    | .error err => (some err, [])
    | .ok (_, false) => (some errUnknownBeneficary, [])
    | .ok (beneficiary, true) =>
        match answers.emitCheque beneficiary with
        | .error err => (some err, [])
        | .ok _ => (none, [⟨peer, amount, none⟩])

/-- `s.Pay(ctx, peer, amount)`: its body, then the deferred call notifying the error `err` holds. -/
def pay (hasChequebook : Bool) (answers : PayAnswers) (peer : SwarmAddress) (amount : Int) :
    List PaymentSent :=
  let (err, notified) := payBody hasChequebook answers peer amount
  notified ++ (err.map fun err => ⟨peer, amount, some err⟩).toList

end Pay

end BeeTron.Swap
