import BeeTron.Values

namespace BeeTron.Topology

/-!
# The mock topology driver

`topology/mock` is the `topology.Driver` the node's tests run against: the
connected peers, the configured `ClosestPeer` answer and each peer's health,
changed only under the driver's mutex, so each method is one atomic step after
the options `NewTopologyDriver` applies. The distance comparison `Closer` is
not part of the sources; it is a parameter, assumed to be a strict order
towards each target under which the empty address is closer than nothing
(`CloserOrder`).

`closestPeer_closest`: a computed answer is the closest connected peer not
skipped. `eachConnectedPeer_visitsAll`: both iterations, which differ in their
order and in the `peersErr` only the first returns, visit every peer.
`peersHealth_lastUpdate`: each peer's health is its last update.
-/

/-- `topology.ErrNotFound`. -/
def errNotFound : GoError :=
  .new "ErrNotFound" "no peer found"

/-- `topology.ErrWantSelf`. -/
def errWantSelf : GoError :=
  .new "ErrWantSelf" "node wants self"

/-- The fields of the mock driver that its modelled methods read. -/
structure Mock where
  peers : List SwarmAddress
  /-- The field `closestPeer`, which `WithClosestPeer` sets. -/
  configuredPeer : SwarmAddress
  /-- The field `closestPeerErr`, which `WithClosestPeerErr` sets. -/
  configuredErr : Option GoError
  peersErr : Option GoError
  health : GoMap GoString Bool

/-- The options that set a field a modelled method reads. -/
inductive OptionFunc where
  | withPeers (peers : List SwarmAddress)
  | withClosestPeer (addr : SwarmAddress)
  | withClosestPeerErr (err : GoError)

/-- `o.apply(d)`. -/
def OptionFunc.apply (o : OptionFunc) (d : Mock) : Mock :=
  match o with
  | .withPeers peers => { d with peers := peers }
  | .withClosestPeer addr => { d with configuredPeer := addr }
  | .withClosestPeerErr err => { d with configuredErr := some err }

/-- `NewTopologyDriver(opts...)`: the zero driver, each option applied in turn, then an empty health map. -/
def newTopologyDriver (opts : List OptionFunc) : Mock :=
  { opts.foldl (fun d o => o.apply d) ⟨[], ⟨[]⟩, none, none, ∅⟩ with health := ∅ }

/-- The methods that change the driver's state. -/
inductive Method where
  | addPeers (addrs : List SwarmAddress)
  | connected (peer : SwarmAddress)
  | disconnected (peer : SwarmAddress)
  | updatePeerHealth (peer : SwarmAddress) (health : Bool)

/-- The health a method call reports for a peer, if it is an `UpdatePeerHealth` of that peer. -/
def reportedHealth (peer : SwarmAddress) : Method → Option Bool
  | .updatePeerHealth reported health => if reported = peer then some health else none
  | _ => none

/-- The health the last `UpdatePeerHealth` of a run reported for a peer. -/
def lastHealth (peer : SwarmAddress) : List Method → Option Bool
  | [] => none
  | method :: rest => (lastHealth peer rest).or (reportedHealth peer method)

namespace Mock

/-- `d.AddPeers(addrs...)`. -/
def addPeers (d : Mock) (addrs : List SwarmAddress) : Mock :=
  { d with peers := d.peers ++ addrs }

/-- `d.UpdatePeerHealth(peer, health, _)`. -/
def updatePeerHealth (d : Mock) (peer : SwarmAddress) (health : Bool) : Mock :=
  { d with health := d.health.insert peer.byteString health }

/-- `d.PeersHealth()`: a clone of the health map. -/
def peersHealth (d : Mock) : GoMap GoString Bool :=
  d.health

/-- `UpdatePeerHealth` writes the health of one peer and leaves every other peer's alone. -/
theorem updatePeerHealth_lookup (d : Mock) (reported peer : SwarmAddress) (health : Bool) :
    (d.updatePeerHealth reported health).health.lookup peer.byteString =
      if reported = peer then some health else d.health.lookup peer.byteString := by
  split
  · subst_vars
    exact Finmap.lookup_insert _
  · exact Finmap.lookup_insert_of_ne _ (SwarmAddress.byteString_injective.ne (Ne.symm ‹_›))

section Steps

variable (removeAddress : List SwarmAddress → SwarmAddress → List SwarmAddress)

/--
One method call; `Connected` adds the peer and returns `nil`, and
`Disconnected` removes it with `swarm.RemoveAddress`, which is not part of the
sources and is the parameter `removeAddress`.
-/
def step (d : Mock) : Method → Mock
  | .addPeers addrs => d.addPeers addrs
  | .connected peer => d.addPeers [peer]
  | .disconnected peer => { d with peers := removeAddress d.peers peer }
  | .updatePeerHealth peer health => d.updatePeerHealth peer health

/-- A run of method calls, in order. -/
def run (d : Mock) (methods : List Method) : Mock :=
  methods.foldl (step removeAddress) d

@[simp] theorem run_nil (d : Mock) : d.run removeAddress [] = d :=
  rfl

@[simp] theorem run_cons (d : Mock) (method : Method) (rest : List Method) :
    d.run removeAddress (method :: rest) = (d.step removeAddress method).run removeAddress rest :=
  rfl

/-- A step changes a peer's health exactly when it reports one. -/
theorem step_health (d : Mock) (method : Method) (peer : SwarmAddress) :
    (d.step removeAddress method).health.lookup peer.byteString =
      (reportedHealth peer method).or (d.health.lookup peer.byteString) := by
  cases method with
  | updatePeerHealth reported health =>
      rw [step, updatePeerHealth_lookup]
      split <;> simp [reportedHealth, *]
  | _ => rfl

/-- After a run, a peer's health is the one its last `UpdatePeerHealth` reported, if any. -/
theorem run_health (d : Mock) (methods : List Method) (peer : SwarmAddress) :
    (d.run removeAddress methods).health.lookup peer.byteString =
      (lastHealth peer methods).or (d.health.lookup peer.byteString) := by
  induction methods generalizing d with
  | nil => rfl
  | cons method rest inductionHypothesis =>
      rw [run_cons, inductionHypothesis, step_health, lastHealth, Option.or_assoc]

/-- No method sets `peersErr`. -/
@[simp] theorem step_peersErr (d : Mock) (method : Method) :
    (d.step removeAddress method).peersErr = d.peersErr := by
  cases method <;> rfl

/-- No run sets `peersErr`. -/
@[simp] theorem run_peersErr (d : Mock) (methods : List Method) :
    (d.run removeAddress methods).peersErr = d.peersErr := by
  induction methods generalizing d with
  | nil => rfl
  | cons method rest inductionHypothesis => simp [inductionHypothesis]

end Steps

end Mock

/-- No option sets `peersErr`, so a new driver has none. -/
@[simp] theorem newTopologyDriver_peersErr (opts : List OptionFunc) :
    (newTopologyDriver opts).peersErr = none := by
  suffices kept : ∀ d : Mock, (opts.foldl (fun d o => o.apply d) d).peersErr = d.peersErr from
    kept _
  induction opts with
  | nil => exact fun _ => rfl
  | cons o rest inductionHypothesis =>
      intro d
      rw [List.foldl_cons, inductionHypothesis]
      cases o <;> rfl

/--
In every driver `NewTopologyDriver` builds, after any run of method calls,
`PeersHealth` reports for each peer the health its last `UpdatePeerHealth`
reported, and nothing for a peer never reported.
-/
theorem peersHealth_lastUpdate
    (removeAddress : List SwarmAddress → SwarmAddress → List SwarmAddress)
    (opts : List OptionFunc) (methods : List Method) (peer : SwarmAddress) :
    ((newTopologyDriver opts).run removeAddress methods).peersHealth.lookup peer.byteString =
      lastHealth peer methods := by
  rw [Mock.peersHealth, Mock.run_health]
  simp [newTopologyDriver]

section Iteration

/-- A `topology.EachPeerFunc`: what the callback returns for a peer and a bin, `(stop, jumpToNext, err)`. -/
abbrev EachPeerFunc := SwarmAddress → UInt8 → Bool × Bool × Option GoError

/--
The loop body both iterations share, over the index and peer they visit in
turn: `_, _, err = f(p, uint8(i)); if err != nil { return }`. The result is the
calls made and the error returned.
-/
def visitPeers (f : EachPeerFunc) : List (Nat × SwarmAddress) → List (SwarmAddress × UInt8) × Option GoError
  | [] => ([], none)
  | (i, p) :: rest =>
      match (f p (UInt8.ofNat i)).2.2 with
      | some err => ([(p, UInt8.ofNat i)], some err)
      | none => ((p, UInt8.ofNat i) :: (visitPeers f rest).1, (visitPeers f rest).2)

/-- `d.EachConnectedPeer(f, _)`: `peersErr`, or the peers in order. -/
def Mock.eachConnectedPeer (d : Mock) (f : EachPeerFunc) :
    List (SwarmAddress × UInt8) × Option GoError :=
  match d.peersErr with
  | some err => ([], some err)
  | none => visitPeers f d.peers.enum

/-- `d.EachConnectedPeerRev(f, _)`: the peers from the last to the first; `peersErr` is not read. -/
def Mock.eachConnectedPeerRev (d : Mock) (f : EachPeerFunc) :
    List (SwarmAddress × UInt8) × Option GoError :=
  visitPeers f d.peers.enum.reverse

/-- A callback that never fails is called on every peer visited, whatever `stop` it returns. -/
theorem visitPeers_of_neverFails {f : EachPeerFunc} (neverFails : ∀ p bin, (f p bin).2.2 = none)
    (visits : List (Nat × SwarmAddress)) :
    visitPeers f visits = (visits.map fun (i, p) => (p, UInt8.ofNat i), none) := by
  induction visits with
  | nil => rfl
  | cons visit rest inductionHypothesis =>
      obtain ⟨i, p⟩ := visit
      simp [visitPeers, neverFails, inductionHypothesis]

/--
In every driver `NewTopologyDriver` builds, after any run of method calls, a
callback that never fails is called by `EachConnectedPeer` on every connected
peer in order, each with its index as bin, and by `EachConnectedPeerRev` on the
same peers in the opposite order, and both return `nil`.
-/
theorem eachConnectedPeer_visitsAll
    (removeAddress : List SwarmAddress → SwarmAddress → List SwarmAddress)
    (opts : List OptionFunc) (methods : List Method) (f : EachPeerFunc)
    (neverFails : ∀ p bin, (f p bin).2.2 = none) :
    ((newTopologyDriver opts).run removeAddress methods).eachConnectedPeer f =
        (((newTopologyDriver opts).run removeAddress methods).peers.enum.map
          fun (i, p) => (p, UInt8.ofNat i), none) ∧
      ((newTopologyDriver opts).run removeAddress methods).eachConnectedPeerRev f =
        ((((newTopologyDriver opts).run removeAddress methods).peers.enum.map
          fun (i, p) => (p, UInt8.ofNat i)).reverse, none) := by
  simp [Mock.eachConnectedPeer, Mock.eachConnectedPeerRev, visitPeers_of_neverFails neverFails,
    List.map_reverse]

/-- A callback that asks to stop at every peer is still called on all three, in both orders. -/
theorem eachConnectedPeer_visitsAll_stopEverywhere :
    let f : EachPeerFunc := fun _ _ => (true, false, none)
    let d := (newTopologyDriver [.withPeers [⟨[1]⟩, ⟨[2]⟩]]).run List.erase [.connected ⟨[3]⟩]
    (∀ p bin, (f p bin).2.2 = none) ∧
      d.eachConnectedPeer f = ([(⟨[1]⟩, 0), (⟨[2]⟩, 1), (⟨[3]⟩, 2)], none) ∧
      d.eachConnectedPeerRev f = ([(⟨[3]⟩, 2), (⟨[2]⟩, 1), (⟨[1]⟩, 0)], none) := by
  intro f d
  exact ⟨fun _ _ => rfl,
    eachConnectedPeer_visitsAll List.erase _ [.connected ⟨[3]⟩] f (fun _ _ => rfl)⟩

end Iteration

section ClosestPeer

variable (closer : SwarmAddress → SwarmAddress → SwarmAddress → Bool)

/--
What `ClosestPeer` needs of `x.Closer(a, y)`, taken with its error discarded as
`ClosestPeer` discards it: a strict order towards each target `a`, under which
the address of no bytes is closer than nothing.
-/
structure CloserOrder : Prop where
  irreflexive : ∀ x a, closer x a x = false
  transitive : ∀ {x y z a}, closer x a y = true → closer y a z = true → closer x a z = true
  zeroNeverCloser : ∀ a y, closer ⟨[]⟩ a y = false

/-- The inner loop: `for _, a := range skipPeers { if a.Equal(p) { skipPeer = true; break } }`. -/
def skipPeer (skipPeers : List SwarmAddress) (p : SwarmAddress) : Bool :=
  skipPeers.any fun a => a == p

@[simp] theorem skipPeer_iff {skipPeers : List SwarmAddress} {p : SwarmAddress} :
    skipPeer skipPeers p = true ↔ p ∈ skipPeers := by
  simp [skipPeer]

/-- One iteration of the range loop over the connected peers, on the accumulator `peerAddr`. -/
def closestStep (addr : SwarmAddress) (skipPeers : List SwarmAddress) (peerAddr p : SwarmAddress) :
    SwarmAddress :=
  if skipPeer skipPeers p then
    peerAddr
  else
    let peerAddr := if peerAddr.isZero then p else peerAddr
    if closer p addr peerAddr then p else peerAddr

/-- The part of `ClosestPeer` under the lock: the range loop over the connected peers. -/
def Mock.closestConnectedPeer (d : Mock) (addr : SwarmAddress) (wantSelf : Bool)
    (skipPeers : List SwarmAddress) : SwarmAddress × Option GoError :=
  if d.peers.isEmpty then
    (⟨[]⟩, some errNotFound)
  else
    let peerAddr := d.peers.foldl (closestStep closer addr skipPeers) ⟨[]⟩
    if peerAddr.isZero then
      (peerAddr, some (if wantSelf then errWantSelf else errNotFound))
    else
      (peerAddr, none)

/-- The answer `ClosestPeer` is configured with, which it gives when asked to skip no peer. -/
def Mock.configuredAnswer (d : Mock) : Option (SwarmAddress × Option GoError) :=
  match d.configuredErr with
  | some err => some (d.configuredPeer, some err)
  | none => if d.configuredPeer.isZero then none else some (d.configuredPeer, none)

/-- `d.ClosestPeer(addr, wantSelf, _, skipPeers...)`. -/
def Mock.closestPeer (d : Mock) (addr : SwarmAddress) (wantSelf : Bool)
    (skipPeers : List SwarmAddress) : SwarmAddress × Option GoError :=
  match skipPeers, d.configuredAnswer with
  | [], some answer => answer
  | _, _ => d.closestConnectedPeer closer addr wantSelf skipPeers

/--
What the `ClosestPeerer` documentation promises of an answer over the
connected `peers`: the closest peer not in `skipPeers`; when there is none,
`ErrWantSelf` if the node may answer itself and some peer is connected, and
`ErrNotFound` otherwise. A peer with the zero address never counts: the loop
takes the zero address for "no peer chosen yet".
-/
def ClosestAnswer (peers : List SwarmAddress) (addr : SwarmAddress) (wantSelf : Bool)
    (skipPeers : List SwarmAddress) : SwarmAddress × Option GoError → Prop
  | (peer, none) =>
      peer ∈ peers ∧ peer ∉ skipPeers ∧ peer.isZero = false ∧
        ∀ q ∈ peers, q ∉ skipPeers → closer q addr peer = false
  | (_, some err) =>
      (∀ q ∈ peers, q ∈ skipPeers ∨ q.isZero = true) ∧
        err = if wantSelf && !peers.isEmpty then errWantSelf else errNotFound

/--
The accumulator of the range loop once it has visited `seen`: still zero
while every peer seen was skipped or zero, else the closest unskipped one.
-/
def Chosen (addr : SwarmAddress) (skipPeers seen : List SwarmAddress) (peerAddr : SwarmAddress) :
    Prop :=
  (peerAddr.isZero = true ∧ ∀ q ∈ seen, q ∈ skipPeers ∨ q.isZero = true) ∨
    (peerAddr ∈ seen ∧ peerAddr ∉ skipPeers ∧ peerAddr.isZero = false ∧
      ∀ q ∈ seen, q ∉ skipPeers → closer q addr peerAddr = false)

variable {closer}

/-- A zero address is closer than nothing. -/
theorem CloserOrder.closer_of_isZero (order : CloserOrder closer) {x a y : SwarmAddress}
    (zero : x.isZero = true) : closer x a y = false := by
  rw [SwarmAddress.eq_of_isZero zero]
  exact order.zeroNeverCloser a y

/-- One iteration of the range loop keeps the accumulator the closest unskipped peer seen. -/
theorem closestStep_chosen (order : CloserOrder closer) {addr : SwarmAddress}
    {skipPeers seen : List SwarmAddress} {peerAddr : SwarmAddress}
    (chosen : Chosen closer addr skipPeers seen peerAddr) (p : SwarmAddress) :
    Chosen closer addr skipPeers (p :: seen) (closestStep closer addr skipPeers peerAddr p) := by
  unfold closestStep
  by_cases skipped : p ∈ skipPeers
  · rw [if_pos (skipPeer_iff.mpr skipped)]
    rcases chosen with ⟨zero, seenSkipped⟩ | ⟨member, notSkipped, nonzero, closest⟩
    · exact .inl ⟨zero, List.forall_mem_cons.mpr ⟨.inl skipped, seenSkipped⟩⟩
    · exact .inr ⟨List.mem_cons_of_mem p member, notSkipped, nonzero,
        List.forall_mem_cons.mpr ⟨absurd skipped, closest⟩⟩
  rw [if_neg (mt skipPeer_iff.mp skipped)]
  rcases chosen with ⟨zero, seenSkipped⟩ | ⟨member, notSkipped, nonzero, closest⟩
  · -- the first peer neither skipped nor zero becomes the accumulator
    simp only [zero, ↓reduceIte, ite_self]
    cases pZero : p.isZero
    · refine .inr ⟨List.mem_cons_self p seen, skipped, pZero,
        List.forall_mem_cons.mpr ⟨fun _ => order.irreflexive p addr, fun q seenQ notSkippedQ => ?_⟩⟩
      exact order.closer_of_isZero ((seenSkipped q seenQ).resolve_left notSkippedQ)
    · exact .inl ⟨pZero, List.forall_mem_cons.mpr ⟨.inr pZero, seenSkipped⟩⟩
  · simp only [nonzero, Bool.false_eq_true, ↓reduceIte]
    by_cases nearer : closer p addr peerAddr = true
    · -- a closer peer replaces the accumulator
      rw [if_pos nearer]
      refine .inr ⟨List.mem_cons_self p seen, skipped, ?_,
        List.forall_mem_cons.mpr ⟨fun _ => order.irreflexive p addr, fun q seenQ notSkippedQ => ?_⟩⟩
      · cases pZero : p.isZero
        · rfl
        · rw [order.closer_of_isZero pZero] at nearer
          cases nearer
      · cases qNearer : closer q addr p
        · rfl
        · have throughP := order.transitive qNearer nearer
          rw [closest q seenQ notSkippedQ] at throughP
          cases throughP
    · rw [if_neg nearer]
      exact .inr ⟨List.mem_cons_of_mem p member, notSkipped, nonzero,
        List.forall_mem_cons.mpr ⟨fun _ => Bool.eq_false_iff.mpr nearer, closest⟩⟩

/-- The range loop over any peers keeps the accumulator the closest unskipped peer seen. -/
theorem foldl_closestStep_chosen (order : CloserOrder closer) {addr : SwarmAddress}
    {skipPeers : List SwarmAddress} (peers : List SwarmAddress) :
    ∀ {seen : List SwarmAddress} {peerAddr : SwarmAddress},
      Chosen closer addr skipPeers seen peerAddr →
        Chosen closer addr skipPeers (peers.reverse ++ seen)
          (peers.foldl (closestStep closer addr skipPeers) peerAddr) := by
  induction peers with
  | nil => exact id
  | cons p rest inductionHypothesis =>
      intro seen peerAddr chosen
      simpa using inductionHypothesis (closestStep_chosen order chosen p)

/-- The part of `ClosestPeer` under the lock answers as the interface documents. -/
theorem closestConnectedPeer_closest (order : CloserOrder closer) (d : Mock) (addr : SwarmAddress)
    (wantSelf : Bool) (skipPeers : List SwarmAddress) :
    ClosestAnswer closer d.peers addr wantSelf skipPeers
      (d.closestConnectedPeer closer addr wantSelf skipPeers) := by
  unfold Mock.closestConnectedPeer
  split
  · rename_i noPeers
    simp [ClosestAnswer, List.isEmpty_iff.mp noPeers]
  · rename_i somePeers
    have start : Chosen closer addr skipPeers [] ⟨[]⟩ := .inl ⟨rfl, List.forall_mem_nil _⟩
    have chosen := foldl_closestStep_chosen order d.peers start
    simp only [Chosen, List.append_nil, List.mem_reverse] at chosen
    generalize d.peers.foldl (closestStep closer addr skipPeers) ⟨[]⟩ = peerAddr at chosen ⊢
    cases zero : peerAddr.isZero
    · obtain ⟨member, notSkipped, -, closest⟩ := chosen.resolve_left (by simp [zero])
      simp only [zero, Bool.false_eq_true, ↓reduceIte]
      exact ⟨member, notSkipped, zero, closest⟩
    · obtain ⟨-, allSkipped⟩ := chosen.resolve_right (by simp [zero])
      simp only [zero, ↓reduceIte]
      exact ⟨allSkipped, by simp [somePeers]⟩

/--
For every `Closer` that is a strict order under which the zero address is
closer than nothing, `ClosestPeer` asked to skip some peers, or not configured
with an answer, returns the closest connected peer it was not asked to skip
and `nil`; when every connected peer is skipped or zero it returns
`ErrWantSelf` if asked for itself and some peer is connected, and
`ErrNotFound` otherwise.
-/
theorem closestPeer_closest (order : CloserOrder closer) (d : Mock) (addr : SwarmAddress)
    (wantSelf : Bool) (skipPeers : List SwarmAddress)
    (unconfigured : skipPeers ≠ [] ∨ d.configuredAnswer = none) :
    ClosestAnswer closer d.peers addr wantSelf skipPeers
      (d.closestPeer closer addr wantSelf skipPeers) := by
  unfold Mock.closestPeer
  split
  · rename_i answer configured
    simp [configured] at unconfigured
  · exact closestConnectedPeer_closest order d addr wantSelf _

/-- Ordering addresses by their length meets `CloserOrder`, and `ClosestPeer` then skips as asked. -/
theorem closestPeer_closest_byLength :
    let closer : SwarmAddress → SwarmAddress → SwarmAddress → Bool :=
      fun x _ y => 0 < x.b.length && x.b.length < y.b.length
    let d := newTopologyDriver [.withPeers [⟨[1, 2]⟩, ⟨[3]⟩, ⟨[4, 5, 6]⟩]]
    CloserOrder closer ∧ (([⟨[3]⟩] : List SwarmAddress) ≠ [] ∨ d.configuredAnswer = none) ∧
      ClosestAnswer closer d.peers ⟨[0]⟩ true [⟨[3]⟩] (d.closestPeer closer ⟨[0]⟩ true [⟨[3]⟩]) ∧
      d.closestPeer closer ⟨[0]⟩ true [⟨[3]⟩] = (⟨[1, 2]⟩, none) := by
  intro closer d
  have order : CloserOrder closer :=
    ⟨fun _ _ => by simp [closer], fun {_ _ _ _} nearer farther => by
      simp only [closer, Bool.and_eq_true, decide_eq_true_eq] at nearer farther ⊢
      omega, fun _ _ => by simp [closer]⟩
  exact ⟨order, .inl (List.cons_ne_nil _ _),
    closestPeer_closest order d ⟨[0]⟩ true [⟨[3]⟩] (.inl (List.cons_ne_nil _ _)), by decide⟩

end ClosestPeer

end BeeTron.Topology
