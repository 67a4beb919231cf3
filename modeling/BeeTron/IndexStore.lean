import BeeTron.Values
import Mathlib.Data.Finset.Sort

namespace BeeTron.Storage

/-!
# Index store and write transactions

The index store holds typed items under keys made of the item's namespace and
its ID; a query iterates one namespace in ascending ID order. Writes go through
a transaction: `Put` buffers an item, `Commit` applies the whole buffer to the
committed store at once, and the `done` function returned with the transaction
discards whatever was not committed.

The `storage` and `transaction` packages are not part of the sources, so the
store and the transaction are modelled from the spec (§4.2): the committed
store is a finite map from keys to marshalled values, and a failing storage
call is a choice of the environment, recorded in `Env` together with the clock
readings a run makes.
-/

/-- The key of an index-store item: its `Namespace()`, then its `ID()`. -/
structure Key where
  ns : GoString
  id : GoString
  deriving DecidableEq, Repr

/--
Modelled from the spec: the committed contents of the index store, each key
holding the marshalled bytes of its item.
-/
abbrev IndexStore :=
  GoMap Key (List UInt8)

/-- What `Put(item)` writes: the item's key and its `Marshal()` bytes. -/
structure Item where
  key : Key
  value : List UInt8
  deriving DecidableEq, Repr

/-- A `storage.Result` of a query with `ItemProperty: storage.QueryItemID`. -/
structure Result where
  id : GoString
  deriving DecidableEq, Repr

/--
What the environment decides in one run: the `UnixNano` value of the `n`-th
`time.Now()` call, and which storage calls fail. The `n`-th `Put` of a
transaction (counting from zero) fails when `putFault n` is an error.
-/
structure Env where
  now : Nat → Int
  iterateFault : Option GoError
  putFault : Nat → Option GoError
  commitFault : Option GoError

namespace IndexStore

/-- The IDs stored under a namespace, in ascending order. -/
def ids (store : IndexStore) (ns : GoString) : List GoString :=
  ((store.keys.filter fun key => key.ns = ns).image Key.id).sort (· ≤ ·)

/-- An ID is listed under a namespace exactly when its key is stored. -/
@[simp] theorem mem_ids {store : IndexStore} {ns id : GoString} :
    id ∈ store.ids ns ↔ ⟨ns, id⟩ ∈ store := by
  simp only [ids, Finset.mem_sort, Finset.mem_image, Finset.mem_filter,
    Finmap.mem_keys]
  constructor
  · rintro ⟨key, ⟨stored, sameNamespace⟩, rfl⟩
    subst sameNamespace
    exact stored
  · intro stored
    exact ⟨⟨ns, id⟩, ⟨stored, rfl⟩, rfl⟩

/-- Two stores holding the same keys under a namespace list the same IDs there. -/
theorem ids_congr {first second : IndexStore} {ns : GoString}
    (sameKeys : ∀ id, (⟨ns, id⟩ : Key) ∈ first ↔ ⟨ns, id⟩ ∈ second) :
    first.ids ns = second.ids ns := by
  have sameIds :
      (first.keys.filter fun key => key.ns = ns).image Key.id =
        (second.keys.filter fun key => key.ns = ns).image Key.id := by
    ext id
    have listed := mem_ids.trans ((sameKeys id).trans mem_ids.symm)
    simpa only [ids, Finset.mem_sort] using listed
  simp only [ids, sameIds]

/-- A namespace lists each of its IDs once. -/
theorem ids_nodup (store : IndexStore) (ns : GoString) :
    (store.ids ns).Nodup :=
  Finset.sort_nodup _ _

/--
`Iterate` over one namespace: the callback sees every ID in ascending order
and returns whether to stop, threading the state it captures. A store fault
fails the call before the callback's work is returned.
-/
def iterate {σ : Type} (store : IndexStore) (fault : Option GoError)
    (ns : GoString) (fn : Result → σ → Except GoError (Bool × σ))
    (init : σ) : Except GoError σ :=
  match fault with
  | some err => .error err
  | none => visit (store.ids ns) init
where
  /-- The callback loop over the remaining IDs. -/
  visit : List GoString → σ → Except GoError σ
    | [], captured => .ok captured
    | id :: rest, captured =>
        match fn ⟨id⟩ captured with
        | .error err => .error err
        | .ok (true, captured) => .ok captured
        | .ok (false, captured) => visit rest captured

end IndexStore

/--
Modelled from the spec: a write transaction opened on the committed store
`base`, with the items its `Put` calls buffered in order.
-/
structure Transaction where
  base : IndexStore
  pending : List Item

namespace Transaction

/-- `st.NewTransaction(ctx)`: nothing buffered yet. -/
def new (store : IndexStore) : Transaction :=
  ⟨store, []⟩

/-- `trx.IndexStore().Put(item)`, failing when the environment fails it. -/
def put (env : Env) (trx : Transaction) (item : Item) : Except GoError Transaction :=
  match env.putFault trx.pending.length with
  | some err => .error err
  | none => .ok { trx with pending := trx.pending ++ [item] }

/-- `trx.Commit()`: all buffered writes reach the committed store, or none does. -/
def commit (env : Env) (trx : Transaction) : Except GoError IndexStore :=
  match env.commitFault with
  | some err => .error err
  | none => .ok (GoMap.assignAll trx.base (trx.pending.map fun item => (item.key, item.value)))

end Transaction

end BeeTron.Storage
