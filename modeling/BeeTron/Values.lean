import Mathlib.Data.Finmap
import Mathlib.Data.List.Lex

namespace BeeTron

/-!
# Go values shared by the modelled packages

The modelled code passes around a small set of Go values: byte strings
(`string`), byte slices (`[]byte`), `error` values built by `errors.New` and
`fmt.Errorf` with `%w`, swarm overlay addresses, and built-in maps. This
module fixes one Lean representation for each of them.

A Go `string` is an immutable run of bytes with no encoding requirement, so it
is not a Lean `String`; its order is the bytewise lexicographic order Go's
`<` and the key-value stores use. A Go map is a Mathlib `Finmap`, equal to
another when both bind the same keys to the same values; the model identifies
a `nil` map with an empty one, which `reflect.DeepEqual` tells apart. The
order of `for key, value := range m` is left open by the language, so it is a
structure of its own, `GoMap.RangeOrder`, over which every statement about a
loop over a map quantifies.
-/

/-- A Go `string`: a run of bytes, not necessarily valid UTF-8. -/
structure GoString where
  bytes : List UInt8
  deriving DecidableEq, Repr

/-- Go orders strings bytewise, each byte as an unsigned number. -/
instance : LinearOrder GoString :=
  LinearOrder.lift' (fun text => text.bytes.map UInt8.toNat)
    (fun first second sameBytes => by
      cases first
      cases second
      simpa using
        List.map_injective_iff.mpr (fun _ _ same => UInt8.toNat.inj same) sameBytes)

/-- A Go `[]byte`: `nil`, or a slice holding some bytes (possibly none). -/
inductive ByteSlice where
  | nil
  | bytes (contents : List UInt8)
  deriving DecidableEq, Repr

/-- A Go `error` value as the modelled code builds and compares it. -/
inductive GoError where
  /-- The sentinel `name = errors.New(text)`; its identity is the variable. -/
  | new (name : String) (text : String)
  /-- `fmt.Errorf("context: %w", cause)`. -/
  | wrapped (context : String) (cause : GoError)
  deriving DecidableEq, Repr

namespace GoError

/-- The text `err.Error()` returns. -/
def error : GoError → String
  | new _ text => text
  | wrapped context cause => context ++ ": " ++ cause.error

/-- `errors.Is(err, target)`: `err` is `target` or wraps it. -/
def is (err target : GoError) : Bool :=
  err == target ||
    match err with
    | new .. => false
    | wrapped _ cause => cause.is target

/-- Every error is itself. -/
@[simp] theorem is_self (err : GoError) : err.is err := by
  cases err <;> simp [is]

/-- Wrapping keeps every error the cause already is. -/
@[simp] theorem is_wrapped
    {context : String} {cause target : GoError}
    (causeIs : cause.is target) :
    (wrapped context cause).is target := by
  simp [is, causeIs]

end GoError

/--
Why a Go call stops before its last statement: it returns a non-nil error, or
it panics. A call that returns `nil` is a successful `EStateM` run; the state
a halted run leaves keeps every write made before the halt, as Go does.
-/
inductive Halt where
  | error (err : GoError)
  | panic (message : String)
  deriving DecidableEq, Repr

/-- Go's `if err != nil { return err }` right after a call. -/
def orReturn {σ α : Type} : Except GoError α → EStateM Halt σ α
  | .error err => throw (.error err)
  | .ok value => pure value

@[simp] theorem throw_run {σ α : Type} (halt : Halt) (state : σ) :
    (throw halt : EStateM Halt σ α).run state = .error halt state :=
  rfl

@[simp] theorem map_throw_run {σ α β : Type} (f : α → β) (halt : Halt) (state : σ) :
    (f <$> (throw halt : EStateM Halt σ α)).run state = .error halt state :=
  rfl

@[simp] theorem pure_run {σ α : Type} (value : α) (state : σ) :
    (pure value : EStateM Halt σ α).run state = .ok value state :=
  rfl

@[simp] theorem ite_run {σ α : Type} (condition : Prop) [Decidable condition]
    (onTrue onFalse : EStateM Halt σ α) (state : σ) :
    (if condition then onTrue else onFalse).run state =
      if condition then onTrue.run state else onFalse.run state := by
  split <;> rfl

@[simp] theorem orReturn_ok_run {σ α : Type} (value : α) (state : σ) :
    (orReturn (.ok value)).run state = .ok value state :=
  rfl

@[simp] theorem orReturn_error_run {σ α : Type} (err : GoError) (state : σ) :
    (orReturn (α := α) (.error err)).run state = .error (.error err) state :=
  rfl

/-- `errors.Join(errs...)`: `nil` when every error is `nil`, else the non-nil errors joined. -/
def join (errs : List (Option GoError)) : Option (List GoError) :=
  match errs.filterMap id with
  | [] => none
  | err :: rest => some (err :: rest)

/-- The joined error is `nil` exactly when every error joined is `nil`. -/
theorem join_eq_none {errs : List (Option GoError)} :
    join errs = none ↔ ∀ err ∈ errs, err = none := by
  have joinedNothing : join errs = none ↔ errs.filterMap id = [] := by
    unfold join
    split
    · rename_i noErrors
      simp [noErrors]
    · rename_i someErrors
      simp [someErrors]
  simpa using joinedNothing

/-- The state a run ends in, whether it returned or halted. -/
def finalState {σ α : Type} : EStateM.Result Halt σ α → σ
  | .ok _ state => state
  | .error _ state => state

@[simp] theorem finalState_ok {σ α : Type} (value : α) (state : σ) :
    finalState (.ok value state : EStateM.Result Halt σ α) = state :=
  rfl

@[simp] theorem finalState_error {σ α : Type} (halt : Halt) (state : σ) :
    finalState (.error halt state : EStateM.Result Halt σ α) = state :=
  rfl

/-- Running two steps in sequence runs the first, then the second from where it stopped. -/
theorem run_bind {σ α β : Type} (first : EStateM Halt σ α) (next : α → EStateM Halt σ β)
    (state : σ) :
    (first >>= next).run state =
      match first.run state with
      | .ok value after => (next value).run after
      | .error halt after => .error halt after := by
  show EStateM.bind first next state = _
  unfold EStateM.bind EStateM.run
  cases first state <;> rfl

/-- A sequence that returned ran its first step to a value, and the rest from where it stopped. -/
theorem run_bind_eq_ok {σ α β : Type} {first : EStateM Halt σ α} {next : α → EStateM Halt σ β}
    {state after : σ} {value : β} (returned : (first >>= next).run state = .ok value after) :
    ∃ firstValue middle, first.run state = .ok firstValue middle ∧
      (next firstValue).run middle = .ok value after := by
  rw [run_bind] at returned
  split at returned
  · exact ⟨_, _, ‹_›, returned⟩
  · cases returned

/-- A sequence that halted halted in its first step, or in the rest after the first step returned. -/
theorem run_bind_eq_error {σ α β : Type} {first : EStateM Halt σ α} {next : α → EStateM Halt σ β}
    {state after : σ} {halt : Halt} (halted : (first >>= next).run state = .error halt after) :
    first.run state = .error halt after ∨ ∃ firstValue middle,
      first.run state = .ok firstValue middle ∧ (next firstValue).run middle = .error halt after := by
  rw [run_bind] at halted
  split at halted
  · exact .inr ⟨_, _, ‹_›, halted⟩
  · cases halted
    exact .inl ‹_›

/-- A `swarm.Address`: the overlay address of a peer or a chunk. -/
structure SwarmAddress where
  b : List UInt8
  deriving DecidableEq, Repr

/-- `swarm.NewAddress(b)`. -/
def SwarmAddress.newAddress (b : List UInt8) : SwarmAddress :=
  ⟨b⟩

/-- `a.ByteString()`: the address bytes as a Go string. -/
def SwarmAddress.byteString (address : SwarmAddress) : GoString :=
  ⟨address.b⟩

/-- Distinct addresses have distinct byte strings. -/
theorem SwarmAddress.byteString_injective : Function.Injective byteString := by
  rintro ⟨a⟩ ⟨b⟩ same
  simpa [byteString] using same

/-- `a.IsZero()`: `a.Equal(swarm.ZeroAddress)`, where `ZeroAddress` is `NewAddress(nil)`. -/
def SwarmAddress.isZero (address : SwarmAddress) : Bool :=
  address.b.isEmpty

/-- The only zero address is the address of no bytes. -/
theorem SwarmAddress.eq_of_isZero {address : SwarmAddress} (zero : address.isZero = true) :
    address = ⟨[]⟩ := by
  cases address
  simpa [isZero] using zero

/-- `swarm.NewAddress([]byte(id)).ByteString()` is `id` again. -/
@[simp] theorem SwarmAddress.byteString_newAddress (id : GoString) :
    (newAddress id.bytes).byteString = id :=
  rfl

/-- A Go `map[K]V` value. -/
abbrev GoMap (K V : Type) :=
  Finmap fun _ : K => V

namespace GoMap

variable {K V : Type}

/-- One map entry as the `Finmap` stores it. -/
def entry (pair : K × V) : Σ _ : K, V :=
  ⟨pair.1, pair.2⟩

/--
One order in which `for key, value := range m` visits `m`: every entry of the
map exactly once.
-/
structure RangeOrder (m : GoMap K V) where
  entries : List (K × V)
  enumerates : (entries.map entry : Multiset (Σ _ : K, V)) = m.entries

/-- The keys of a range order are pairwise distinct, as the map's keys are. -/
theorem RangeOrder.keys_nodup {m : GoMap K V} (order : RangeOrder m) :
    (order.entries.map Prod.fst).Nodup := by
  have distinct := m.nodupKeys
  rw [← order.enumerates, Multiset.coe_nodupKeys] at distinct
  simpa [List.NodupKeys, List.keys, entry] using distinct

/-- Any two range orders of one map visit the same entries. -/
theorem RangeOrder.perm {m : GoMap K V} (first second : RangeOrder m) :
    first.entries.Perm second.entries := by
  have sameEntries :
      (first.entries.map entry).Perm (second.entries.map entry) :=
    Quotient.exact (first.enumerates.trans second.enumerates.symm)
  simpa [List.map_map, Function.comp_def, entry] using
    sameEntries.map fun stored => (stored.1, stored.2)

/-- Every map has a range order, so a statement over all of them is not vacuous. -/
theorem RangeOrder.nonempty (m : GoMap K V) : Nonempty (RangeOrder m) := by
  obtain ⟨stored, isEntries⟩ := Quotient.exists_rep m.entries
  refine ⟨⟨stored.map fun entry => (entry.1, entry.2), ?_⟩⟩
  simpa [List.map_map, Function.comp_def, entry] using isEntries

/--
A map as one `range` statement sees it: the map a call returned, and the order
the statement ranging over it visits it in.
-/
structure Ranged (K V : Type) where
  map : GoMap K V
  order : RangeOrder map

variable [DecidableEq K]

/-- A range order visits exactly the map's entries. -/
theorem RangeOrder.mem_entries {m : GoMap K V} (order : RangeOrder m) {key : K} {value : V} :
    (key, value) ∈ order.entries ↔ m.lookup key = some value := by
  rw [Finmap.lookup_eq_some_iff, ← order.enumerates, Multiset.mem_coe]
  constructor
  · exact fun member => List.mem_map_of_mem entry member
  · intro member
    obtain ⟨pair, inOrder, same⟩ := List.mem_map.mp member
    cases same
    exact inOrder

/-- The loop `for _, e := range pairs { m[e.key] = e.value }`: later pairs overwrite. -/
def assignAll (m : GoMap K V) (pairs : List (K × V)) : GoMap K V :=
  pairs.foldl (fun assigned pair => assigned.insert pair.1 pair.2) m

@[simp] theorem assignAll_nil (m : GoMap K V) :
    assignAll m [] = m :=
  rfl

@[simp] theorem assignAll_cons (m : GoMap K V) (pair : K × V) (pairs : List (K × V)) :
    assignAll m (pair :: pairs) = assignAll (m.insert pair.1 pair.2) pairs :=
  rfl

/-- Assigning a list of pairs leaves every key outside the list as it was. -/
theorem lookup_assignAll_of_not_mem
    {m : GoMap K V} {pairs : List (K × V)} {key : K}
    (absent : key ∉ pairs.map Prod.fst) :
    (assignAll m pairs).lookup key = m.lookup key := by
  induction pairs generalizing m with
  | nil =>
      rfl
  | cons pair rest inductionHypothesis =>
      simp only [List.map_cons, List.mem_cons, not_or] at absent
      rw [assignAll_cons, inductionHypothesis absent.2,
        Finmap.lookup_insert_of_ne _ absent.1]

/-- With pairwise distinct keys, every assigned pair is found afterwards. -/
theorem lookup_assignAll_of_mem
    {m : GoMap K V} {pairs : List (K × V)} {key : K} {value : V}
    (distinct : (pairs.map Prod.fst).Nodup)
    (member : (key, value) ∈ pairs) :
    (assignAll m pairs).lookup key = some value := by
  induction pairs generalizing m with
  | nil =>
      cases member
  | cons pair rest inductionHypothesis =>
      rw [List.map_cons, List.nodup_cons] at distinct
      rcases List.mem_cons.mp member with isHead | inRest
      · subst isHead
        rw [assignAll_cons, lookup_assignAll_of_not_mem distinct.1,
          Finmap.lookup_insert]
      · exact inductionHypothesis distinct.2 inRest

/-- Later assignments overwrite earlier ones: a key holds the value of the last pair assigning it. -/
theorem lookup_assignAll (m : GoMap K V) (pairs : List (K × V)) (key : K) :
    (assignAll m pairs).lookup key =
      ((pairs.reverse.find? fun pair => pair.1 = key).map Prod.snd).or (m.lookup key) := by
  induction pairs generalizing m with
  | nil => simp
  | cons pair rest inductionHypothesis =>
      rw [assignAll_cons, inductionHypothesis, List.reverse_cons, List.find?_append]
      by_cases assigned : pair.1 = key
      · subst assigned
        rw [Finmap.lookup_insert]
        cases rest.reverse.find? fun later => later.1 = pair.1 <;> simp
      · simp [assigned, Finmap.lookup_insert_of_ne _ (Ne.symm assigned)]

/-- After the assignment, the map holds the assigned keys and the keys it held. -/
theorem mem_assignAll {m : GoMap K V} {pairs : List (K × V)} {key : K} :
    key ∈ assignAll m pairs ↔ key ∈ pairs.map Prod.fst ∨ key ∈ m := by
  induction pairs generalizing m with
  | nil => simp
  | cons pair rest inductionHypothesis =>
      rw [assignAll_cons, inductionHypothesis, Finmap.mem_insert]
      simp only [List.map_cons, List.mem_cons]
      tauto

/-- A key the assignment gave a value holds the value of a pair assigning it. -/
theorem mem_of_lookup_assignAll {pairs : List (K × V)} {key : K} {value : V}
    (found : (assignAll ∅ pairs).lookup key = some value) : (key, value) ∈ pairs := by
  rw [lookup_assignAll, Finmap.lookup_empty, Option.or_none] at found
  obtain ⟨pair, last, rfl⟩ := Option.map_eq_some'.mp found
  have assigned : pair.1 = key := by simpa using List.find?_some last
  rw [← List.mem_reverse, ← assigned]
  exact List.mem_of_find?_eq_some last

/-- Assigning transformed values finds the transformed value of what the plain assignment finds. -/
theorem lookup_assignAll_map {W : Type} (f : V → W) (pairs : List (K × V)) (key : K) :
    (assignAll ∅ (pairs.map fun pair => (pair.1, f pair.2))).lookup key =
      ((assignAll ∅ pairs).lookup key).map f := by
  simp only [lookup_assignAll, ← List.map_reverse, List.find?_map, Finmap.lookup_empty,
    Option.or_none, Option.map_map]
  rfl

/--
Assigning fresh, pairwise distinct keys adds exactly the assigned entries to
the map.
-/
theorem entries_assignAll
    {m : GoMap K V} {pairs : List (K × V)}
    (distinct : (pairs.map Prod.fst).Nodup)
    (fresh : ∀ pair ∈ pairs, pair.1 ∉ m) :
    (assignAll m pairs).entries = (pairs.map entry : Multiset _) + m.entries := by
  induction pairs generalizing m with
  | nil =>
      simp
  | cons pair rest inductionHypothesis =>
      rw [List.map_cons, List.nodup_cons] at distinct
      have restFresh : ∀ later ∈ rest, later.1 ∉ m.insert pair.1 pair.2 := by
        intro later member
        rw [Finmap.mem_insert, not_or]
        exact ⟨fun same => distinct.1 (same ▸ List.mem_map_of_mem _ member),
          fresh later (List.mem_cons_of_mem _ member)⟩
      rw [assignAll_cons, inductionHypothesis distinct.2 restFresh,
        Finmap.insert_entries_of_neg (fresh pair (List.mem_cons_self _ _)),
        Multiset.add_cons, List.map_cons, ← Multiset.cons_coe, Multiset.cons_add]
      rfl

/-- Assigning the entries of a map, in any range order, rebuilds the map. -/
theorem assignAll_rangeOrder {m : GoMap K V} (order : RangeOrder m) :
    assignAll ∅ order.entries = m :=
  Finmap.ext (by
    rw [entries_assignAll order.keys_nodup (fun _ _ => Finmap.not_mem_empty),
      order.enumerates]
    exact add_zero _)

end GoMap

/-! A Go slice is a list; the assignment `s[index] = new` is `List.set`. -/

/-- Setting an element the function cannot tell from the old one leaves the mapped list alone. -/
theorem map_set_of_getElem? {α β : Type} {l : List α} {index : Nat} {old new : α} (f : α → β)
    (found : l[index]? = some old) (same : f new = f old) :
    (l.set index new).map f = l.map f := by
  obtain ⟨inBounds, rfl⟩ := List.getElem?_eq_some_iff.mp found
  apply List.ext_getElem?
  intro position
  by_cases here : index = position
  · subst here
    simp [List.getElem?_set, same, inBounds]
  · simp [List.getElem?_set_ne here]

/--
Up to order, filtering a list takes the element at an index on its own, and
setting that index only exchanges what that element contributes.
-/
theorem filterMap_set_perm {α β : Type} {l : List α} {index : Nat} {old : α} (new : α)
    (f : α → Option β) {before after : Option β} (found : l[index]? = some old)
    (oldGives : f old = before) (newGives : f new = after) :
    (l.filterMap f).Perm (before.toList ++ (l.eraseIdx index).filterMap f) ∧
      ((l.set index new).filterMap f).Perm (after.toList ++ (l.eraseIdx index).filterMap f) := by
  have middle : ∀ x, ((l.take index ++ x :: l.drop (index + 1)).filterMap f).Perm
      ((f x).toList ++ (l.eraseIdx index).filterMap f) := by
    intro x
    rw [List.eraseIdx_eq_take_drop_succ]
    cases fresh : f x <;> simp [List.filterMap_append, List.filterMap_cons, fresh, List.perm_middle]
  obtain ⟨inBounds, rfl⟩ := List.getElem?_eq_some_iff.mp found
  subst oldGives newGives
  constructor
  · conv => lhs; rw [← List.take_append_drop index l, ← List.getElem_cons_drop l index inBounds]
    exact middle _
  · rw [List.set_eq_take_append_cons_drop, if_pos inBounds]
    exact middle new

end BeeTron
