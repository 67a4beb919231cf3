import BeeTron.Values

namespace BeeTron.Libp2p

/-!
# Header exchange on libp2p streams

`sendHeaders` and `handleHeaders` exchange one `pb.Headers` message in each
direction when a stream opens. The two converters between the Go map
`p2p.Headers` and the protobuf list are the only computation on the way:
`headersP2PToPB` ranges over the map, in an order the Go runtime picks, and
`headersPBToP2P` assigns the list back into a fresh map, later entries
overwriting earlier ones.

The round trip through both converters is the identity on maps, for every
range order. In the other direction it permutes every list whose keys are
pairwise distinct, which are the only lists `headersP2PToPB` produces.
-/

/-- `p2p.Headers`: header names mapped to raw values. -/
abbrev Headers :=
  GoMap GoString ByteSlice

/-- `pb.Header`: one header as a protobuf message field. -/
structure Header where
  key : GoString
  value : ByteSlice
  deriving DecidableEq, Repr

/-- `pb.Headers`: the message each side writes on the stream. -/
structure PbHeaders where
  headers : List Header
  deriving DecidableEq, Repr

/-- The key and value of a header, as the pair a map assignment takes. -/
def Header.pair (header : Header) : GoString × ByteSlice :=
  (header.key, header.value)

/-- `headersPBToP2P(h)`. -/
def headersPBToP2P (h : PbHeaders) : Headers :=
  h.headers.foldl (fun p2ph rh => p2ph.insert rh.key rh.value) ∅

/-- `headersP2PToPB(h)`, ranging over `h` in the order `order`. -/
def headersP2PToPB (h : Headers) (order : GoMap.RangeOrder h) : PbHeaders :=
  ⟨order.entries.map fun pair => ⟨pair.1, pair.2⟩⟩

/-- `headersPBToP2P` is the map assignment loop over the header pairs. -/
theorem headersPBToP2P_eq_assignAll (h : PbHeaders) :
    headersPBToP2P h = GoMap.assignAll ∅ (h.headers.map Header.pair) := by
  simp [headersPBToP2P, GoMap.assignAll, List.foldl_map, Header.pair]

/-- The headers `headersP2PToPB` writes are the visited entries, in order. -/
@[simp] theorem headersP2PToPB_pairs (h : Headers) (order : GoMap.RangeOrder h) :
    (headersP2PToPB h order).headers.map Header.pair = order.entries := by
  simp [headersP2PToPB, Header.pair, Function.comp_def]

/-- The map a header list converts back to is the map it was ranged from. -/
@[simp] theorem headersPBToP2P_headersP2PToPB (h : Headers) (order : GoMap.RangeOrder h) :
    headersPBToP2P (headersP2PToPB h order) = h := by
  rw [headersPBToP2P_eq_assignAll, headersP2PToPB_pairs, GoMap.assignAll_rangeOrder]

/--
A header list with pairwise distinct keys is a range order of the map
`headersPBToP2P` builds from it.
-/
def rangeOrderOfDistinct (l : PbHeaders)
    (distinct : (l.headers.map Header.key).Nodup) :
    GoMap.RangeOrder (headersPBToP2P l) where
  entries := l.headers.map Header.pair
  enumerates := by
    have pairKeys : ((l.headers.map Header.pair).map Prod.fst).Nodup := by
      simpa [List.map_map, Function.comp_def, Header.pair] using distinct
    rw [headersPBToP2P_eq_assignAll,
      GoMap.entries_assignAll pairKeys (fun _ _ => Finmap.not_mem_empty)]
    exact (add_zero _).symm

/--
Converting a header map to the protobuf list and back gives the map again,
whatever order the range loop takes; converting a list with distinct keys to
the map and back gives a permutation of the list.
-/
theorem headers_roundTrip :
    (∀ (h : Headers) (order : GoMap.RangeOrder h),
      headersPBToP2P (headersP2PToPB h order) = h) ∧
    (∀ l : PbHeaders, (l.headers.map Header.key).Nodup →
      ∀ order : GoMap.RangeOrder (headersPBToP2P l),
        (headersP2PToPB (headersPBToP2P l) order).headers.Perm l.headers) := by
  refine ⟨headersPBToP2P_headersP2PToPB, ?_⟩
  intro l distinct order
  have visited := (order.perm (rangeOrderOfDistinct l distinct)).map
    fun pair => (⟨pair.1, pair.2⟩ : Header)
  simpa [headersP2PToPB, rangeOrderOfDistinct, List.map_map,
    Function.comp_def, Header.pair] using visited

/--
The list case of the round trip applies: a header with a `nil` value and one
with an empty value, under distinct keys, come back as a permutation.
-/
theorem headers_roundTrip_nilAndEmpty :
    (([⟨⟨[104]⟩, .nil⟩, ⟨⟨[105]⟩, .bytes []⟩] : List Header).map Header.key).Nodup ∧
      (headersP2PToPB _ (rangeOrderOfDistinct ⟨[⟨⟨[104]⟩, .nil⟩, ⟨⟨[105]⟩, .bytes []⟩]⟩
          (by decide))).headers.Perm
        [⟨⟨[104]⟩, .nil⟩, ⟨⟨[105]⟩, .bytes []⟩] :=
  ⟨by decide, headers_roundTrip.2 ⟨_⟩ (by decide) _⟩

end BeeTron.Libp2p
