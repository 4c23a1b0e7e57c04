import CustomKv.Server.Store

/-!
# Key selectors and range reads

`kv_transaction_get_range` and `kv_read_transaction_get_range` take each bound of a range as
a FoundationDB key selector `(key, or_equal, offset)`. The server resolves a selector to a
position among the sorted keys of the store it reads: the last key below `key` (at or below it
when `or_equal` is set), moved `offset` keys forward, kept within the store. A range read
returns the pairs from the resolved begin up to, not including, the resolved end, at most
`limit` of them.
-/

namespace CustomKv

/-- Modelled from the spec: a key selector as the C API receives it. -/
structure FdbSelector where
  key : Bytes
  orEqual : Int
  offset : Int
deriving DecidableEq, Repr

/-- The number of keys below the selector's key (at or below it when `orEqual` is set). -/
def FdbSelector.below (sel : FdbSelector) (keys : List Bytes) : Nat :=
  (keys.filter fun k => if sel.orEqual ≠ 0 then k ≤ sel.key else k < sel.key).length

/-- Modelled from the spec: the position a selector resolves to, FoundationDB style. The last key
below is at `below - 1`; an offset of `1` moves to the first key past it. -/
def FdbSelector.resolve (sel : FdbSelector) (keys : List Bytes) : Nat :=
  min ((sel.below keys : Int) - 1 + sel.offset).toNat keys.length

namespace Store

def keys (s : Store) : List Bytes := s.entries.map (·.1)

/-- Modelled from the spec: the pairs a range read returns, the first `limit` of those between
the resolved selectors (a negative limit returns none). -/
def rangeRead (s : Store) (b e : FdbSelector) (limit : Int) : List (Bytes × Bytes) :=
  let i := b.resolve s.keys
  let j := e.resolve s.keys
  ((s.entries.drop i).take (j - i)).take limit.toNat

theorem rangeRead_sublist (s : Store) (b e : FdbSelector) (limit : Int) :
    (s.rangeRead b e limit).Sublist s.entries :=
  ((List.take_sublist _ _).trans (List.take_sublist _ _)).trans (List.drop_sublist _ _)

/-- A range read returns keys in strictly ascending order. -/
theorem rangeRead_sorted (s : Store) (b e : FdbSelector) (limit : Int) :
    Sorted (s.rangeRead b e limit) :=
  s.sorted.sublist (s.rangeRead_sublist b e limit)

theorem length_rangeRead_le (s : Store) (b e : FdbSelector) (limit : Int) :
    (s.rangeRead b e limit).length ≤ limit.toNat :=
  List.length_take_le _ _

end Store

end CustomKv
