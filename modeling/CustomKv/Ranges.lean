import CustomKv.Steps

/-!
# Range reads and their paging flag

Both kinds of transaction pass a `KeySelector` pair to the server as FoundationDB selectors with
`offset = 0` and `or_equal = !inclusive` for the begin, `or_equal = inclusive` for the end, "like
FDB". FoundationDB's first key at or after `k` is `(k, false, 1)` and its first key after `k` is
`(k, true, 1)`: with `offset = 0` each bound resolves one key earlier. `hasMore` is computed from
the `count` of the array after `kv_pair_array_free`, and, for the read-write transaction, from
`count ≠ 0 && count == limit`; the read-only one drops the `count ≠ 0`.
-/

namespace CustomKv

/-- The selector FoundationDB uses for the begin of a range: the first key at or after
`b.key`, or after it when the bound is exclusive. -/
def fdbBegin (b : KeySelector) : FdbSelector := ⟨b.key, if b.inclusive then 0 else 1, 1⟩

/-- The selector FoundationDB uses for the end of a range: the first key after `e.key`, or at
or after it when the bound is exclusive. -/
def fdbEnd (e : KeySelector) : FdbSelector := ⟨e.key, if e.inclusive then 1 else 0, 1⟩

theorem FdbSelector.below_le (sel : FdbSelector) (keys : List Bytes) :
    sel.below keys ≤ keys.length :=
  List.length_filter_le _ _

/-- A selector with offset `0` resolves one position before the same selector with offset `1`. -/
theorem FdbSelector.resolve_offset_zero (k : Bytes) (o : Int) (keys : List Bytes) :
    FdbSelector.resolve ⟨k, o, 0⟩ keys = FdbSelector.resolve ⟨k, o, 1⟩ keys - 1 := by
  have h := FdbSelector.below_le ⟨k, o, 0⟩ keys
  simp only [FdbSelector.resolve, FdbSelector.below] at h ⊢
  omega

theorem resolve_beginSelector (b : KeySelector) (keys : List Bytes) :
    (beginSelector b).resolve keys = (fdbBegin b).resolve keys - 1 :=
  FdbSelector.resolve_offset_zero _ _ _

theorem resolve_endSelector (e : KeySelector) (keys : List Bytes) :
    (endSelector e).resolve keys = (fdbEnd e).resolve keys - 1 :=
  FdbSelector.resolve_offset_zero _ _ _

/-- Keys `[97]` and `[98]`, committed by read-write transaction `0`. -/
def twoKeys : List Action :=
  [.rw 0 (.set [97] [1]), .rw 0 (.set [98] [2]), .rw 0 .commit]

/-- Both transactions read the range from `[98]` inclusive to `[99]` exclusive. -/
def rangeFromB : System :=
  (System.init .healthy (fun _ => 0) (fun _ => 0)).run
    (twoKeys ++ [.ro 0 (.snapshotGetRange ⟨[98], true⟩ ⟨[99], false⟩ 10),
      .rw 1 (.getRange ⟨[98], true⟩ ⟨[99], false⟩ 10)])

/-- Both return the pair of `[97]`, outside the range, and not the pair of `[98]`: each read
answers the store from one key before the position FoundationDB resolves the range to. -/
theorem getRange_returns_key_before_range :
    (rangeFromB.trace.drop 3).map (·.outcome) =
      [some (.ret (.range (.ok ⟨[⟨[97], [1]⟩], false⟩))),
        some (.ret (.range (.ok ⟨[⟨[97], [1]⟩], false⟩)))] := by
  have hs : ((System.init .healthy (fun _ => 0) (fun _ => 0)).run twoKeys).Inv :=
    System.Reachable.inv ⟨_, _, _, _, Env.healthy_healthy, rfl⟩
  have hs' := hs.step (.ro 0 (.snapshotGetRange ⟨[98], true⟩ ⟨[99], false⟩ 10))
  simp only [rangeFromB, System.run_append, System.run_cons, System.run_nil]
  rw [System.trace_step, System.trace_step, hs'.step_getRange (by decide),
    hs.step_ro_snapshotGetRange (by decide) (by decide)]
  simp only [Store.rangeRead, resolve_beginSelector, resolve_endSelector]
  decide

/-- Read-write transaction `1` reads a nonempty range with limits `0` and `10`; the read-only
transaction reads an empty range with the same limits. -/
def limitZero : System :=
  (System.init .healthy (fun _ => 0) (fun _ => 0)).run
    (twoKeys ++ [.rw 1 (.getRange ⟨[97], true⟩ ⟨[99], false⟩ 0),
      .rw 1 (.getRange ⟨[97], true⟩ ⟨[99], false⟩ 10),
      .ro 0 (.snapshotGetRange ⟨[100], true⟩ ⟨[101], false⟩ 0),
      .ro 0 (.snapshotGetRange ⟨[100], true⟩ ⟨[101], false⟩ 10)])

/-- With limit `0` the read-write transaction reports no more pairs of a range that has one,
and the read-only transaction reports more pairs of a range that has none. -/
theorem hasMore_wrong_at_limit_zero :
    (limitZero.trace.drop 3).map (·.outcome) =
      [some (.ret (.range (.ok ⟨[], false⟩))),
        some (.ret (.range (.ok ⟨[⟨[97], [1]⟩], false⟩))),
        some (.ret (.range (.ok ⟨[], true⟩))),
        some (.ret (.range (.ok ⟨[], false⟩)))] := by
  decide

end CustomKv
