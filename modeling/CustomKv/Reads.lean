import CustomKv.Steps

/-!
# What the reads of a transaction return

`get` of a read-write transaction reads its own server transaction: its last pending `set` or
`clear` of the key, or else the key in its snapshot. `snapshotGet` opens a read transaction of
its own at `read_version_.value_or(0)`: it never sees the transaction's pending writes, and
without a read version it reads the latest committed store. `snapshotGetRange` is `getRange`.
The read-only `get` and `getRange` are placeholders that answer empty whatever the store holds,
and each read-only `snapshotGet` without a read version reads the latest store of its own
moment, so two of them around a commit read different stores. A point read whose request fails,
in the client library or at the server, answers `ok(nullopt)`, as for a key that is not there.
-/

namespace CustomKv

/-- The last pending `set` or `clear` of `k` among a transaction's mutations: `some (some v)` for
a set to `v`, `some none` for a clear, and `none` if there is none. -/
def pendingWrite (ms : List Mutation) (k : Bytes) : Option (Option Bytes) :=
  ((ms.filterMap Mutation.ownWrite).reverse.find? (·.1 = k)).map (·.2)

/-- A transaction's view of a key: its last pending write of the key, or else its snapshot. -/
theorem KvServer.view_get (srv : KvServer) (st : ServerTxn) (k : Bytes) :
    (srv.view st).get k =
      (pendingWrite st.mutations k).getD ((srv.snapshot st.readVersion).get k) :=
  Store.get_writeAll _ _ _

namespace System

variable {s : System} {i : Nat}

/-- `snapshotGetRange` of a read-write transaction is its `getRange`. -/
theorem lastOutcome_step_snapshotGetRange (b e : KeySelector) (l : Int) :
    (s.step (.rw i (.snapshotGetRange b e l))).lastOutcome =
      (s.step (.rw i (.getRange b e l))).lastOutcome := by
  simp only [lastOutcome_step_rw, RwCall.run, CustomTransaction.snapshotGetRange]

/-- Each `snapshotGet` of a read-only transaction without a read version reads the latest
committed store of its own moment. -/
theorem Inv.step_ro_snapshotGet_latest (hs : s.Inv) {j : Nat} (hc : (s.ro j).cancelled = false)
    (hr : (s.ro j).isReset = false) (hv : (s.ro j).readVersion = none) (k : Bytes) :
    (s.step (.ro j (.snapshotGet k))).lastOutcome =
      some (.ret (.value (.ok ((s.world.server.snapshot s.world.server.latest).get k)))) := by
  rw [hs.step_ro_snapshotGet hc hr, hv]
  rfl

end System

open System in
theorem get_reads_pending_writes_snapshotGet_does_not {s : System} {i : Nat} (hs : s.Reachable)
    (hf : (s.rw i).finished = false) (k : Bytes) (b e : KeySelector) (l : Int) :
    (s.step (.rw i (.get k))).lastOutcome = some (.ret (.value (.ok
      ((pendingWrite (writesOf i s.trace) k).getD
        ((s.world.server.snapshot (s.snapshotVersion i)).get k))))) ∧
    (s.step (.rw i (.snapshotGet k))).lastOutcome = some (.ret (.value (.ok
      ((s.world.server.snapshot (s.world.server.readVersionAt ((s.rw i).readVersion.getD 0))).get
        k)))) ∧
    (s.step (.rw i (.snapshotGetRange b e l))).lastOutcome =
      (s.step (.rw i (.getRange b e l))).lastOutcome ∧
    ∃ more, (s.step (.rw i (.getRange b e l))).lastOutcome = some (.ret (.range (.ok
      ⟨(KvPairArray.ofPairs ((s.world.server.view (s.serverTxn i)).rangeRead (beginSelector b)
        (endSelector e) l)).keyValues, more⟩))) := by
  have hi := hs.inv
  refine ⟨?_, hi.step_snapshotGet hf k, lastOutcome_step_snapshotGetRange b e l,
    ⟨_, hi.step_getRange hf b e l⟩⟩
  rw [hi.step_get hf k, KvServer.view_get]
  rfl

/-- Transaction `0` has set `[1]` to `[2]` and not committed. -/
def pendingSet : System :=
  (System.init .healthy (fun _ => 0) (fun _ => 0)).run [.rw 0 (.set [1] [2])]

open System in
theorem pendingSet_reads :
    pendingSet.Reachable ∧ (pendingSet.rw 0).finished = false ∧
    (pendingSet.step (.rw 0 (.get [1]))).lastOutcome = some (.ret (.value (.ok
      ((pendingWrite (writesOf 0 pendingSet.trace) [1]).getD
        ((pendingSet.world.server.snapshot (pendingSet.snapshotVersion 0)).get [1]))))) ∧
    (pendingSet.step (.rw 0 (.snapshotGet [1]))).lastOutcome = some (.ret (.value (.ok
      ((pendingSet.world.server.snapshot
        (pendingSet.world.server.readVersionAt ((pendingSet.rw 0).readVersion.getD 0))).get
          [1])))) ∧
    (pendingSet.step (.rw 0 (.snapshotGetRange ⟨[0], true⟩ ⟨[9], false⟩ 5))).lastOutcome =
      (pendingSet.step (.rw 0 (.getRange ⟨[0], true⟩ ⟨[9], false⟩ 5))).lastOutcome ∧
    ∃ more,
      (pendingSet.step (.rw 0 (.getRange ⟨[0], true⟩ ⟨[9], false⟩ 5))).lastOutcome =
        some (.ret (.range (.ok ⟨(KvPairArray.ofPairs ((pendingSet.world.server.view
          (pendingSet.serverTxn 0)).rangeRead (beginSelector ⟨[0], true⟩)
            (endSelector ⟨[9], false⟩) 5)).keyValues, more⟩))) :=
  have h : pendingSet.Reachable := ⟨_, _, _, _, Env.healthy_healthy, rfl⟩
  ⟨h, by decide,
    get_reads_pending_writes_snapshotGet_does_not h (by decide) [1] ⟨[0], true⟩ ⟨[9], false⟩
      5⟩

/-- `get` sees the pending set and `snapshotGet` does not. -/
theorem get_and_snapshotGet_differ :
    (pendingSet.step (.rw 0 (.get [1]))).lastOutcome = some (.ret (.value (.ok (some [2])))) ∧
    (pendingSet.step (.rw 0 (.snapshotGet [1]))).lastOutcome = some (.ret (.value (.ok none))) := by
  decide

/-- Read-only transaction `0` reads `[1]`; transaction `0` sets `[1]` to `[5]` and commits; the
read-only transaction reads `[1]` again. -/
def rereadAfterCommit : System :=
  (System.init .healthy (fun _ => 0) (fun _ => 0)).run
    [.ro 0 (.snapshotGet [1]), .rw 0 (.set [1] [5]), .rw 0 .commit, .ro 0 (.snapshotGet [1])]

theorem snapshotGet_not_repeatable :
    rereadAfterCommit.trace.map (·.outcome) =
      [some (.ret (.value (.ok none))), some (.ret (.unit (.ok ()))),
        some (.ret (.unit (.ok ()))), some (.ret (.value (.ok (some [5]))))] := by
  have hs : ((System.init .healthy (fun _ => 0) (fun _ => 0)).run
      [.ro 0 (.snapshotGet [1]), .rw 0 (.set [1] [5]), .rw 0 .commit]).Inv :=
    System.Reachable.inv ⟨_, _, _, _, Env.healthy_healthy, rfl⟩
  simp only [System.run_cons, System.run_nil] at hs
  simp only [rereadAfterCommit, System.run_cons, System.run_nil]
  rw [System.trace_step, hs.step_ro_snapshotGet_latest (by decide) (by decide) (by decide)]
  decide

/-- **A failed read looks like an absent key.** `get` of a read-write transaction whose request
fails, in the client library or at the server (a handle it does not hold), and `snapshotGet` of
either kind whose read fails after its read transaction began, all answer `ok(nullopt)`. -/
theorem failed_point_read_answers_absent {t t' : CustomTransaction}
    {u : CustomReadOnlyTransaction} {w w' : World} {code : KvErrorCode}
    {message : Option String} (k : Bytes)
    (ht : t.finished = false ∧ t.transactionHandle ≠ 0)
    (hw : w.env.poll w.issued ≠ -1 ∧ (w.env.fault w.issued = some (code, message) ∨
      w.env.fault w.issued = none ∧ w.server.txns t.transactionHandle = none))
    (ht' : t'.finished = false ∧ t'.clientHandle = true)
    (hu : u.cancelled = false ∧ u.isReset = false ∧ u.clientHandle = true)
    (hw' : w'.env.poll w'.issued ≠ -1 ∧ w'.env.poll (w'.issued + 1) ≠ -1 ∧
      w'.env.fault w'.issued = none ∧ w'.env.fault (w'.issued + 1) = some (code, message)) :
    (CustomTransaction.get k (t, w)).1 = .ret (.ok none) ∧
      (CustomTransaction.snapshotGet k (t', w')).1 = .ret (.ok none) ∧
      (CustomReadOnlyTransaction.snapshotGet k (u, w')).1 = .ret (.ok none) := by
  obtain ⟨hp, hp', hb, he⟩ := hw'
  refine ⟨?_, CustomTransaction.snapshotGet_of_fault ht'.1 ht'.2 hp hp' hb he k,
    CustomReadOnlyTransaction.snapshotGet_of_fault hu.1 hu.2.1 hu.2.2 hp hp' hb he k⟩
  rcases hw.2 with hf | ⟨hf, hn⟩
  · exact CustomTransaction.get_of_fault ht.1 ht.2 hw.1 hf k
  · exact CustomTransaction.get_of_not_found ht.1 ht.2 hw.1 hf hn k

/-- A client library whose futures are all ready and whose request number `n` fails with
`KV_ERROR_TRANSACTION_TIMEOUT`. -/
def Env.failingAt (n : Nat) : Env :=
  ⟨fun _ => 1, fun m => if m = n then some (.transactionTimeout, none) else none, id⟩

/-- The `get` of a transaction open on handle `1` fails as the first request; the read of
`snapshotGet` fails as the second, after its read transaction began. -/
theorem timed_out_reads_answer_absent :
    ((CustomTransaction.create true).finished = false ∧ (1 : Nat) ≠ 0) ∧
      ((World.init (.failingAt 0) 0).env.poll 0 ≠ -1 ∧
        ((World.init (.failingAt 0) 0).env.fault 0 = some (.transactionTimeout, none) ∨
          (World.init (.failingAt 0) 0).env.fault 0 = none ∧
            (World.init (.failingAt 0) 0).server.txns 1 = none)) ∧
      ((CustomTransaction.create true).finished = false ∧
        (CustomTransaction.create true).clientHandle = true) ∧
      ((CustomReadOnlyTransaction.create true).cancelled = false ∧
        (CustomReadOnlyTransaction.create true).isReset = false ∧
        (CustomReadOnlyTransaction.create true).clientHandle = true) ∧
      ((World.init (.failingAt 1) 0).env.poll 0 ≠ -1 ∧
        (World.init (.failingAt 1) 0).env.poll 1 ≠ -1 ∧
        (World.init (.failingAt 1) 0).env.fault 0 = none ∧
        (World.init (.failingAt 1) 0).env.fault 1 = some (.transactionTimeout, none)) ∧
      (CustomTransaction.get [1]
          ({ CustomTransaction.create true with transactionHandle := 1 },
            World.init (.failingAt 0) 0)).1 = .ret (.ok none) ∧
        (CustomTransaction.snapshotGet [1]
          (CustomTransaction.create true, World.init (.failingAt 1) 0)).1 = .ret (.ok none) ∧
        (CustomReadOnlyTransaction.snapshotGet [1]
          (CustomReadOnlyTransaction.create true, World.init (.failingAt 1) 0)).1 =
          .ret (.ok none) := by
  refine ⟨⟨rfl, by decide⟩, ⟨by decide, .inl rfl⟩, ⟨rfl, rfl⟩, ⟨rfl, rfl, rfl⟩,
    ⟨by decide, by decide, rfl, rfl⟩, ?_⟩
  exact failed_point_read_answers_absent [1] ⟨rfl, by decide⟩ ⟨by decide, .inl rfl⟩ ⟨rfl, rfl⟩
    ⟨rfl, rfl, rfl⟩ ⟨by decide, by decide, rfl, rfl⟩

/-- A range answer a store can give: bindings of the store, in strictly ascending key order, at
most `limit` of them. -/
def Store.Answers (st : Store) (limit : Int) (kvs : List KeyValue) : Prop :=
  (kvs.map (·.key)).Pairwise (· < ·) ∧ (∀ kv ∈ kvs, st.get kv.key = some kv.value) ∧
    kvs.length ≤ limit.toNat

/-- The pairs the wrapper copies out of the array of a range read answer for the store read. -/
theorem Store.answers_rangeRead (st : Store) (b e : FdbSelector) (l : Int) :
    st.Answers l (KvPairArray.ofPairs (st.rangeRead b e l)).keyValues := by
  simp only [Answers, KvPairArray.keyValues, KvPairArray.ofPairs, List.take_length, List.map_map,
    List.pairwise_map, List.length_map, List.forall_mem_map]
  exact ⟨st.rangeRead_sorted b e l, fun p hp => lookupEntry_of_mem st.sorted
    ((st.rangeRead_sublist b e l).subset hp), st.length_rangeRead_le b e l⟩

/-- **Range reads answer from the store they read.** In every reachable state of a healthy run,
`getRange` of a read-write transaction that is not finished and `snapshotGetRange` of a read-only
transaction neither cancelled nor reset return bindings of the store they read, in strictly
ascending key order, at most `limit` of them: the transaction's view, and the store at
`read_version_.value_or(0)`. -/
theorem range_reads_answer_from_store {s : System} (hs : s.Reachable) {i j : Nat}
    (hf : (s.rw i).finished = false) (hc : (s.ro j).cancelled = false)
    (hr : (s.ro j).isReset = false) (b e : KeySelector) (l : Int) :
    (∃ r, (s.step (.rw i (.getRange b e l))).lastOutcome = some (.ret (.range (.ok r))) ∧
      (s.world.server.view (s.serverTxn i)).Answers l r.kvs) ∧
    ∃ r, (s.step (.ro j (.snapshotGetRange b e l))).lastOutcome = some (.ret (.range (.ok r))) ∧
      (s.world.server.snapshot (s.world.server.readVersionAt ((s.ro j).readVersion.getD 0))).Answers
        l r.kvs :=
  ⟨⟨_, hs.inv.step_getRange hf b e l, Store.answers_rangeRead _ _ _ _⟩,
    ⟨_, hs.inv.step_ro_snapshotGetRange hc hr b e l, Store.answers_rangeRead _ _ _ _⟩⟩

/-- Both kinds of transaction read a range of `pendingSet`. -/
theorem pendingSet_ranges_answer :
    pendingSet.Reachable ∧ (pendingSet.rw 0).finished = false ∧
      (pendingSet.ro 0).cancelled = false ∧ (pendingSet.ro 0).isReset = false ∧
      (∃ r, (pendingSet.step (.rw 0 (.getRange ⟨[0], true⟩ ⟨[9], false⟩ 5))).lastOutcome =
          some (.ret (.range (.ok r))) ∧
        (pendingSet.world.server.view (pendingSet.serverTxn 0)).Answers 5 r.kvs) ∧
      ∃ r, (pendingSet.step (.ro 0 (.snapshotGetRange ⟨[0], true⟩ ⟨[9], false⟩ 5))).lastOutcome =
          some (.ret (.range (.ok r))) ∧
        (pendingSet.world.server.snapshot (pendingSet.world.server.readVersionAt
          ((pendingSet.ro 0).readVersion.getD 0))).Answers 5 r.kvs :=
  have hs : pendingSet.Reachable := ⟨_, _, _, _, Env.healthy_healthy, rfl⟩
  ⟨hs, by decide, rfl, rfl,
    range_reads_answer_from_store hs (by decide) rfl rfl ⟨[0], true⟩ ⟨[9], false⟩ 5⟩

end CustomKv
