import CustomKv.Invariant

/-!
# One call from a reachable state

What the calls that reach the server return from any state the invariant holds in: `commit`
reports the server's conflict check on what the transaction has sent and appends its stamped
mutations; `get` and `getRange` read the transaction's view, its pending sets and clears over
its snapshot; `snapshotGet` reads the store at `read_version_.value_or(0)`. A transaction that has
not opened a server transaction yet is treated as the one its first call opens at the latest
version.
-/

namespace CustomKv

namespace System

/-- The version transaction `i` reads on the server: that of its server transaction, or the
latest, at which its first operation will open one. -/
def snapshotVersion (s : System) (i : Nat) : Nat :=
  match s.world.server.txns (s.rw i).transactionHandle with
  | some st => st.readVersion
  | none => s.world.server.latest

/-- Transaction `i` as the server sees it: its snapshot version, with the reads and the mutations
it has sent. -/
def serverTxn (s : System) (i : Nat) : ServerTxn :=
  ⟨s.snapshotVersion i, readsOf i s.trace, writesOf i s.trace⟩

@[simp] theorem serverTxn_readVersion (s : System) (i : Nat) :
    (s.serverTxn i).readVersion = s.snapshotVersion i := rfl

@[simp] theorem serverTxn_reads (s : System) (i : Nat) :
    (s.serverTxn i).reads = readsOf i s.trace := rfl

@[simp] theorem serverTxn_mutations (s : System) (i : Nat) :
    (s.serverTxn i).mutations = writesOf i s.trace := rfl

variable {s : System} {i : Nat}

theorem Inv.txns_eq (hs : s.Inv) (hf : (s.rw i).finished = false)
    (h0 : (s.rw i).transactionHandle ≠ 0) :
    s.world.server.txns (s.rw i).transactionHandle = some (s.serverTxn i) := by
  obtain ⟨v, hv⟩ := (hs.txn i hf).2 h0
  simp [serverTxn, snapshotVersion, hv]

theorem Inv.serverTxn_of_fresh (hs : s.Inv) (hf : (s.rw i).finished = false)
    (h0 : (s.rw i).transactionHandle = 0) :
    s.serverTxn i = ⟨s.world.server.latest, [], []⟩ := by
  obtain ⟨hr, hw⟩ := (hs.txn i hf).1 h0
  simp [serverTxn, snapshotVersion, h0, hs.wf.1, hr, hw]

/-- A commit of a transaction that is not finished: it reports the server's conflict check on
what the transaction has sent as `kConflict`; on success the server appends the transaction's
mutations, stamped, as the next version. -/
theorem Inv.step_commit (hs : s.Inv) (hf : (s.rw i).finished = false) :
    (s.step (.rw i .commit)).lastOutcome = some (.ret (.unit
      (if s.world.server.conflicts (s.serverTxn i) then makeError .kConflict "Commit failed"
        else .ok ()))) ∧
    (s.step (.rw i .commit)).world.server.commits =
      if s.world.server.conflicts (s.serverTxn i) then s.world.server.commits
      else s.world.server.commits ++
        [commitWrites (s.world.server.latest + 1) 0 (writesOf i s.trace)] := by
  have hw : (s.rwWorld i).env.Healthy := hs.healthy
  suffices h : (CustomTransaction.commit (s.rw i, s.rwWorld i)).1 =
      .ret (if s.world.server.conflicts (s.serverTxn i) then makeError .kConflict "Commit failed"
        else .ok ()) ∧
      (CustomTransaction.commit (s.rw i, s.rwWorld i)).2.2.server.commits =
      if s.world.server.conflicts (s.serverTxn i) then s.world.server.commits
      else s.world.server.commits ++
        [commitWrites (s.world.server.latest + 1) 0 (writesOf i s.trace)] by
    rw [lastOutcome_step_rw, world_step_rw]
    simp only [RwCall.run, Co.map_apply_fst, Co.map_apply_snd, h.1, h.2, Outcome.map_ret,
      and_self]
  by_cases h0 : (s.rw i).transactionHandle = 0
  · have hst : ((s.rwWorld i).call (.transactionBegin 30)).2.server.txns
        ((s.rwWorld i).server.lastHandle + 1) = some ⟨s.world.server.latest, [], []⟩ := by
      simp [World.call_healthy hw, KvServer.handle]
    rw [CustomTransaction.commit_of_fresh hf h0 (hs.clientHandle i) hw,
      CustomTransaction.commit_of_open
        (t := { s.rw i with transactionHandle := (s.rwWorld i).server.lastHandle + 1 })
        (w := ((s.rwWorld i).call (.transactionBegin 30)).2) hf (Nat.succ_ne_zero _)
        (World.call_begin_txns hw 30) (by simpa using hw),
      hs.serverTxn_of_fresh hf h0, ((hs.txn i hf).1 h0).2]
    simp [World.call_healthy, hs.healthy, KvServer.handle, KvServer.conflicts, KvServer.latest]
  · rw [CustomTransaction.commit_of_open (w := s.rwWorld i) hf h0 (hs.txns_eq hf h0) hw]
    simp only [rwWorld_server]
    split_ifs with hc <;> simp [World.call_healthy hw, KvServer.handle, hs.txns_eq hf h0, hc]

/-- `get` reads the transaction's view of the server: its pending sets and clears over its
snapshot. -/
theorem Inv.step_get (hs : s.Inv) (hf : (s.rw i).finished = false) (k : Bytes) :
    (s.step (.rw i (.get k))).lastOutcome =
      some (.ret (.value (.ok ((s.world.server.view (s.serverTxn i)).get k)))) := by
  have hw : (s.rwWorld i).env.Healthy := hs.healthy
  rw [lastOutcome_step_rw]
  by_cases h0 : (s.rw i).transactionHandle = 0
  · rw [CustomTransaction.run_of_fresh_eq (c := .get k) rfl hf h0 (hs.clientHandle i) hw,
      hs.serverTxn_of_fresh hf h0, RwCall.run, Co.map_apply_fst, CustomTransaction.get_of_open
        (t := { s.rw i with transactionHandle := (s.rwWorld i).server.lastHandle + 1 })
        (w := ((s.rwWorld i).call (.transactionBegin 30)).2) hf (Nat.succ_ne_zero _)
        (World.call_begin_txns hw 30) (by simpa using hw)]
    simp [World.call_healthy hw, KvServer.handle, KvServer.view, KvServer.snapshot]
  · simp [RwCall.run, CustomTransaction.get_of_open (w := s.rwWorld i) hf h0 (hs.txns_eq hf h0) hw]

/-- `getRange` reads a range of the transaction's view. -/
theorem Inv.step_getRange (hs : s.Inv) (hf : (s.rw i).finished = false) (b e : KeySelector)
    (l : Int) :
    (s.step (.rw i (.getRange b e l))).lastOutcome = some (.ret (.range (.ok
      ⟨(KvPairArray.ofPairs ((s.world.server.view (s.serverTxn i)).rangeRead (beginSelector b)
          (endSelector e) l)).keyValues,
        (s.world.env.pairArrayFree (.ofPairs ((s.world.server.view (s.serverTxn i)).rangeRead
          (beginSelector b) (endSelector e) l))).count ≠ 0 &&
        (s.world.env.pairArrayFree (.ofPairs ((s.world.server.view (s.serverTxn i)).rangeRead
          (beginSelector b) (endSelector e) l))).count = sizeT l⟩))) := by
  have hw : (s.rwWorld i).env.Healthy := hs.healthy
  rw [lastOutcome_step_rw]
  by_cases h0 : (s.rw i).transactionHandle = 0
  · rw [CustomTransaction.run_of_fresh_eq (c := .getRange b e l) rfl hf h0 (hs.clientHandle i) hw,
      hs.serverTxn_of_fresh hf h0, RwCall.run, Co.map_apply_fst, CustomTransaction.getRange_of_open
        (t := { s.rw i with transactionHandle := (s.rwWorld i).server.lastHandle + 1 })
        (w := ((s.rwWorld i).call (.transactionBegin 30)).2) hf (Nat.succ_ne_zero _)
        (World.call_begin_txns hw 30) (by simpa using hw)]
    simp [World.call_healthy hw, KvServer.handle, KvServer.view, KvServer.snapshot]
  · simp [RwCall.run, CustomTransaction.getRange_of_open (w := s.rwWorld i) hf h0
      (hs.txns_eq hf h0) hw]

/-- `snapshotGet` of a read-write transaction reads the store at `read_version_.value_or(0)`,
past its server transaction. -/
theorem Inv.step_snapshotGet (hs : s.Inv) (hf : (s.rw i).finished = false) (k : Bytes) :
    (s.step (.rw i (.snapshotGet k))).lastOutcome = some (.ret (.value (.ok
      ((s.world.server.snapshot (s.world.server.readVersionAt ((s.rw i).readVersion.getD 0))).get
        k)))) := by
  rw [lastOutcome_step_rw]
  simp [RwCall.run, CustomTransaction.snapshotGet_of_healthy (w := s.rwWorld i) hf
    (hs.clientHandle i) hs.healthy]

/-- Each `snapshotGet` of a read-only transaction reads the store at
`read_version_.value_or(0)`. -/
theorem Inv.step_ro_snapshotGet (hs : s.Inv) {j : Nat} (hc : (s.ro j).cancelled = false)
    (hr : (s.ro j).isReset = false) (k : Bytes) :
    (s.step (.ro j (.snapshotGet k))).lastOutcome = some (.ret (.value (.ok
      ((s.world.server.snapshot (s.world.server.readVersionAt ((s.ro j).readVersion.getD 0))).get
        k)))) := by
  rw [lastOutcome_step_ro]
  simp [RoCall.run, CustomReadOnlyTransaction.snapshotGet_of_healthy hc hr (hs.roClientHandle j)
    hs.healthy]

/-- Each `snapshotGetRange` of a read-only transaction reads a range of the store at
`read_version_.value_or(0)`. -/
theorem Inv.step_ro_snapshotGetRange (hs : s.Inv) {j : Nat} (hc : (s.ro j).cancelled = false)
    (hr : (s.ro j).isReset = false) (b e : KeySelector) (l : Int) :
    (s.step (.ro j (.snapshotGetRange b e l))).lastOutcome = some (.ret (.range (.ok
      ⟨(KvPairArray.ofPairs ((s.world.server.snapshot (s.world.server.readVersionAt
          ((s.ro j).readVersion.getD 0))).rangeRead (beginSelector b) (endSelector e) l)).keyValues,
        (s.world.env.pairArrayFree (.ofPairs ((s.world.server.snapshot
          (s.world.server.readVersionAt ((s.ro j).readVersion.getD 0))).rangeRead
            (beginSelector b) (endSelector e) l))).count = sizeT l⟩))) := by
  rw [lastOutcome_step_ro]
  simp [RoCall.run, CustomReadOnlyTransaction.snapshotGetRange_of_healthy hc hr
    (hs.roClientHandle j) hs.healthy]

end System

end CustomKv
