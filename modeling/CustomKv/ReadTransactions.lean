import CustomKv.Exceptions
import CustomKv.Steps
import CustomKv.Versionstamps

/-!
# Read transactions

`snapshotGet` of both transactions and `snapshotGetRange` of the read-only one open a read
transaction of their own with `kv_read_transaction_begin`, read through it, and hand it to
`kv_read_transaction_destroy` before they return; no other call opens or destroys one. In a
healthy environment every such call destroys what it opened, so no run leaves a read transaction
open on the server. When the poll of the read's future fails, `waitForFuture` throws between the
read and the destroy, and the read transaction stays open. A read-only transaction changes nothing
else on the server, and a snapshot read at the latest version sees every commit that succeeded.
-/

namespace CustomKv

/-- The requests that open or destroy a read transaction. -/
def Request.touchesReads : Request → Bool
  | .readTransactionBegin _ | .readTransactionDestroy _ => true
  | _ => false

/-- The requests that read through an open read transaction. -/
def Request.ReadsThrough : Request → Prop
  | .readTransactionGet .. | .readTransactionGetRange .. => True
  | _ => False

/-- The server holds no read transaction. -/
def KvServer.NoReadTxns (s : KvServer) : Prop := ∀ h, s.readTxns h = none

namespace KvServer

variable {s : KvServer} {r : Request}

theorem handle_readTxns_of_not_touches (hr : r.touchesReads = false) (s : KvServer) :
    (s.handle r).2.readTxns = s.readTxns := by
  cases r <;> simp only [Request.touchesReads, reduceCtorEq] at hr <;>
    simp only [handle, mutate] <;> (try split) <;> (try split) <;> rfl

/-- A read through a read transaction changes nothing on the server. -/
theorem handle_of_readsThrough (hr : r.ReadsThrough) (s : KvServer) : (s.handle r).2 = s := by
  cases r <;> simp only [Request.ReadsThrough] at hr <;> simp only [handle] <;> split <;> rfl

theorem handleAll_readTxns_of_not_touches {rs : List Request}
    (hr : ∀ r ∈ rs, r.touchesReads = false) (s : KvServer) :
    (s.handleAll rs).readTxns = s.readTxns := by
  induction rs generalizing s with
  | nil => rfl
  | cons r rs ih =>
    rw [handleAll_cons, ih (fun r h => hr r (.tail _ h)),
      handle_readTxns_of_not_touches (hr r (.head _))]

/-- A read transaction opened under the next handle, read through and destroyed leaves the read
transactions as they were. -/
theorem handleAll_read_cycle (hn : s.readTxns (s.lastHandle + 1) = none) (v : Int)
    (hr : r.ReadsThrough) :
    (s.handleAll [.readTransactionBegin v, r, .readTransactionDestroy (s.lastHandle + 1)]).readTxns
      = s.readTxns := by
  simp only [handleAll_cons, handleAll_nil, handle_of_readsThrough hr]
  simp only [handle, setReadTxn_readTxns, Function.update_idem, ← hn, Function.update_eq_self]

end KvServer

theorem RwCall.touchesReads_of_mem_txnRequests {c : RwCall} {h : Nat} {r : Request}
    (hr : r ∈ c.txnRequests h) : r.touchesReads = false := by
  cases c <;> simp only [RwCall.txnRequests] at hr <;> (try split at hr) <;>
    simp only [List.mem_singleton, List.not_mem_nil] at hr <;> subst hr <;> rfl

/-- Of the calls of a read-write transaction only `snapshotGet` opens or destroys a read
transaction. -/
theorem RwCall.touchesReads_of_mem_requests {c : RwCall} (hc : ∀ k, c ≠ .snapshotGet k)
    {t : CustomTransaction} {next : Nat} {r : Request} (hr : r ∈ c.requests t next) :
    r.touchesReads = false := by
  unfold RwCall.requests at hr
  split at hr
  · split at hr <;> simp only [List.mem_singleton, List.not_mem_nil] at hr
    subst hr; rfl
  · exact absurd rfl (hc _)
  · split at hr
    · exact absurd hr (List.not_mem_nil r)
    rcases List.mem_append.mp hr with hr | hr
    · simp only [CustomTransaction.beginRequests] at hr
      split at hr <;> simp only [List.mem_singleton, List.not_mem_nil] at hr
      subst hr; rfl
    · exact touchesReads_of_mem_txnRequests hr

/-- In a healthy environment a call of a read-write transaction leaves the server's read
transactions as it found them. -/
theorem RwCall.requests_readTxns (c : RwCall) (t : CustomTransaction) {s : KvServer}
    (hn : s.readTxns (s.lastHandle + 1) = none) :
    (s.handleAll (c.requests t (s.lastHandle + 1))).readTxns = s.readTxns := by
  by_cases hc : ∃ k, c = .snapshotGet k
  · obtain ⟨k, rfl⟩ := hc
    simp only [RwCall.requests]
    split
    · rfl
    · exact KvServer.handleAll_read_cycle hn _ trivial
  · exact KvServer.handleAll_readTxns_of_not_touches
      (fun _ hr => touchesReads_of_mem_requests (fun k h => hc ⟨k, h⟩) hr) s

theorem RoCall.requests_readTxns (d : RoCall) (u : CustomReadOnlyTransaction) {s : KvServer}
    (hn : s.readTxns (s.lastHandle + 1) = none) :
    (s.handleAll (d.requests u (s.lastHandle + 1))).readTxns = s.readTxns := by
  unfold RoCall.requests
  split
  · rfl
  split
  · exact KvServer.handleAll_read_cycle hn _ trivial
  · exact KvServer.handleAll_read_cycle hn _ trivial
  · rfl

/-- The requests of a read-only call change neither the committed history nor any read-write
server transaction. -/
theorem RoCall.requests_store (d : RoCall) (u : CustomReadOnlyTransaction) (s : KvServer)
    (next : Nat) :
    (s.handleAll (d.requests u next)).commits = s.commits ∧
      (s.handleAll (d.requests u next)).txns = s.txns := by
  unfold RoCall.requests
  split
  · exact ⟨rfl, rfl⟩
  split <;> simp only [KvServer.handleAll_cons, KvServer.handleAll_nil,
    KvServer.handle_of_readsThrough, Request.ReadsThrough] <;> simp [KvServer.handle]

namespace System

variable {s : System}

theorem Inv.noReadTxns_step (hs : s.Inv) (hn : s.world.server.NoReadTxns) :
    ∀ a, (s.step a).world.server.NoReadTxns
  | .rw j c => by
    obtain ⟨t', he, -⟩ := CustomTransaction.run_healthy (t := s.rw j) (w := s.rwWorld j) c
      hs.healthy (hs.clientHandle j) fun hf h0 =>
        let ⟨_, hv⟩ := (hs.txn j hf).2 h0; ⟨_, hv⟩
    rw [world_step_rw, he, World.callAll_healthy (w := s.rwWorld j) hs.healthy]
    intro h
    simpa only [rwWorld_server, RwCall.requests_readTxns c _ (hn _)] using hn h
  | .ro j d => by
    rw [System.step_ro, (CustomReadOnlyTransaction.run_healthy d hs.healthy
      (hs.roClientHandle j)).1, World.callAll_healthy hs.healthy]
    intro h
    simpa only [RoCall.requests_readTxns d _ (hn _)] using hn h
  | .tick _ _ => hn

theorem Inv.noReadTxns_run (hs : s.Inv) (hn : s.world.server.NoReadTxns) (as : List Action) :
    (s.run as).world.server.NoReadTxns := by
  induction as generalizing s with
  | nil => exact hn
  | cons a as ih => exact ih (hs.step a) (hs.noReadTxns_step hn a)

/-- **No read transaction outlives its call.** In every reachable state of a healthy run the
server holds no read transaction: each snapshot read destroys the one it began. -/
theorem Reachable.readTxns_none (hs : s.Reachable) (h : Nat) :
    s.world.server.readTxns h = none := by
  obtain ⟨env, host, clocks, as, he, rfl⟩ := hs
  exact (Inv.init he host clocks).noReadTxns_run (fun _ => rfl) as h

end System

/-- **A read-only transaction writes nothing.** In every reachable state of a healthy run, a call
of a read-only transaction leaves the committed history and every read-write server transaction
as they were. -/
theorem System.Reachable.ro_step_keeps_store {s : System} (hs : s.Reachable) (j : Nat)
    (d : RoCall) :
    (s.step (.ro j d)).world.server.commits = s.world.server.commits ∧
      (s.step (.ro j d)).world.server.txns = s.world.server.txns := by
  have hi := hs.inv
  rw [System.step_ro, (CustomReadOnlyTransaction.run_healthy d hi.healthy
    (hi.roClientHandle j)).1, World.callAll_healthy hi.healthy]
  exact RoCall.requests_store d _ _ _

/-- After two writers, a read-only range read leaves the store and their transactions. -/
theorem twoWriters_ro_keeps_store :
    twoWriters.Reachable ∧
      (twoWriters.step (.ro 0 (.snapshotGetRange ⟨[1], true⟩ ⟨[9], false⟩ 10))).world.server.commits
        =
          twoWriters.world.server.commits ∧
        (twoWriters.step (.ro 0 (.snapshotGetRange ⟨[1], true⟩ ⟨[9], false⟩ 10))).world.server.txns
          =
          twoWriters.world.server.txns :=
  ⟨twoWriters_reachable, System.Reachable.ro_step_keeps_store twoWriters_reachable 0 _⟩

/-! ## What a snapshot read sees after a commit -/

/-- The store at the latest version after one more commit: the store before, with its writes. -/
theorem KvServer.snapshot_latest_of_commit {srv srv' : KvServer}
    {ws : List (Bytes × Option Bytes)} (h : srv'.commits = srv.commits ++ [ws]) :
    srv'.snapshot srv'.latest = (srv.snapshot srv.latest).writeAll ws := by
  simp only [KvServer.snapshot, KvServer.latest, List.take_length, h, List.foldl_append,
    List.foldl_cons, List.foldl_nil]

/-- **A commit that succeeds is visible to every later snapshot read.** In every reachable state
of a healthy run, when a read-write transaction that is not finished commits and `commit()`
returns success, a read-only transaction without a read version then reads, for each key, the
last value the commit wrote to it, or the value it read before if the commit did not write it. -/
theorem committed_writes_visible {s : System} (hs : s.Reachable) {i j : Nat}
    (hf : (s.rw i).finished = false)
    (hok : (s.step (.rw i .commit)).lastOutcome = some (.ret (.unit (.ok ()))))
    (hu : (s.ro j).cancelled = false ∧ (s.ro j).isReset = false ∧ (s.ro j).readVersion = none)
    (k : Bytes) :
    ((s.step (.rw i .commit)).step (.ro j (.snapshotGet k))).lastOutcome =
      some (.ret (.value (.ok
        ((((commitWrites (s.world.server.latest + 1) 0 (System.writesOf i s.trace)).reverse.find?
          (·.1 = k)).map (·.2)).getD
            ((s.world.server.snapshot s.world.server.latest).get k))))) := by
  have hi := hs.inv
  have hc := hi.commits_of_commit_ok hf hok
  have hro : (s.step (.rw i .commit)).ro j = s.ro j := rfl
  rw [(hi.step _).step_ro_snapshotGet (hro ▸ hu.1) (hro ▸ hu.2.1) k, hro, hu.2.2,
    Option.getD_none, KvServer.readVersionAt, if_pos rfl, KvServer.snapshot_latest_of_commit hc,
    Store.get_writeAll]

/-- After two writers, transaction `0` commits; a read-only transaction then reads its write. -/
theorem twoWriters_commit_visible :
    twoWriters.Reachable ∧ (twoWriters.rw 0).finished = false ∧
      (twoWriters.step (.rw 0 .commit)).lastOutcome = some (.ret (.unit (.ok ()))) ∧
      ((twoWriters.ro 0).cancelled = false ∧ (twoWriters.ro 0).isReset = false ∧
        (twoWriters.ro 0).readVersion = none) ∧
      ((twoWriters.step (.rw 0 .commit)).step (.ro 0 (.snapshotGet [1]))).lastOutcome =
        some (.ret (.value (.ok
          ((((commitWrites (twoWriters.world.server.latest + 1) 0
            (System.writesOf 0 twoWriters.trace)).reverse.find? (·.1 = [1])).map (·.2)).getD
              ((twoWriters.world.server.snapshot twoWriters.world.server.latest).get [1]))))) :=
  have hf : (twoWriters.rw 0).finished = false := by decide
  have hok : (twoWriters.step (.rw 0 .commit)).lastOutcome = some (.ret (.unit (.ok ()))) := by
    decide
  ⟨twoWriters_reachable, hf, hok, ⟨rfl, rfl, rfl⟩,
    committed_writes_visible twoWriters_reachable hf hok ⟨rfl, rfl, rfl⟩ [1]⟩

example : ((twoWriters.step (.rw 0 .commit)).step (.ro 0 (.snapshotGet [1]))).lastOutcome =
    some (.ret (.value (.ok (some [2])))) := by
  decide

/-- A read-write and a read-only transaction each make a snapshot read. -/
def snapshotReads : System :=
  (System.init .healthy (fun _ => 0) (fun _ => 0)).run
    [.rw 0 (.snapshotGet [1]), .ro 0 (.snapshotGetRange ⟨[1], true⟩ ⟨[2], false⟩ 10)]

theorem snapshotReads_closed :
    snapshotReads.Reachable ∧ snapshotReads.world.server.readTxns 1 = none ∧
      snapshotReads.world.server.readTxns 2 = none :=
  have hs : snapshotReads.Reachable := ⟨.healthy, _, _, _, Env.healthy_healthy, rfl⟩
  ⟨hs, System.Reachable.readTxns_none hs 1, System.Reachable.readTxns_none hs 2⟩

example : snapshotReads.world.calls =
    [.readTransactionBegin 0, .readTransactionGet 1 [1], .readTransactionDestroy 1,
      .readTransactionBegin 0, .readTransactionGetRange 2 ⟨[1], 0, 0⟩ ⟨[2], 0, 0⟩ 10,
      .readTransactionDestroy 2] := by
  decide

/-! ## A read whose poll fails -/

/-- A read through a read transaction leaves the server as it was, whether the library fails it
or the server handles it. -/
theorem World.call_server_of_readsThrough {r : Request} (hr : r.ReadsThrough) (w : World) :
    (w.call r).2.server = w.server := by
  cases hf : w.env.fault w.issued with
  | none => simp [World.call_of_fault_none hf, KvServer.handle_of_readsThrough hr]
  | some e => simp [World.call_of_fault hf]

/-- A read transaction begun without a fault is held by the server after a read through it. -/
theorem World.callAll_begin_readTxns {w : World} (hb : w.env.fault w.issued = none) (v : Int)
    {r : Request} (hr : r.ReadsThrough) :
    (w.callAll [.readTransactionBegin v, r]).server.readTxns (w.server.lastHandle + 1) =
      some (w.server.readVersionAt v) := by
  simp [World.call_of_fault_none hb, World.call_server_of_readsThrough hr, KvServer.handle]

/-- What a snapshot read leaves when the poll of its read fails after its read transaction began:
it has thrown, it has sent every request of its healthy run but the last, the
`kv_read_transaction_destroy`, and the server still holds the read transaction, at the version
`version` asked for. -/
def LeavesReadOpen (w : World) (rs : List Request) (version : Int) (o : Outcome Answer)
    (w' : World) : Prop :=
  o = .thrown "Future polling failed" ∧ w' = w.callAll rs.dropLast ∧
    w'.server.readTxns (w.server.lastHandle + 1) = some (w.server.readVersionAt version)

section PollFailed

variable {w : World} (hb : w.env.fault w.issued = none) (hp : w.env.poll w.issued ≠ -1)
  (hp' : w.env.poll (w.issued + 1) = -1)
include hb hp hp'

theorem CustomTransaction.snapshotGet_of_read_poll_failed {t : CustomTransaction}
    (hf : t.finished = false) (hc : t.clientHandle = true) (k : Bytes) :
    snapshotGet k (t, w) = (.thrown "Future polling failed",
      (t, w.callAll [.readTransactionBegin (t.readVersion.getD 0),
        .readTransactionGet (w.server.lastHandle + 1) k])) := by
  simp only [snapshotGet, Bool.not_eq_eq_eq_not, Bool.not_true, kvFutureGetReadTransaction,
    Co.bind_apply, Co.self_apply, hf, Bool.false_eq_true, ↓reduceIte, hc, Bool.true_eq_false,
    call_apply, World.call_of_fault_none hb, KvServer.handle, Nat.add_one_ne_zero,
    waitForFuture_apply, hp, World.call_env, World.call_id, hp', World.callAll_cons,
    World.callAll_nil]

theorem CustomReadOnlyTransaction.run_of_read_poll_failed {u : CustomReadOnlyTransaction}
    (hu : u.cancelled = false ∧ u.isReset = false ∧ u.clientHandle = true) {d : RoCall}
    (hd : d.Waits) :
    d.run (u, w) = (.thrown "Future polling failed",
      (u, w.callAll (d.requests u (w.server.lastHandle + 1)).dropLast)) := by
  obtain ⟨hc, hr, hh⟩ := hu
  cases d <;> simp only [RoCall.Waits] at hd <;>
    simp only [RoCall.run, RoCall.requests, snapshotGet, snapshotGetRange, Bool.or_eq_true,
      Bool.not_eq_eq_eq_not, Bool.not_true, kvFutureGetReadTransaction, Co.map_apply,
      Co.bind_apply, Co.self_apply, hc, hr, hh, or_self, Bool.false_eq_true, ↓reduceIte,
      Bool.true_eq_false, call_apply, World.call_of_fault_none hb, KvServer.handle,
      Nat.add_one_ne_zero, waitForFuture_apply, hp, World.call_env, World.call_id, hp',
      List.dropLast,
      World.callAll_cons, World.callAll_nil]

end PollFailed

/-- A client library without faults whose poll of request `n` fails. -/
def Env.pollFailingAt (n : Nat) : Env := ⟨fun m => if m = n then -1 else 1, fun _ => none, id⟩

end CustomKv
