import CustomKv.Steps

/-!
# Conflicts at commit

The server checks at commit the reads the wrapper sent it, and nothing else: the keys of `get`,
and the ranges `[begin.key, end.key)` of `getRange` and of `snapshotGetRange`, which delegates to
it. A commit of a transaction that is not finished fails with `kConflict` exactly when a commit
after its snapshot version wrote a key that one of the reads it sent covers; when it succeeds,
every key those reads cover has the same value at the latest version as in its snapshot. That
does not make the transactions that commit serializable: `addReadConflict` and
`addReadConflictRange` are placeholders that send nothing, so two transactions that declare each
other's writes as read conflicts both commit, and `getRange` resolves its selectors one key early
(`Ranges`), so it can answer a key that the range it sent does not cover. Either way two
transactions can commit a write skew.
-/
namespace CustomKv

namespace KvServer

/-- A key that no commit after version `v` wrote has the same value at `v` as at the latest
version. -/
theorem snapshot_get_of_not_written (srv : KvServer) (v : Nat) (k : Bytes)
    (h : ∀ ws ∈ srv.commits.drop v, ∀ x ∈ ws, x.1 ≠ k) :
    (srv.snapshot v).get k = (srv.snapshot srv.latest).get k := by
  rw [snapshot, snapshot, latest, List.take_length]
  conv_rhs => rw [← List.take_append_drop v srv.commits, List.foldl_append]
  exact (Store.get_foldl_writeAll_of_not_mem _ _ k h).symm

theorem conflicts_iff (srv : KvServer) (st : ServerTxn) :
    srv.conflicts st = true ↔
      ∃ ws ∈ srv.commits.drop st.readVersion, ∃ x ∈ ws, ∃ r ∈ st.reads,
        r.covers x.1 = true := by
  simp only [conflicts, List.any_eq_true, Prod.exists, exists_and_right]

end KvServer

open System in
/-- **A commit conflicts exactly when a read it sent was overwritten.** In every reachable state of
a healthy run, `commit` on a transaction that is not finished answers `kConflict` when a commit
after its snapshot version wrote a key covered by a read it sent, and ok otherwise; when it
answers ok, every key those reads cover reads the same in its snapshot as at the latest
version. -/
theorem commit_conflicts_iff_read_overwritten {s : System} {i : Nat} (hs : s.Reachable)
    (hf : (s.rw i).finished = false) :
    (s.step (.rw i .commit)).lastOutcome = some (.ret (.unit
      (if ∃ ws ∈ s.world.server.commits.drop (s.snapshotVersion i), ∃ x ∈ ws,
          ∃ r ∈ readsOf i s.trace, r.covers x.1 = true
        then makeError .kConflict "Commit failed" else .ok ()))) ∧
    ((s.step (.rw i .commit)).lastOutcome = some (.ret (.unit (.ok ()))) →
      ∀ r ∈ readsOf i s.trace, ∀ x, r.covers x = true →
        (s.world.server.snapshot (s.snapshotVersion i)).get x =
          (s.world.server.snapshot s.world.server.latest).get x) := by
  have h := (hs.inv.step_commit hf).1
  simp only [KvServer.conflicts_iff, serverTxn_readVersion, serverTxn_reads] at h
  refine ⟨h, fun hok r hr x hx => KvServer.snapshot_get_of_not_written _ _ _ ?_⟩
  rintro ws hws y hy rfl
  rw [h, if_pos ⟨ws, hws, y, hy, r, hr, hx⟩] at hok
  simp only [makeError, Option.some.injEq, Outcome.ret.injEq, Answer.unit.injEq,
    reduceCtorEq] at hok

/-- Transaction `0` reads `[1]` and writes `[2]`; transaction `1` then commits a write of `[1]`. -/
def readThenOverwrite : System :=
  (System.init .healthy (fun _ => 0) (fun _ => 0)).run
    [.rw 0 (.get [1]), .rw 0 (.set [2] [0]), .rw 1 (.set [1] [0]), .rw 1 .commit]

open System in
theorem commit_conflicts_after_overwrite :
    readThenOverwrite.Reachable ∧ (readThenOverwrite.rw 0).finished = false ∧
    (readThenOverwrite.step (.rw 0 .commit)).lastOutcome = some (.ret (.unit
      (if ∃ ws ∈ readThenOverwrite.world.server.commits.drop
            (readThenOverwrite.snapshotVersion 0),
          ∃ x ∈ ws, ∃ r ∈ readsOf 0 readThenOverwrite.trace, r.covers x.1 = true
        then makeError .kConflict "Commit failed" else .ok ()))) ∧
    ((readThenOverwrite.step (.rw 0 .commit)).lastOutcome = some (.ret (.unit (.ok ()))) →
      ∀ r ∈ readsOf 0 readThenOverwrite.trace, ∀ x, r.covers x = true →
        (readThenOverwrite.world.server.snapshot (readThenOverwrite.snapshotVersion 0)).get x =
          (readThenOverwrite.world.server.snapshot readThenOverwrite.world.server.latest).get x) :=
  have h : readThenOverwrite.Reachable := ⟨_, _, _, _, Env.healthy_healthy, rfl⟩
  ⟨h, by decide, commit_conflicts_iff_read_overwritten h (by decide)⟩

/-- Write skew under declared read conflicts: transaction `0` declares a read of `[1]` and writes
`[2]`, transaction `1` declares a read of `[2]` and writes `[1]`. -/
def writeSkew : System :=
  (System.init .healthy (fun _ => 0) (fun _ => 0)).run
    [.rw 0 (.addReadConflict [1]), .rw 0 (.set [2] [0]), .rw 1 (.addReadConflict [2]),
      .rw 1 (.set [1] [0])]

/-- Transaction `1` reads version `0`; transaction `0` commits a write of `[2]`, a key `1`
declared, as version `1`; the commit of `1` still succeeds. -/
theorem declared_read_conflicts_ignored :
    writeSkew.snapshotVersion 1 = 0 ∧
      (writeSkew.run [.rw 0 .commit, .rw 1 .commit]).world.server.commits =
        [[([2], some [0])], [([1], some [0])]] ∧
      ((writeSkew.run [.rw 0 .commit, .rw 1 .commit]).trace.drop 4).map (·.outcome) =
        [some (.ret (.unit (.ok ()))), some (.ret (.unit (.ok ())))] := by
  decide

end CustomKv
