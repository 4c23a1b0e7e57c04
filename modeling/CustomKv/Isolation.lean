import CustomKv.Conflicts
import CustomKv.ReadTransactions

/-!
# Snapshot isolation

In a healthy run every step reaches the server as requests, and the server changes its committed
history only by appending the writes of a successful commit. A server transaction keeps the read
version it began at, and that version is committed. So a read-write transaction that has opened
its server transaction reads one fixed snapshot, overlaid with its own sets and clears, whatever
the other transactions do. That snapshot is the latest version at its first call that needs the
server, and `setReadVersion` moves only its `snapshotGet`. A read-only transaction whose read
version is committed reads that version at every snapshot read; a read version of `0` reads the
latest. A commit checks only the reads the transaction sent: a read-modify-write that races a
committed write of the same key fails with `kConflict`, and a transaction that sent no read
always commits.
-/

namespace CustomKv

namespace KvServer

variable {s s' : KvServer}

/-- A longer history has the same store at every version of the shorter one. -/
theorem snapshot_of_prefix (h : s.commits <+: s'.commits) {v : Nat} (hv : v ≤ s.latest) :
    s'.snapshot v = s.snapshot v := by
  obtain ⟨d, hd⟩ := h
  rw [snapshot, snapshot, ← hd, List.take_append_of_le_length hv]

/-- A read version other than `0` that is committed is read as itself in every longer history. -/
theorem readVersionAt_of_prefix (h : s.commits <+: s'.commits) {v : Int} (hv0 : v ≠ 0)
    (hv : v ≤ s.latest) : s'.readVersionAt v = s.readVersionAt v := by
  have := h.length_le
  simp only [readVersionAt, latest, if_neg hv0] at hv ⊢
  omega

/-- Only `kv_transaction_commit` changes the history. -/
theorem handle_commits_of_not_commit {r : Request} (hr : ∀ h, r ≠ .transactionCommit h) :
    (s.handle r).2.commits = s.commits := by
  cases r
  case transactionCommit h => exact absurd rfl (hr h)
  all_goals simp only [handle, mutate]; (try split) <;> simp

theorem handleAll_commits_of_not_commit {rs : List Request}
    (hr : ∀ r ∈ rs, ∀ h, r ≠ .transactionCommit h) : (s.handleAll rs).commits = s.commits := by
  induction rs generalizing s with
  | nil => rfl
  | cons r rs ih =>
    rw [handleAll_cons, ih fun r' hr' => hr r' (.tail _ hr'),
      handle_commits_of_not_commit (hr r (.head _))]

/-- A request begins the transaction of the next handle at the latest version, or leaves the read
version of the transaction it finds. -/
theorem readVersion_of_handle {r : Request} {h : Nat} {st : ServerTxn}
    (hst : (s.handle r).2.txns h = some st) :
    (h = s.lastHandle + 1 ∧ st.readVersion = s.latest) ∨
      ∃ st₀, s.txns h = some st₀ ∧ st₀.readVersion = st.readVersion := by
  cases r <;> simp only [handle, mutate] at hst <;> (try split at hst) <;> (try split at hst) <;>
    simp only [setTxn_txns, setReadTxn_txns, Function.update_apply] at hst
  all_goals (try split_ifs at hst with hh) <;> (try subst hh) <;> first
    | exact .inr ⟨st, hst, rfl⟩
    | exact Option.noConfusion hst
    | (cases hst; exact .inl ⟨rfl, rfl⟩)
    | (cases hst; rename_i ht; exact .inr ⟨_, ht, rfl⟩)

/-- The read version of a transaction the requests did not begin is the one it had before. -/
theorem readVersion_of_handleAll {rs : List Request} {h : Nat} {st : ServerTxn}
    (hh : h ≤ s.lastHandle) (hst : (s.handleAll rs).txns h = some st) :
    ∃ st₀, s.txns h = some st₀ ∧ st₀.readVersion = st.readVersion := by
  induction rs generalizing s with
  | nil => exact ⟨st, hst, rfl⟩
  | cons r rs ih =>
    obtain ⟨st₁, h₁, e₁⟩ := ih (hh.trans (lastHandle_le_handle s r)) hst
    rcases readVersion_of_handle h₁ with ⟨rfl, -⟩ | ⟨st₀, h₀, e₀⟩
    · omega
    · exact ⟨st₀, h₀, e₀.trans e₁⟩

/-- Every open transaction reads a committed version. -/
def ReadsCommitted (s : KvServer) : Prop :=
  ∀ h st, s.txns h = some st → st.readVersion ≤ s.latest

theorem ReadsCommitted.handle (hs : s.ReadsCommitted) (r : Request) :
    (s.handle r).2.ReadsCommitted := fun h _ hst =>
  Nat.le_trans (match readVersion_of_handle hst with
    | .inl ⟨_, e⟩ => e.le
    | .inr ⟨st₀, h₀, e₀⟩ => e₀ ▸ hs h st₀ h₀) (commits_prefix_handle s r).length_le

theorem ReadsCommitted.handleAll (hs : s.ReadsCommitted) (rs : List Request) :
    (s.handleAll rs).ReadsCommitted := by
  induction rs generalizing s with
  | nil => exact hs
  | cons r rs ih => exact ih (hs.handle r)

theorem readVersionAt_le (s : KvServer) (v : Int) : s.readVersionAt v ≤ s.latest := by
  unfold readVersionAt
  split <;> omega

end KvServer

namespace System

variable {s : System}

/-- **What a step does to the server**, in a healthy world: it handles some requests, and the
client library stays as it was. -/
theorem Inv.server_step (hs : s.Inv) : ∀ a, ∃ rs,
    (s.step a).world.server = s.world.server.handleAll rs ∧ (s.step a).world.env = s.world.env
  | .rw j c => by
    obtain ⟨t', he, -⟩ := CustomTransaction.run_healthy (t := s.rw j) (w := s.rwWorld j) c
      hs.healthy (hs.clientHandle j) fun hf h0 =>
        let ⟨_, hv⟩ := (hs.txn j hf).2 h0; ⟨_, hv⟩
    rw [world_step_rw, he, World.callAll_healthy (w := s.rwWorld j) hs.healthy]
    exact ⟨_, rfl, rfl⟩
  | .ro j d => by
    rw [System.step_ro, (CustomReadOnlyTransaction.run_healthy d hs.healthy
      (hs.roClientHandle j)).1, World.callAll_healthy hs.healthy]
    exact ⟨_, rfl, rfl⟩
  | .tick _ _ => ⟨[], rfl, rfl⟩

theorem Inv.server_run (hs : s.Inv) (as : List Action) : ∃ rs,
    (s.run as).world.server = s.world.server.handleAll rs ∧ (s.run as).world.env = s.world.env := by
  induction as generalizing s with
  | nil => exact ⟨[], rfl, rfl⟩
  | cons a as ih =>
    obtain ⟨rs, h₁, e₁⟩ := hs.server_step a
    obtain ⟨rs', h₂, e₂⟩ := ih (hs.step a)
    exact ⟨rs ++ rs', by rw [run_cons, h₂, h₁, KvServer.handleAll_append], e₂.trans e₁⟩

theorem Inv.commits_prefix_run (hs : s.Inv) (as : List Action) :
    s.world.server.commits <+: (s.run as).world.server.commits := by
  obtain ⟨rs, h, -⟩ := hs.server_run as
  exact h ▸ KvServer.commits_prefix_handleAll _ _

theorem Reachable.readsCommitted (hs : s.Reachable) : s.world.server.ReadsCommitted := by
  obtain ⟨env, host, clocks, as, he, rfl⟩ := hs
  obtain ⟨rs, h, -⟩ := (Inv.init he host clocks).server_run as
  exact h ▸ KvServer.ReadsCommitted.handleAll (fun _ _ h => Option.noConfusion h) rs

theorem Reachable.run (hs : s.Reachable) (as : List Action) : (s.run as).Reachable := by
  obtain ⟨env, host, clocks, as₀, he, rfl⟩ := hs
  exact ⟨env, host, clocks, as₀ ++ as, he, (run_append _ _ _).symm⟩

/-- Steps of other transactions leave read-write transaction `j` and its calls as they were. -/
theorem rw_run_of_not_mem {j : Nat} {as : List Action} (has : ∀ c, Action.rw j c ∉ as) :
    (s.run as).rw j = s.rw j ∧ callsOf j (s.run as).trace = callsOf j s.trace := by
  induction as generalizing s with
  | nil => exact ⟨rfl, rfl⟩
  | cons a as ih =>
    obtain ⟨h₁, h₂⟩ := ih fun c hc => has c (.tail _ hc)
    rw [run_cons, h₁, h₂]
    cases a with
    | rw i c =>
      have hij : i ≠ j := by rintro rfl; exact has c (.head _)
      simp [Function.update_noteq (Ne.symm hij), hij]
    | ro _ _ | tick _ _ => simp

theorem ro_run_of_not_mem {j : Nat} {as : List Action} (has : ∀ d, Action.ro j d ∉ as) :
    (s.run as).ro j = s.ro j := by
  induction as generalizing s with
  | nil => rfl
  | cons a as ih =>
    rw [run_cons, ih fun d hd => has d (.tail _ hd)]
    cases a with
    | ro i d =>
      have hij : i ≠ j := by rintro rfl; exact has d (.head _)
      simp [Function.update_noteq (Ne.symm hij)]
    | rw _ _ | tick _ _ => simp

/-- Steps of other transactions leave how the server sees a transaction that has opened its
server transaction: its snapshot version, its reads and its mutations. -/
theorem Inv.serverTxn_run (hs : s.Inv) {j : Nat} (hf : (s.rw j).finished = false)
    (h0 : (s.rw j).transactionHandle ≠ 0) {as : List Action} (has : ∀ c, Action.rw j c ∉ as) :
    (s.run as).serverTxn j = s.serverTxn j := by
  obtain ⟨ht, hc⟩ := rw_run_of_not_mem has
  obtain ⟨rs, hsrv, -⟩ := hs.server_run as
  have h₁ := (hs.run as).txns_eq (by rwa [ht]) (by rwa [ht])
  rw [ht, hsrv] at h₁
  obtain ⟨st₀, h₂, e⟩ := KvServer.readVersion_of_handleAll (hs.handle_le j) h₁
  rw [hs.txns_eq hf h0, Option.some.injEq] at h₂
  subst h₂
  simp only [serverTxn_readVersion] at e
  simp only [serverTxn, readsOf, writesOf, hc, e]

theorem Reachable.view_run (hs : s.Reachable) {j : Nat} (hf : (s.rw j).finished = false)
    (h0 : (s.rw j).transactionHandle ≠ 0) {as : List Action} (has : ∀ c, Action.rw j c ∉ as) :
    (s.run as).world.server.view ((s.run as).serverTxn j) =
      s.world.server.view (s.serverTxn j) := by
  have hi := hs.inv
  rw [hi.serverTxn_run hf h0 has, KvServer.view, KvServer.view, KvServer.snapshot_of_prefix
    (hi.commits_prefix_run as) (hs.readsCommitted _ _ (hi.txns_eq hf h0))]

end System

/-- Only `commit` sends `kv_transaction_commit`. -/
theorem RwCall.commit_not_mem_requests {c : RwCall} (hc : c ≠ .commit) (t : CustomTransaction)
    (next h : Nat) : .transactionCommit h ∉ c.requests t next := by
  cases c <;> simp only [ne_eq, not_true_eq_false, reduceCtorEq] at hc <;>
    simp [RwCall.requests, RwCall.txnRequests, CustomTransaction.beginRequests]

/-- **The history changes only by a successful commit.** In every reachable state of a healthy
run, a step leaves the committed history as it was, or is a `commit` that returns ok and appends
one write set to it. -/
theorem history_changes_only_by_commit {s : System} (hs : s.Reachable) (a : Action) :
    (s.step a).world.server.commits = s.world.server.commits ∨
      ∃ i ws, a = .rw i .commit ∧ (s.step a).lastOutcome = some (.ret (.unit (.ok ()))) ∧
        (s.step a).world.server.commits = s.world.server.commits ++ [ws] := by
  have hi := hs.inv
  cases a with
  | rw i c =>
    by_cases hc : c = .commit ∧ (s.rw i).finished = false
    · obtain ⟨rfl, hf⟩ := hc
      obtain ⟨ho, hcm⟩ := hi.step_commit hf
      split_ifs at ho hcm
      · exact .inl hcm
      · exact .inr ⟨i, _, rfl, ho, hcm⟩
    · left
      obtain ⟨t', he, -⟩ := CustomTransaction.run_healthy (t := s.rw i) (w := s.rwWorld i) c
        hi.healthy (hi.clientHandle i) fun hf h0 =>
          let ⟨_, hv⟩ := (hi.txn i hf).2 h0; ⟨_, hv⟩
      rw [System.world_step_rw, he, World.callAll_healthy (w := s.rwWorld i) hi.healthy]
      refine KvServer.handleAll_commits_of_not_commit fun r hr h e => ?_
      subst e
      by_cases hcm : c = .commit
      · subst hcm
        rw [RwCall.requests_of_finished (c := .commit) (by simpa using hc) nofun] at hr
        cases hr
      · exact RwCall.commit_not_mem_requests hcm _ _ h hr
  | ro j d =>
    left
    rw [System.step_ro, (CustomReadOnlyTransaction.run_healthy d hi.healthy
      (hi.roClientHandle j)).1, World.callAll_healthy hi.healthy]
    exact (RoCall.requests_store d _ _ _).1
  | tick _ _ => exact .inl rfl

/-- Transaction `0` of `twoWriters` commits its set of `[1]`. -/
theorem twoWriters_commit_changes_history :
    twoWriters.Reachable ∧
      ((twoWriters.step (.rw 0 .commit)).world.server.commits = twoWriters.world.server.commits ∨
        ∃ i ws, Action.rw 0 .commit = .rw i .commit ∧
          (twoWriters.step (.rw 0 .commit)).lastOutcome = some (.ret (.unit (.ok ()))) ∧
          (twoWriters.step (.rw 0 .commit)).world.server.commits =
            twoWriters.world.server.commits ++ [ws]) :=
  ⟨twoWriters_reachable, history_changes_only_by_commit twoWriters_reachable (.rw 0 .commit)⟩

/-- **An open read-write transaction reads one snapshot.** In every reachable state of a healthy
run, once a read-write transaction that is not finished has opened its server transaction, no
step of another transaction and no tick changes what its `get` and its `getRange` return. -/
theorem open_transaction_reads_isolated {s : System} (hs : s.Reachable) {j : Nat}
    (hf : (s.rw j).finished = false) (h0 : (s.rw j).transactionHandle ≠ 0) (as : List Action)
    (has : ∀ c, Action.rw j c ∉ as) (k : Bytes) (b e : KeySelector) (l : Int) :
    ((s.run as).step (.rw j (.get k))).lastOutcome = (s.step (.rw j (.get k))).lastOutcome ∧
      ((s.run as).step (.rw j (.getRange b e l))).lastOutcome =
        (s.step (.rw j (.getRange b e l))).lastOutcome := by
  have hi := hs.inv
  have hf' : ((s.run as).rw j).finished = false := by rw [(System.rw_run_of_not_mem has).1, hf]
  obtain ⟨-, -, henv⟩ := hi.server_run as
  rw [(hi.run as).step_get hf' k, hi.step_get hf k, (hi.run as).step_getRange hf' b e l,
    hi.step_getRange hf b e l, hs.view_run hf h0 has, henv]
  exact ⟨rfl, rfl⟩

/-- Transaction `1` overwrites `[5]` and commits; transaction `0`, open since its `get` of `[5]`,
is not told. -/
theorem twoWriters_reads_isolated :
    twoWriters.Reachable ∧ (twoWriters.rw 0).finished = false ∧
      (twoWriters.rw 0).transactionHandle ≠ 0 ∧
      (∀ c, Action.rw 0 c ∉ [.rw 1 (.set [5] [6]), .rw 1 .commit]) ∧
      ((twoWriters.run [.rw 1 (.set [5] [6]), .rw 1 .commit]).step (.rw 0 (.get [5]))).lastOutcome =
        (twoWriters.step (.rw 0 (.get [5]))).lastOutcome ∧
      ((twoWriters.run [.rw 1 (.set [5] [6]), .rw 1 .commit]).step
          (.rw 0 (.getRange ⟨[0], true⟩ ⟨[9], false⟩ 10))).lastOutcome =
        (twoWriters.step (.rw 0 (.getRange ⟨[0], true⟩ ⟨[9], false⟩ 10))).lastOutcome :=
  have has : ∀ c, Action.rw 0 c ∉ [.rw 1 (.set [5] [6]), .rw 1 .commit] := fun _ h => by simp at h
  ⟨twoWriters_reachable, by decide, by decide, has,
    open_transaction_reads_isolated twoWriters_reachable (by decide) (by decide) _ has [5]
      ⟨[0], true⟩ ⟨[9], false⟩ 10⟩

example : ((twoWriters.run [.rw 1 (.set [5] [6]), .rw 1 .commit]).step
      (.rw 0 (.get [5]))).lastOutcome = some (.ret (.value (.ok none))) ∧
    ((twoWriters.run [.rw 1 (.set [5] [6]), .rw 1 .commit]).step
      (.rw 2 (.get [5]))).lastOutcome = some (.ret (.value (.ok (some [6])))) := by
  decide

/-- **Read-modify-write loses no update.** In every reachable state of a healthy run, let
read-write transactions `i` and `j`, neither finished, be such that `j` has read key `k` with `get`
and `i` has set or cleared `k`. If `i` commits with success, then after any steps that are not
`j`'s the commit of `j` fails with `kConflict`. -/
theorem read_modify_write_conflicts {s : System} (hs : s.Reachable) {i j : Nat} (hij : i ≠ j)
    (hfi : (s.rw i).finished = false) (hfj : (s.rw j).finished = false) {k : Bytes}
    (hr : ReadConflict.point k ∈ System.readsOf j s.trace)
    (hw : (∃ v, Mutation.set k v ∈ System.writesOf i s.trace) ∨
      Mutation.clear k ∈ System.writesOf i s.trace)
    (hok : (s.step (.rw i .commit)).lastOutcome = some (.ret (.unit (.ok ()))))
    (as : List Action) (has : ∀ c, Action.rw j c ∉ as) :
    (((s.step (.rw i .commit)).run as).step (.rw j .commit)).lastOutcome =
      some (.ret (.unit (makeError .kConflict "Commit failed"))) := by
  have hi := hs.inv
  /- `j` has opened its server transaction: it has sent a read -/
  have h0 : (s.rw j).transactionHandle ≠ 0 := fun h0 => by
    simp [((hi.txn j hfj).1 h0).1] at hr
  have has' : ∀ c, Action.rw j c ∉ Action.rw i .commit :: as := by
    intro c hc
    rcases List.mem_cons.mp hc with h | h
    exacts [hij (Action.rw.inj h).1.symm, has c h]
  have ht := (System.rw_run_of_not_mem (s := s) has').1
  have hst := hi.serverTxn_run hfj h0 has'
  rw [System.run_cons] at ht hst
  /- the history after the commit of `i` ends with its writes, and later steps only extend it -/
  have hc := hi.commits_of_commit_ok hfi hok
  obtain ⟨d, hd⟩ := (hi.step (.rw i .commit)).commits_prefix_run as
  rw [hc] at hd
  have hv : s.snapshotVersion j ≤ s.world.server.latest :=
    hs.readsCommitted _ _ (hi.txns_eq hfj h0)
  have hx : ∃ x ∈ commitWrites (s.world.server.latest + 1) 0 (System.writesOf i s.trace),
      x.1 = k := by
    rcases hw with ⟨v, hm⟩ | hm <;> obtain ⟨_, h⟩ := mem_commitWrites hm _ 0
    exacts [⟨_, h, rfl⟩, ⟨_, h, rfl⟩]
  obtain ⟨x, hxm, rfl⟩ := hx
  rw [(((hi.step _).run as).step_commit (by rw [ht]; exact hfj)).1, hst, if_pos]
  rw [KvServer.conflicts_iff]
  refine ⟨_, ?_, x, hxm, .point x.1, hr, by simp [ReadConflict.covers]⟩
  rw [← hd, System.serverTxn_readVersion, List.append_assoc, List.drop_append_of_le_length hv]
  simp

/-- Transaction `0` of `twoWriters` has read `[5]`; transaction `1` sets `[5]` and commits;
`0` then sets `[6]` and its commit fails. -/
def readThenRace : System :=
  (System.init .healthy (fun _ => 0) (fun _ => 0)).run
    [.rw 0 (.get [5]), .rw 1 (.get [5]), .rw 1 (.set [5] [1])]

theorem readThenRace_conflicts :
    readThenRace.Reachable ∧ (1 : Nat) ≠ 0 ∧ (readThenRace.rw 1).finished = false ∧
      (readThenRace.rw 0).finished = false ∧
      ReadConflict.point [5] ∈ System.readsOf 0 readThenRace.trace ∧
      ((∃ v, Mutation.set [5] v ∈ System.writesOf 1 readThenRace.trace) ∨
        Mutation.clear [5] ∈ System.writesOf 1 readThenRace.trace) ∧
      (readThenRace.step (.rw 1 .commit)).lastOutcome = some (.ret (.unit (.ok ()))) ∧
      (∀ c, Action.rw 0 c ∉ [.rw 2 (.set [6] [0]), .rw 2 .commit]) ∧
      (((readThenRace.step (.rw 1 .commit)).run [.rw 2 (.set [6] [0]), .rw 2 .commit]).step
        (.rw 0 .commit)).lastOutcome = some (.ret (.unit (makeError .kConflict "Commit failed"))) :=
  have hs : readThenRace.Reachable := ⟨_, _, _, _, Env.healthy_healthy, rfl⟩
  have hr : ReadConflict.point [5] ∈ System.readsOf 0 readThenRace.trace := by decide
  have hw : (∃ v, Mutation.set [5] v ∈ System.writesOf 1 readThenRace.trace) ∨
      Mutation.clear [5] ∈ System.writesOf 1 readThenRace.trace := .inl ⟨[1], by decide⟩
  have hok : (readThenRace.step (.rw 1 .commit)).lastOutcome = some (.ret (.unit (.ok ()))) := by
    decide
  have has : ∀ c, Action.rw 0 c ∉ [.rw 2 (.set [6] [0]), .rw 2 .commit] := fun _ h => by simp at h
  ⟨hs, by decide, by decide, by decide, hr, hw, hok, has,
    read_modify_write_conflicts hs (by decide) (by decide) (by decide) hr hw hok _ has⟩

/-- **Writes alone never conflict.** In every reachable state of a healthy run, a read-write
transaction that is not finished and has sent the server no read commits with success and
appends its mutations, stamped, whatever was committed since its snapshot. -/
theorem blind_writes_commit {s : System} (hs : s.Reachable) {i : Nat}
    (hf : (s.rw i).finished = false) (hr : System.readsOf i s.trace = []) :
    (s.step (.rw i .commit)).lastOutcome = some (.ret (.unit (.ok ()))) ∧
      (s.step (.rw i .commit)).world.server.commits = s.world.server.commits ++
        [commitWrites (s.world.server.latest + 1) 0 (System.writesOf i s.trace)] := by
  have hc : s.world.server.conflicts (s.serverTxn i) = false := by
    simp [KvServer.conflicts, System.serverTxn, hr]
  obtain ⟨ho, hcm⟩ := hs.inv.step_commit hf
  rw [hc, if_neg Bool.false_ne_true] at ho hcm
  exact ⟨ho, hcm⟩

/-- Transaction `1` of `twoWriters` has only written. -/
theorem twoWriters_blind_commit :
    twoWriters.Reachable ∧ (twoWriters.rw 1).finished = false ∧
      System.readsOf 1 twoWriters.trace = [] ∧
      (twoWriters.step (.rw 1 .commit)).lastOutcome = some (.ret (.unit (.ok ()))) ∧
      (twoWriters.step (.rw 1 .commit)).world.server.commits = twoWriters.world.server.commits ++
        [commitWrites (twoWriters.world.server.latest + 1) 0
          (System.writesOf 1 twoWriters.trace)] :=
  have hr : System.readsOf 1 twoWriters.trace = [] := by decide
  ⟨twoWriters_reachable, by decide, hr, blind_writes_commit twoWriters_reachable (by decide) hr⟩

/-- **A read-write transaction's read version moves only `snapshotGet`.** In every reachable state
of a healthy run, after `setReadVersion v` a read-write transaction that is not finished answers
`get`, `getRange` and `commit` as it would have without it; only `snapshotGet` reads at
`v`. -/
theorem setReadVersion_only_moves_snapshotGet {s : System} (hs : s.Reachable) {i : Nat}
    (hf : (s.rw i).finished = false) (v : Int) (k : Bytes) (b e : KeySelector) (l : Int) :
    ((s.step (.rw i (.setReadVersion v))).step (.rw i (.get k))).lastOutcome =
        (s.step (.rw i (.get k))).lastOutcome ∧
      ((s.step (.rw i (.setReadVersion v))).step (.rw i (.getRange b e l))).lastOutcome =
        (s.step (.rw i (.getRange b e l))).lastOutcome ∧
      ((s.step (.rw i (.setReadVersion v))).step (.rw i .commit)).lastOutcome =
        (s.step (.rw i .commit)).lastOutcome ∧
      ((s.step (.rw i (.setReadVersion v))).step (.rw i (.snapshotGet k))).lastOutcome =
        some (.ret (.value (.ok
          ((s.world.server.snapshot (s.world.server.readVersionAt v)).get k)))) := by
  have hi := hs.inv
  have hrw : (s.step (.rw i (.setReadVersion v))).rw i = { s.rw i with readVersion := some v } := by
    simp [RwCall.run, CustomTransaction.setReadVersion]
  have hw : (s.step (.rw i (.setReadVersion v))).world = s.rwWorld i := by
    simp [RwCall.run, CustomTransaction.setReadVersion]
  have hf' : ((s.step (.rw i (.setReadVersion v))).rw i).finished = false := by
    rw [hrw]
    exact hf
  have hst : (s.step (.rw i (.setReadVersion v))).serverTxn i = s.serverTxn i := by
    simp [System.serverTxn, System.snapshotVersion, RwCall.run, CustomTransaction.setReadVersion,
      System.readsOf_append_rw, System.writesOf_append_rw, RwCall.sentRead, RwCall.sentWrite]
  have hs' := hi.step (.rw i (.setReadVersion v))
  refine ⟨?_, ?_, ?_, ?_⟩
  · rw [hs'.step_get hf' k, hi.step_get hf k, hst, hw, System.rwWorld_server]
  · rw [hs'.step_getRange hf' b e l, hi.step_getRange hf b e l, hst, hw, System.rwWorld_server,
      System.rwWorld_env]
  · rw [(hs'.step_commit hf').1, (hi.step_commit hf).1, hst, hw, System.rwWorld_server]
  · rw [hs'.step_snapshotGet hf' k, hrw, hw, System.rwWorld_server, Option.getD_some]

/-- Transaction `0` of `twoWriters` pins version `0`. -/
theorem twoWriters_setReadVersion :
    twoWriters.Reachable ∧ (twoWriters.rw 0).finished = false ∧
      ((twoWriters.step (.rw 0 (.setReadVersion 0))).step (.rw 0 (.get [1]))).lastOutcome =
        (twoWriters.step (.rw 0 (.get [1]))).lastOutcome ∧
      ((twoWriters.step (.rw 0 (.setReadVersion 0))).step
          (.rw 0 (.getRange ⟨[0], true⟩ ⟨[9], false⟩ 10))).lastOutcome =
        (twoWriters.step (.rw 0 (.getRange ⟨[0], true⟩ ⟨[9], false⟩ 10))).lastOutcome ∧
      ((twoWriters.step (.rw 0 (.setReadVersion 0))).step (.rw 0 .commit)).lastOutcome =
        (twoWriters.step (.rw 0 .commit)).lastOutcome ∧
      ((twoWriters.step (.rw 0 (.setReadVersion 0))).step (.rw 0 (.snapshotGet [1]))).lastOutcome =
        some (.ret (.value (.ok
          ((twoWriters.world.server.snapshot (twoWriters.world.server.readVersionAt 0)).get
            [1])))) :=
  ⟨twoWriters_reachable, by decide, setReadVersion_only_moves_snapshotGet twoWriters_reachable
    (by decide) 0 [1] ⟨[0], true⟩ ⟨[9], false⟩ 10⟩

/-- **Snapshot reads at a committed read version are repeatable.** In every reachable state of a
healthy run, a read-only transaction whose read version is committed and not `0` answers its
`snapshotGet` and its `snapshotGetRange` the same after any steps of other transactions. -/
theorem pinned_snapshot_reads_repeatable {s : System} (hs : s.Reachable) {j : Nat} {v : Int}
    (hv : (s.ro j).readVersion = some v) (hv0 : v ≠ 0) (hle : v ≤ s.world.server.latest)
    (as : List Action) (has : ∀ d, Action.ro j d ∉ as) (k : Bytes) (b e : KeySelector) (l : Int) :
    ((s.run as).step (.ro j (.snapshotGet k))).lastOutcome =
        (s.step (.ro j (.snapshotGet k))).lastOutcome ∧
      ((s.run as).step (.ro j (.snapshotGetRange b e l))).lastOutcome =
        (s.step (.ro j (.snapshotGetRange b e l))).lastOutcome := by
  have hi := hs.inv
  have hu := System.ro_run_of_not_mem (s := s) has
  cases hcl : (s.ro j).cancelled || (s.ro j).isReset with
  | true =>
    simp only [System.lastOutcome_step_ro, RoCall.run, Co.map_apply_fst, hu,
      CustomReadOnlyTransaction.snapshotGet_of_closed hcl,
      CustomReadOnlyTransaction.snapshotGetRange_of_closed hcl, and_self]
  | false =>
    obtain ⟨hc, hr⟩ := Bool.or_eq_false_iff.mp hcl
    obtain ⟨-, -, henv⟩ := hi.server_run as
    have hp := hi.commits_prefix_run as
    rw [hi.step_ro_snapshotGet hc hr, (hi.run as).step_ro_snapshotGet (hu ▸ hc) (hu ▸ hr),
      hi.step_ro_snapshotGetRange hc hr, (hi.run as).step_ro_snapshotGetRange (hu ▸ hc) (hu ▸ hr),
      hu, hv, Option.getD_some, KvServer.readVersionAt_of_prefix hp hv0 hle,
      KvServer.snapshot_of_prefix hp (s.world.server.readVersionAt_le v), henv]
    exact ⟨rfl, rfl⟩

/-- Transaction `0` commits `[1]` at version `1`, which read-only transaction `0` pins. -/
def pinnedReader : System :=
  (System.init .healthy (fun _ => 0) (fun _ => 0)).run
    [.rw 0 (.set [1] [2]), .rw 0 .commit, .ro 0 (.setReadVersion 1)]

/-- Transaction `1` overwrites `[1]` and commits; the pinned reader still reads version `1`. -/
theorem pinnedReader_repeats :
    pinnedReader.Reachable ∧ (pinnedReader.ro 0).readVersion = some 1 ∧ (1 : Int) ≠ 0 ∧
      (1 : Int) ≤ pinnedReader.world.server.latest ∧
      (∀ d, Action.ro 0 d ∉ [.rw 1 (.set [1] [9]), .rw 1 .commit]) ∧
      ((pinnedReader.run [.rw 1 (.set [1] [9]), .rw 1 .commit]).step
          (.ro 0 (.snapshotGet [1]))).lastOutcome =
        (pinnedReader.step (.ro 0 (.snapshotGet [1]))).lastOutcome ∧
      ((pinnedReader.run [.rw 1 (.set [1] [9]), .rw 1 .commit]).step
          (.ro 0 (.snapshotGetRange ⟨[0], true⟩ ⟨[9], false⟩ 10))).lastOutcome =
        (pinnedReader.step (.ro 0 (.snapshotGetRange ⟨[0], true⟩ ⟨[9], false⟩ 10))).lastOutcome :=
  have hs : pinnedReader.Reachable := ⟨_, _, _, _, Env.healthy_healthy, rfl⟩
  have hv : (pinnedReader.ro 0).readVersion = some 1 := rfl
  have has : ∀ d, Action.ro 0 d ∉ [.rw 1 (.set [1] [9]), .rw 1 .commit] := fun _ h => by simp at h
  ⟨hs, hv, by decide, by decide, has,
    pinned_snapshot_reads_repeatable hs hv (by decide) (by decide) _ has [1] ⟨[0], true⟩
      ⟨[9], false⟩ 10⟩

example : ((pinnedReader.run [.rw 1 (.set [1] [9]), .rw 1 .commit]).step
      (.ro 0 (.snapshotGet [1]))).lastOutcome = some (.ret (.value (.ok (some [2])))) ∧
    ((pinnedReader.run [.rw 1 (.set [1] [9]), .rw 1 .commit]).step
      (.ro 1 (.snapshotGet [1]))).lastOutcome = some (.ret (.value (.ok (some [9])))) := by
  decide

end CustomKv
