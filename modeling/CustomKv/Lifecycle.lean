import CustomKv.TransactionLemmas

/-!
# Commit and reset over sequences of calls

`commit` sets `committed_` before it reaches the server and does not clear it when the server
refuses: every later `commit` takes the "Already committed" branch and reports success. `reset`
sets `reset_` for good: from then on the guards refuse every read, write and commit, and the
transaction reaches the server again only to abort the handle it kept, by `cancel`.
-/

namespace CustomKv

/-- What a call answers on a read-write transaction that has been reset. -/
def RwCall.afterReset : RwCall → Answer
  | .setReadVersion _ | .reset => .done
  | .cancel => .unit (.ok ())
  | .commit => .unit (makeError .kInvalidArg "Transaction is cancelled or reset")
  | .getCommittedVersion => .version (-1)
  | c => c.refusal

/-- What a call answers on a read-only transaction that has been reset. -/
def RoCall.afterReset : RoCall → Answer
  | .setReadVersion _ | .reset => .done
  | .cancel => .unit (.ok ())
  | .snapshotGet _ | .get _ => .value (makeError .kInvalidArg "Transaction is cancelled or reset")
  | .snapshotGetRange .. | .getRange .. =>
    .range (makeError .kInvalidArg "Transaction is cancelled or reset")

namespace CustomTransaction

variable {t : CustomTransaction} {w : World}

/-- On a transaction that is neither cancelled nor reset, `commit` sets `committed_` and changes
at most the handle and the committed version, whatever the server and the futures do. -/
theorem commit_self (hc : t.cancelled = false) (hr : t.isReset = false) :
    ∃ h v, (commit (t, w)).2.1 =
      { t with committed := true, committedVersion := v, transactionHandle := h } := by
  cases hcm : t.committed
  case true =>
    exact ⟨t.transactionHandle, t.committedVersion,
      by simp only [commit_of_committed hc hr hcm, ← hcm]⟩
  obtain ⟨h, hh⟩ := ensureTransaction_self { t with committed := true } w
  rw [commit_of_ready hc hr hcm]
  rcases he : ensureTransaction ({ t with committed := true }, w) with
    ⟨(_ | ⟨⟩) | _, t₁, w₁⟩ <;> rw [he] at hh <;> subst hh
  · exact ⟨h, t.committedVersion, rfl⟩
  · dsimp only
    split_ifs
    exacts [⟨h, t.committedVersion, rfl⟩, ⟨h, w₁.clock, rfl⟩, ⟨h, t.committedVersion, rfl⟩]
  · exact ⟨h, t.committedVersion, rfl⟩

/-- After any `commit` on a transaction that is neither cancelled nor reset, whatever that
commit returned or threw, a second `commit`, in any world, returns ok, sends nothing and changes
nothing. -/
theorem commit_commit (hc : t.cancelled = false) (hr : t.isReset = false) (w' : World) :
    commit ((commit (t, w)).2.1, w') = (.ret (.ok ()), ((commit (t, w)).2.1, w')) := by
  obtain ⟨h, v, ht⟩ := commit_self (w := w) hc hr
  rw [ht]
  exact commit_of_committed hc hr rfl

/-- Guarded calls on a finished transaction answer their refusals and change nothing. -/
theorem runAll_of_finished {cs : List RwCall} (hg : ∀ c ∈ cs, c.Guarded)
    (hf : t.finished = true) :
    RwCall.runAll cs (t, w) = (cs.map (.ret ∘ RwCall.refusal), (t, w)) := by
  induction cs with
  | nil => rfl
  | cons c cs ih =>
    rw [RwCall.runAll_cons, run_of_finished (hg c (.head _)) hf,
      ih fun c' hc' => hg c' (.tail _ hc')]
    rfl

/-- **Commit is final.** On a transaction that is neither cancelled nor reset, after `commit`,
whatever it returned or threw, every read and write answers `Transaction is finished` and
changes nothing, in the transaction or in the world. -/
theorem commit_final (hc : t.cancelled = false) (hr : t.isReset = false) (cs : List RwCall)
    (hg : ∀ c ∈ cs, c.Guarded) :
    RwCall.runAll (.commit :: cs) (t, w) =
      ((RwCall.commit.run (t, w)).1 :: cs.map (.ret ∘ RwCall.refusal),
        (RwCall.commit.run (t, w)).2) := by
  obtain ⟨h, v, ht⟩ := commit_self (w := w) hc hr
  have hf : (RwCall.commit.run (t, w)).2.1.finished = true := by
    rw [RwCall.run, Co.map_apply_snd, ht]
    simp [finished]
  rw [RwCall.runAll_cons, ← Prod.mk.eta (p := (RwCall.commit.run (t, w)).2),
    runAll_of_finished hg hf]

end CustomTransaction

/-- After a commit on a fresh transaction, a read and a write are refused. -/
theorem commit_then_get_set_refused :
    (CustomTransaction.create true).cancelled = false ∧
      (CustomTransaction.create true).isReset = false ∧
      (∀ c ∈ [RwCall.get [1], .set [1] [2]], c.Guarded) ∧
      RwCall.runAll [.commit, .get [1], .set [1] [2]]
          (CustomTransaction.create true, World.init .healthy 0) =
        ((RwCall.commit.run (CustomTransaction.create true, World.init .healthy 0)).1 ::
            [RwCall.get [1], .set [1] [2]].map (.ret ∘ RwCall.refusal),
          (RwCall.commit.run (CustomTransaction.create true, World.init .healthy 0)).2) :=
  have hg : ∀ c ∈ [RwCall.get [1], .set [1] [2]], c.Guarded := by
    simp only [List.mem_cons, List.mem_singleton, List.not_mem_nil, or_false]
    rintro c (rfl | rfl) <;> trivial
  ⟨rfl, rfl, hg, CustomTransaction.commit_final rfl rfl _ hg⟩

/-- A run in which the first commit of transaction `0` conflicts: it read key `1`, which
transaction `1` overwrote and committed first. -/
def retryAfterConflict : System :=
  (System.init .healthy (fun _ => 0) (fun _ => 0)).run
    [.rw 0 (.get [1]), .rw 0 (.set [2] [5]), .rw 1 (.set [1] [0]), .rw 1 .commit, .rw 0 .commit,
      .rw 0 .commit]

/-- **A retried commit succeeds without the server.** In any run, a second `commit` of a
read-write transaction that is neither cancelled nor reset answers ok, and leaves the server and
the requests sent as the first one left them. -/
theorem System.step_commit_commit (s : System) {i : Nat} (hc : (s.rw i).cancelled = false)
    (hr : (s.rw i).isReset = false) :
    ((s.step (.rw i .commit)).step (.rw i .commit)).lastOutcome = some (.ret (.unit (.ok ()))) ∧
      ((s.step (.rw i .commit)).step (.rw i .commit)).world.server =
        (s.step (.rw i .commit)).world.server ∧
      ((s.step (.rw i .commit)).step (.rw i .commit)).world.calls =
        (s.step (.rw i .commit)).world.calls := by
  have hrw : (s.step (.rw i .commit)).rw i =
      (CustomTransaction.commit (s.rw i, s.rwWorld i)).2.1 := by
    simp only [System.step_rw, Function.update_same, RwCall.run, Co.map_apply_snd]
  have h := CustomTransaction.commit_commit (w := s.rwWorld i) hc hr
    ((s.step (.rw i .commit)).rwWorld i)
  rw [← hrw] at h
  generalize s.step (.rw i .commit) = s' at h ⊢
  have hrun : RwCall.commit.run (s'.rw i, s'.rwWorld i) =
      (.ret (.unit (.ok ())), (s'.rw i, s'.rwWorld i)) := by
    simp only [RwCall.run, Co.map_apply, h]
  rw [System.lastOutcome_step_rw, System.world_step_rw, hrun]
  exact ⟨rfl, rfl, rfl⟩

/-- The retry of the refused commit reports success, though it sent nothing and the write of
transaction `0` never reached the store. -/
theorem commit_retry_ok_after_conflict :
    (retryAfterConflict.trace.drop 4).map (·.outcome) =
        [some (.ret (.unit (makeError .kConflict "Commit failed"))),
          some (.ret (.unit (.ok ())))] ∧
      (retryAfterConflict.world.server.snapshot
        retryAfterConflict.world.server.latest).get [2] = none ∧
      retryAfterConflict.world.calls.count (.transactionCommit 1) = 1 := by
  obtain ⟨hok, hsrv, hcalls⟩ := System.step_commit_commit (i := 0)
    ((System.init .healthy (fun _ => 0) (fun _ => 0)).run
      [.rw 0 (.get [1]), .rw 0 (.set [2] [5]), .rw 1 (.set [1] [0]), .rw 1 .commit])
    (by decide) (by decide)
  simp only [System.run_cons, System.run_nil] at hok hsrv hcalls
  simp only [retryAfterConflict, System.run_cons, System.run_nil]
  rw [System.trace_step, hok, hsrv, hcalls]
  decide

namespace CustomTransaction

variable {t : CustomTransaction} {w : World}

/-- One call on a reset transaction: it answers `afterReset`, keeps `reset_` and the committed
version `-1`, and sends nothing but the abort of the handle it holds, by `cancel`, which then
drops the handle. -/
theorem run_of_reset (c : RwCall) (hr : t.isReset = true) (hv : t.committedVersion = -1) :
    let r := c.run (t, w)
    r.1 = .ret c.afterReset ∧ r.2.1.isReset = true ∧ r.2.1.committedVersion = -1 ∧
      (r.2.1.transactionHandle = t.transactionHandle ∧ r.2.2.calls = w.calls ∨
        t.transactionHandle ≠ 0 ∧ r.2.1.transactionHandle = 0 ∧
          r.2.2.calls = w.calls ++ [.transactionAbort t.transactionHandle]) := by
  have hf : t.finished = true := by simp only [finished, hr, Bool.or_true, Bool.true_or]
  cases c
  case cancel =>
    cases hc : t.cancelled
    · by_cases h0 : t.transactionHandle = 0 <;>
        simp only [RwCall.run, Co.map_apply, cancel_of_not_cancelled hc, hr, hv, Int.reduceNeg, h0,
          ↓reduceIte, RwCall.afterReset, and_self, ne_eq, not_true_eq_false,
          List.self_eq_append_right, List.cons_ne_self, and_false, or_false, World.call_calls,
          List.append_right_eq_self, not_false_eq_true, or_true]
    · simp only [RwCall.run, Co.map_apply, cancel_of_cancelled hc, RwCall.afterReset, hr, hv,
        Int.reduceNeg, and_self, ne_eq, List.self_eq_append_right, List.cons_ne_self, and_false,
        or_false]
  case setReadVersion | reset | commit | getCommittedVersion =>
    simp only [RwCall.run, setReadVersion, Co.map_apply, Co.modifySelf_apply, hr, hv, Int.reduceNeg,
      RwCall.afterReset, and_self, ne_eq, List.self_eq_append_right, List.cons_ne_self, and_false,
      or_false, reset, or_true, commit_of_cancelled_or_reset, getCommittedVersion]
  all_goals simp only [RwCall.Guarded, hf, run_of_finished, RwCall.afterReset, hr, hv, Int.reduceNeg,
    and_self, ne_eq, List.self_eq_append_right, List.cons_ne_self, and_false, or_false]

/-- **Reset is final.** Over any calls after a reset, each call answers `afterReset`, and the
only request sent is at most one abort of the handle held at the start. -/
theorem runAll_of_reset (cs : List RwCall) (hr : t.isReset = true) (hv : t.committedVersion = -1) :
    let r := RwCall.runAll cs (t, w)
    r.1 = cs.map (.ret ∘ RwCall.afterReset) ∧
      (r.2.2.calls = w.calls ∨
        t.transactionHandle ≠ 0 ∧
          r.2.2.calls = w.calls ++ [.transactionAbort t.transactionHandle]) := by
  induction cs generalizing t w with
  | nil => simp
  | cons c cs ih =>
    obtain ⟨ho, hr₁, hv₁, hc⟩ := run_of_reset (w := w) c hr hv
    obtain ⟨hos, hcalls⟩ := ih (w := (c.run (t, w)).2.2) hr₁ hv₁
    refine ⟨by simp only [RwCall.runAll_cons, ho, hos, List.map_cons, Function.comp_apply], ?_⟩
    rcases hc with ⟨hh, hw⟩ | ⟨h0, hh, hw⟩
    · simpa only [RwCall.runAll_cons, ne_eq, Prod.mk.eta, hw, hh] using hcalls
    · refine .inr ⟨h0, ?_⟩
      rcases hcalls with hcalls | ⟨hne, -⟩
      · simpa only [RwCall.runAll_cons, hw] using hcalls
      · exact absurd hh hne

end CustomTransaction

namespace CustomReadOnlyTransaction

variable {t : CustomReadOnlyTransaction} {w : World}

theorem run_of_reset (c : RoCall) (hr : t.isReset = true) :
    ∃ t', c.run (t, w) = (.ret c.afterReset, (t', w)) ∧ t'.isReset = true := by
  have h : (t.cancelled || t.isReset) = true := by simp only [hr, Bool.or_true]
  cases c
  case cancel => cases hc : t.cancelled <;> simp only [RoCall.run, cancel, Bool.not_eq_eq_eq_not,
    Bool.not_true, Co.map_apply, Co.bind_apply, Co.self_apply, hc, ↓reduceIte, Co.modifySelf_apply,
    hr, Co.pure_apply, RoCall.afterReset, Prod.mk.injEq, and_true, true_and, exists_eq_left',
    Bool.true_eq_false]
  all_goals simp only [RoCall.run, setReadVersion, Co.map_apply, Co.modifySelf_apply, hr,
    RoCall.afterReset, Prod.mk.injEq, and_true, true_and, exists_eq_left', snapshotGet_of_closed h,
    get_of_closed h, snapshotGetRange_of_closed h, getRange_of_closed h, reset]

/-- A reset read-only transaction answers `afterReset` to every call and sends nothing. -/
theorem runAll_of_reset (cs : List RoCall) (hr : t.isReset = true) :
    (RoCall.runAll cs (t, w)).1 = cs.map (.ret ∘ RoCall.afterReset) ∧
      (RoCall.runAll cs (t, w)).2.2 = w := by
  induction cs generalizing t with
  | nil => simp
  | cons c cs ih =>
    obtain ⟨t', hs, hr'⟩ := run_of_reset (w := w) c hr
    simp [hs, ih hr']

end CustomReadOnlyTransaction

/-- After `reset`, a read-write transaction answers `afterReset` to every call and sends at most
the abort of the handle it kept; a read-only one answers `afterReset` and sends nothing. `reset`
itself sends nothing. -/
theorem reset_final (t : CustomTransaction) (u : CustomReadOnlyTransaction) (w : World)
    (cs : List RwCall) (ds : List RoCall) :
    (RwCall.runAll (.reset :: cs) (t, w)).1 = .ret .done :: cs.map (.ret ∘ RwCall.afterReset) ∧
      (RoCall.runAll (.reset :: ds) (u, w)).1 =
        .ret .done :: ds.map (.ret ∘ RoCall.afterReset) := by
  obtain ⟨h₁, -⟩ := CustomTransaction.runAll_of_reset
    (t := (CustomTransaction.reset (t, w)).2.1) (w := w) cs rfl rfl
  obtain ⟨h₃, -⟩ := CustomReadOnlyTransaction.runAll_of_reset
    (t := (CustomReadOnlyTransaction.reset (u, w)).2.1) (w := w) ds rfl
  simp only [RwCall.runAll_cons, RoCall.runAll_cons]
  exact ⟨by simpa [RwCall.run, CustomTransaction.reset] using h₁,
    by simpa [RoCall.run, CustomReadOnlyTransaction.reset] using h₃⟩

/-- A `set` after `reset` is refused, where on a fresh transaction it succeeds. -/
theorem reset_differs_from_fresh :
    (RwCall.runAll [.set [1] [2]]
        (CustomTransaction.reset (CustomTransaction.create true, World.init .healthy 0)).2).1 ≠
      (RwCall.runAll [.set [1] [2]] (CustomTransaction.create true, World.init .healthy 0)).1 := by
  decide

end CustomKv
