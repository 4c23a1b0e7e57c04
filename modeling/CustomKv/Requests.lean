import CustomKv.TransactionLemmas

/-!
# The requests each call sends

In a healthy environment every call of a transaction leaves the world it found with a list of
requests issued in order, and nothing else changed: `RwCall.requests` and `RoCall.requests` list
them, from the transaction's state and the handle the server gives out next. `run_healthy` says
so for every call, together with the transaction handle afterwards and whether the transaction
is finished. The invariants of many transactions against one server are proved from this one
statement and never unfold a call again.
-/

namespace CustomKv

/-- The calls that open the server transaction before their request: those behind
`withTransaction`, and `commit`. -/
def RwCall.needsTxn : RwCall → Bool
  | .get _ | .getRange .. | .snapshotGetRange .. | .set .. | .clear _ | .setVersionstampedKey ..
  | .setVersionstampedValue .. | .commit => true
  | _ => false

/-- The calls after which the transaction is finished. -/
def RwCall.finishes : RwCall → Bool
  | .cancel | .reset | .commit => true
  | _ => false

/-- The requests a call sends on the open server transaction `h`. -/
def RwCall.txnRequests (h : Nat) : RwCall → List Request
  | .get k => [.transactionGet h k]
  | .getRange b e l | .snapshotGetRange b e l =>
    [.transactionGetRange h (beginSelector b) (endSelector e) l]
  | .set k v => [.transactionSet h k v]
  | .clear k => [.transactionDelete h k]
  | .setVersionstampedKey k _ v =>
    if k.isEmpty then [] else [.transactionSetVersionstampedKey h k v]
  | .setVersionstampedValue k v _ =>
    if k.isEmpty then [] else [.transactionSetVersionstampedValue h k (v ++ List.replicate 10 0)]
  | .commit => [.transactionCommit h]
  | _ => []

namespace CustomTransaction

/-- The handle a call that needs the server transaction works on: the open one, or `next`, the
one `kv_transaction_begin` gets. -/
def handleFor (t : CustomTransaction) (next : Nat) : Nat :=
  if t.transactionHandle = 0 then next else t.transactionHandle

/-- `kv_transaction_begin`, when there is no server transaction yet. -/
def beginRequests (t : CustomTransaction) : List Request :=
  if t.transactionHandle = 0 then [.transactionBegin 30] else []

end CustomTransaction

/-- The requests a call sends in a healthy environment, in order; `next` is the handle the server
gives out next. -/
def RwCall.requests (c : RwCall) (t : CustomTransaction) (next : Nat) : List Request :=
  match c with
  | .cancel =>
    if t.cancelled || t.transactionHandle = 0 then [] else [.transactionAbort t.transactionHandle]
  | .snapshotGet k =>
    if t.finished then []
    else [.readTransactionBegin (t.readVersion.getD 0), .readTransactionGet next k,
      .readTransactionDestroy next]
  | c =>
    if t.finished || !c.needsTxn then []
    else t.beginRequests ++ c.txnRequests (t.handleFor next)

/-- The transaction handle after a call in a healthy environment. -/
def RwCall.handleAfter (c : RwCall) (t : CustomTransaction) (next : Nat) : Nat :=
  match c with
  | .cancel => if t.cancelled then t.transactionHandle else 0
  | c => if t.finished || !c.needsTxn then t.transactionHandle else t.handleFor next

namespace RwCall

variable {c : RwCall} {t : CustomTransaction} {next : Nat}

/-- A call that needs the server transaction sends nothing on a finished transaction, and else
opens the server transaction if there is none and sends its own requests on it. -/
theorem requests_of_needsTxn (hn : c.needsTxn = true) :
    c.requests t next =
      if t.finished then [] else t.beginRequests ++ c.txnRequests (t.handleFor next) := by
  cases c <;> simp only [needsTxn, reduceCtorEq] at hn <;> simp [requests, needsTxn]

theorem handleAfter_of_needsTxn (hn : c.needsTxn = true) :
    c.handleAfter t next = if t.finished then t.transactionHandle else t.handleFor next := by
  cases c <;> simp only [needsTxn, reduceCtorEq] at hn <;> simp [handleAfter, needsTxn]

/-- Only `cancel` drops the handle of a call that needs no server transaction. -/
theorem handleAfter_of_local (hn : c.needsTxn = false) (hc : c ≠ .cancel) :
    c.handleAfter t next = t.transactionHandle := by
  cases c <;> simp only [needsTxn, reduceCtorEq] at hn <;> simp_all [handleAfter, needsTxn]

/-- On a finished transaction every call but `cancel` sends nothing and keeps the handle. -/
theorem requests_of_finished (hf : t.finished = true) (hc : c ≠ .cancel) :
    c.requests t next = [] := by
  cases c <;> simp_all [requests]

theorem handleAfter_of_finished (hf : t.finished = true) (hc : c ≠ .cancel) :
    c.handleAfter t next = t.transactionHandle := by
  cases c <;> simp_all [handleAfter]

end RwCall

/-- `kv_transaction_begin` in a healthy world opens a transaction at the latest version under the
next handle. -/
theorem World.call_begin_txns {w : World} (hw : w.env.Healthy) (n : Nat) :
    (w.call (.transactionBegin n)).2.server.txns (w.server.lastHandle + 1) =
      some ⟨w.server.latest, [], []⟩ := by
  simp [World.call_healthy hw, KvServer.handle]

namespace CustomTransaction

variable {t : CustomTransaction} {w : World}

/-- On an open transaction in a healthy world, a call that needs the server transaction sends
its requests on the transaction's handle and keeps the handle. -/
theorem run_of_open {c : RwCall} (hn : c.needsTxn = true) (hf : t.finished = false)
    (h0 : t.transactionHandle ≠ 0) {st : ServerTxn}
    (hst : w.server.txns t.transactionHandle = some st) (hw : w.env.Healthy) :
    ∃ t', (c.run (t, w)).2 = (t', w.callAll (c.txnRequests t.transactionHandle)) ∧
      t'.clientHandle = t.clientHandle ∧ t'.transactionHandle = t.transactionHandle ∧
      t'.finished = c.finishes := by
  cases c <;> simp only [RwCall.needsTxn, reduceCtorEq] at hn
  case get k => exact ⟨t, by simp [RwCall.run, get_of_open hf h0 hst hw, RwCall.txnRequests],
    rfl, rfl, hf⟩
  case getRange b e l => exact ⟨t, by simp [RwCall.run, getRange_of_open hf h0 hst hw,
    RwCall.txnRequests], rfl, rfl, hf⟩
  case snapshotGetRange b e l => exact ⟨t, by simp [RwCall.run, snapshotGetRange,
    getRange_of_open hf h0 hst hw, RwCall.txnRequests], rfl, rfl, hf⟩
  case set k v => exact ⟨t, by simp [RwCall.run, set_of_open hf h0 hst hw, RwCall.txnRequests],
    rfl, rfl, hf⟩
  case clear k => exact ⟨t, by simp [RwCall.run, clear_of_open hf h0 hst hw,
    RwCall.txnRequests], rfl, rfl, hf⟩
  case setVersionstampedKey k o v =>
    by_cases hk : k = []
    · subst hk
      exact ⟨t, by simp [RwCall.run, setVersionstampedKey_of_empty hf h0, RwCall.txnRequests],
        rfl, rfl, hf⟩
    · exact ⟨t, by simp [RwCall.run, setVersionstampedKey_of_open hf h0 hst hw hk,
        RwCall.txnRequests, hk], rfl, rfl, hf⟩
  case setVersionstampedValue k v o =>
    by_cases hk : k = []
    · subst hk
      exact ⟨t, by simp [RwCall.run, setVersionstampedValue_of_empty hf h0,
        RwCall.txnRequests], rfl, rfl, hf⟩
    · exact ⟨t, by simp [RwCall.run, setVersionstampedValue_of_open hf h0 hst hw hk,
        RwCall.txnRequests, hk], rfl, rfl, hf⟩
  case commit =>
    have hf' := hf
    simp only [finished, Bool.or_eq_false_iff] at hf'
    by_cases hc : w.server.conflicts st
    · exact ⟨{ t with committed := true }, by simp [RwCall.run, commit_of_open hf h0 hst hw, hc,
        RwCall.txnRequests], rfl, rfl, by simp [finished, RwCall.finishes]⟩
    · exact ⟨{ t with committed := true, committedVersion := w.clock }, by simp [RwCall.run,
        commit_of_open hf h0 hst hw, hc, RwCall.txnRequests], rfl, rfl,
        by simp [finished, RwCall.finishes]⟩

/-- A fresh transaction runs a call that needs the server transaction as the transaction that
`kv_transaction_begin` has just opened. -/
theorem run_of_fresh_eq {c : RwCall} (hn : c.needsTxn = true) (hf : t.finished = false)
    (h0 : t.transactionHandle = 0) (hc : t.clientHandle = true) (hw : w.env.Healthy) :
    c.run (t, w) = c.run ({ t with transactionHandle := w.server.lastHandle + 1 },
      (w.call (.transactionBegin 30)).2) := by
  cases c <;> simp only [RwCall.needsTxn, reduceCtorEq] at hn <;>
    simp only [RwCall.run, Co.map_apply, get, getRange, snapshotGetRange, set, clear, mutate,
      setVersionstampedKey, setVersionstampedValue, withTransaction_of_fresh_eq hf h0 hc hw,
      commit_of_fresh hf h0 hc hw]

/-- On a fresh transaction, in any environment, a call that needs the server transaction sends
`kv_transaction_begin` first; unless that fails, it then runs as on the transaction holding the
handle the server returned. -/
theorem run_of_fresh {c : RwCall} (hn : c.needsTxn = true) (hf : t.finished = false)
    (h0 : t.transactionHandle = 0) (hc : t.clientHandle = true) :
    (c.run (t, w)).2.2 = (w.call (.transactionBegin 30)).2 ∨
      c.run (t, w) = c.run
        ({ t with transactionHandle := kvFutureGetTransaction (w.call (.transactionBegin 30)).1 },
          (w.call (.transactionBegin 30)).2) := by
  cases c <;> simp only [RwCall.needsTxn, reduceCtorEq] at hn
  case commit => exact CustomTransaction.map_commit_of_fresh_any hf h0 hc _
  all_goals exact CustomTransaction.map_withTransaction_of_fresh_any hf h0 hc _ _

/-- `cancel` aborts the server transaction it holds, unless it was cancelled already. -/
theorem run_cancel :
    ∃ t', (RwCall.cancel.run (t, w)).2 = (t', w.callAll (RwCall.cancel.requests t
      (w.server.lastHandle + 1))) ∧ t'.clientHandle = t.clientHandle ∧
      t'.transactionHandle = RwCall.cancel.handleAfter t (w.server.lastHandle + 1) ∧
      t'.finished = true := by
  cases hc : t.cancelled
  · refine ⟨{ t with cancelled := true, transactionHandle := 0 }, ?_, rfl,
      by simp [RwCall.handleAfter, hc], by simp [finished]⟩
    by_cases h0 : t.transactionHandle = 0 <;>
      simp [RwCall.run, cancel_of_not_cancelled hc, RwCall.requests, hc, h0]
  · exact ⟨t, by simp [RwCall.run, cancel_of_cancelled hc, RwCall.requests, hc], rfl,
      by simp [RwCall.handleAfter, hc], by simp [finished, hc]⟩

/-- On a finished transaction every call but `cancel` sends nothing and keeps the handle. -/
theorem run_of_finished_frame {c : RwCall} (hcancel : c ≠ .cancel) (hf : t.finished = true) :
    ∃ t', (c.run (t, w)).2 = (t', w) ∧ t'.clientHandle = t.clientHandle ∧
      t'.transactionHandle = t.transactionHandle ∧ t'.finished = true := by
  cases c
  case setReadVersion v =>
    exact ⟨{ t with readVersion := some v }, rfl, rfl, rfl, hf⟩
  case reset => exact ⟨_, rfl, rfl, rfl, by simp [finished, RwCall.run, reset]⟩
  case cancel => exact absurd rfl hcancel
  case commit =>
    have h : t.cancelled = true ∨ t.isReset = true ∨ t.committed = true := by
      simpa [finished, or_assoc] using hf
    rcases h with h | h | h
    · exact ⟨t, by simp [RwCall.run, commit_of_cancelled_or_reset (.inl h)], rfl, rfl, hf⟩
    · exact ⟨t, by simp [RwCall.run, commit_of_cancelled_or_reset (.inr h)], rfl, rfl, hf⟩
    · cases hc : t.cancelled <;> cases hr : t.isReset
      · exact ⟨t, by simp [RwCall.run, commit_of_committed hc hr h], rfl, rfl, hf⟩
      all_goals
        exact ⟨t, by simp [RwCall.run, commit_of_cancelled_or_reset, hc, hr], rfl, rfl, hf⟩
  case getCommittedVersion => exact ⟨t, rfl, rfl, rfl, hf⟩
  all_goals exact ⟨t, by simp [run_of_finished, RwCall.Guarded, hf], rfl, rfl, hf⟩

/-- An open transaction's calls that need no server transaction: they send the requests of
`snapshotGet`'s own read transaction or nothing, and keep the handle. -/
theorem run_of_local {c : RwCall} (hn : c.needsTxn = false) (hcancel : c ≠ .cancel)
    (hf : t.finished = false) (hc : t.clientHandle = true) (hw : w.env.Healthy) :
    ∃ t', (c.run (t, w)).2 = (t', w.callAll (c.requests t (w.server.lastHandle + 1))) ∧
      t'.clientHandle = t.clientHandle ∧ t'.transactionHandle = t.transactionHandle ∧
      t'.finished = c.finishes := by
  cases c <;> simp only [RwCall.needsTxn, reduceCtorEq] at hn
  case snapshotGet k => exact ⟨t, by simp [RwCall.run, snapshotGet_of_healthy hf hc hw,
    RwCall.requests, hf], rfl, rfl, hf⟩
  case cancel => exact absurd rfl hcancel
  case setReadVersion v => exact ⟨{ t with readVersion := some v }, by simp [RwCall.run,
    setReadVersion, RwCall.requests, RwCall.needsTxn], rfl, rfl, hf⟩
  case reset =>
    exact ⟨(reset (t, w)).2.1, by simp [RwCall.run, RwCall.requests, RwCall.needsTxn, reset],
    rfl, rfl, by simp [finished, RwCall.finishes, reset]⟩
  all_goals exact ⟨t, by simp [RwCall.run, RwCall.requests, RwCall.needsTxn, addReadConflict,
    addReadConflictRange, getCommittedVersion, hf], rfl, rfl, hf⟩

/-- **What a call does in a healthy world.** It sends `c.requests` and nothing else, keeps the
client handle, moves to `c.handleAfter`, and is finished afterwards exactly when it was before or
the call is `cancel`, `reset` or `commit`. -/
theorem run_healthy (c : RwCall) (hw : w.env.Healthy) (hc : t.clientHandle = true)
    (hst : t.finished = false → t.transactionHandle ≠ 0 →
      ∃ st, w.server.txns t.transactionHandle = some st) :
    ∃ t', (c.run (t, w)).2 = (t', w.callAll (c.requests t (w.server.lastHandle + 1))) ∧
      t'.clientHandle = true ∧
      t'.transactionHandle = c.handleAfter t (w.server.lastHandle + 1) ∧
      t'.finished = (t.finished || c.finishes) := by
  by_cases hcancel : c = .cancel
  · subst hcancel
    obtain ⟨t', h, h₁, h₂, h₃⟩ := run_cancel (t := t) (w := w)
    exact ⟨t', h, h₁ ▸ hc, h₂, by simp [h₃, RwCall.finishes]⟩
  cases hf : t.finished with
  | true =>
    obtain ⟨t', h, h₁, h₂, h₃⟩ := run_of_finished_frame (w := w) hcancel hf
    refine ⟨t', ?_, h₁ ▸ hc, ?_, by simp [h₃]⟩
    · rw [RwCall.requests_of_finished hf hcancel, h, World.callAll_nil]
    · rw [RwCall.handleAfter_of_finished hf hcancel, h₂]
  | false =>
    cases hn : c.needsTxn with
    | true =>
      rw [RwCall.requests_of_needsTxn hn, RwCall.handleAfter_of_needsTxn hn, hf, if_neg nofun,
        if_neg nofun]
      by_cases h0 : t.transactionHandle = 0
      · rw [run_of_fresh_eq hn hf h0 hc hw]
        obtain ⟨t', h, h₁, h₂, h₃⟩ := run_of_open (t := { t with transactionHandle :=
          w.server.lastHandle + 1 }) (w := (w.call (.transactionBegin 30)).2) hn hf
          (Nat.succ_ne_zero _) (World.call_begin_txns hw 30) (by simpa using hw)
        exact ⟨t', by simpa [beginRequests, handleFor, h0] using h, h₁ ▸ hc,
          by simpa [handleFor, h0] using h₂, by simpa using h₃⟩
      · obtain ⟨st, hst⟩ := hst hf h0
        obtain ⟨t', h, h₁, h₂, h₃⟩ := run_of_open (w := w) hn hf h0 hst hw
        exact ⟨t', by simpa [beginRequests, handleFor, h0] using h, h₁ ▸ hc,
          by simpa [handleFor, h0] using h₂, by simpa using h₃⟩
    | false =>
      obtain ⟨t', h, h₁, h₂, h₃⟩ := run_of_local hn hcancel hf hc hw
      exact ⟨t', h, h₁ ▸ hc, h₂.trans (RwCall.handleAfter_of_local hn hcancel).symm,
        by simp [h₃]⟩

end CustomTransaction

/-- The requests a read-only call sends in a healthy environment: the two snapshot reads open,
use and destroy a read transaction of their own; the rest send nothing. -/
def RoCall.requests (c : RoCall) (t : CustomReadOnlyTransaction) (next : Nat) : List Request :=
  if t.cancelled || t.isReset then []
  else match c with
    | .snapshotGet k => [.readTransactionBegin (t.readVersion.getD 0), .readTransactionGet next k,
        .readTransactionDestroy next]
    | .snapshotGetRange b e l => [.readTransactionBegin (t.readVersion.getD 0),
        .readTransactionGetRange next (beginSelector b) (endSelector e) l,
        .readTransactionDestroy next]
    | _ => []

namespace CustomReadOnlyTransaction

variable {t : CustomReadOnlyTransaction} {w : World}

theorem run_healthy (c : RoCall) (hw : w.env.Healthy) (hh : t.clientHandle = true) :
    (c.run (t, w)).2.2 = w.callAll (c.requests t (w.server.lastHandle + 1)) ∧
      (c.run (t, w)).2.1.clientHandle = true := by
  cases c
  case setReadVersion v => simp [RoCall.run, RoCall.requests, setReadVersion, hh]
  case cancel => cases hc : t.cancelled <;> simp [RoCall.run, RoCall.requests, cancel, hc, hh]
  case reset => simp [RoCall.run, RoCall.requests, reset, hh]
  all_goals cases h : t.cancelled || t.isReset
  case snapshotGet.false k =>
    obtain ⟨hc, hr⟩ := Bool.or_eq_false_iff.mp h
    simp [RoCall.run, RoCall.requests, h, snapshotGet_of_healthy hc hr hh hw, hh]
  case snapshotGetRange.false b e l =>
    obtain ⟨hc, hr⟩ := Bool.or_eq_false_iff.mp h
    simp [RoCall.run, RoCall.requests, h, snapshotGetRange_of_healthy hc hr hh hw, hh]
  case get.false k =>
    simp only [RoCall.run, get, RoCall.requests, h, Co.bind_apply, Co.self_apply, ↓reduceIte,
      Co.pure_apply, Co.map_apply]
    exact ⟨rfl, hh⟩
  case getRange.false b e l =>
    simp only [RoCall.run, getRange, RoCall.requests, h, Co.bind_apply, Co.self_apply, ↓reduceIte,
      Co.pure_apply, Co.map_apply]
    exact ⟨rfl, hh⟩
  all_goals simp [RoCall.run, RoCall.requests, h, snapshotGet_of_closed h,
    snapshotGetRange_of_closed h, get_of_closed h, getRange_of_closed h, hh]

end CustomReadOnlyTransaction

end CustomKv
