import CustomKv.System

/-!
# What each operation of `CustomTransaction` does

One equation per operation and path: the guard that rejects every call on a finished
transaction, the prologue `withTransaction` on an open and on a fresh transaction, and each
operation on an open transaction when the environment is healthy. An operation's equation gives
its answer and the request it sends; what the server does with the request is the server's
(`KvServer.handle`). Later proofs cite these and do not unfold the operations.
-/

namespace CustomKv

/-- The calls that begin with the guard `cancelled_ || reset_ || committed_`. -/
def RwCall.Guarded : RwCall → Prop
  | .snapshotGet _ | .get _ | .snapshotGetRange .. | .getRange .. | .addReadConflict _
  | .addReadConflictRange .. | .set .. | .clear _ | .setVersionstampedKey ..
  | .setVersionstampedValue .. => True
  | _ => False

/-- What a guarded call answers when its guard refuses it. -/
def RwCall.refusal : RwCall → Answer
  | .snapshotGet _ | .get _ => .value (makeError .kInvalidArg "Transaction is finished")
  | .snapshotGetRange .. | .getRange .. => .range (makeError .kInvalidArg "Transaction is finished")
  | _ => .unit (makeError .kInvalidArg "Transaction is finished")

namespace CustomTransaction

variable {t : CustomTransaction} {w : World} {α : Type}

/-! ## The prologue -/

theorem ensureTransaction_of_open (h : t.transactionHandle ≠ 0) :
    ensureTransaction (t, w) = (.ret (.ok ()), (t, w)) := by
  simp only [ensureTransaction, Co.bind_apply, Co.self_apply, ne_eq, h, not_false_eq_true,
    ↓reduceIte, Co.pure_apply]

theorem ensureTransaction_of_no_client (h0 : t.transactionHandle = 0)
    (hc : t.clientHandle = false) :
    ensureTransaction (t, w) =
      (.ret (makeError .kIOError "Client handle not available"), (t, w)) := by
  simp only [ensureTransaction, Co.bind_apply, Co.self_apply, h0, hc, ne_eq, not_true_eq_false,
    Bool.not_false, ↓reduceIte, Co.pure_apply]

/-- A fresh transaction whose `kv_transaction_begin` future fails to poll throws out of
`ensureTransaction`. -/
theorem ensureTransaction_of_poll_failed (h0 : t.transactionHandle = 0)
    (hc : t.clientHandle = true) (hp : w.env.poll w.issued = -1) :
    ensureTransaction (t, w) =
      (.thrown "Future polling failed", (t, (w.call (.transactionBegin 30)).2)) := by
  simp only [ensureTransaction, Co.bind_apply, Co.self_apply, h0, hc, ne_eq, not_true_eq_false,
    Bool.not_true, Bool.false_eq_true, ↓reduceIte, call_apply, waitForFuture_apply, World.call_env,
    World.call_id, hp]

/-- Once its future is ready, `ensureTransaction` keeps the handle `kv_transaction_begin` returns,
null or not. -/
theorem ensureTransaction_of_begun (h0 : t.transactionHandle = 0) (hc : t.clientHandle = true)
    (hp : w.env.poll w.issued ≠ -1) :
    ensureTransaction (t, w) =
      (.ret (if kvFutureGetTransaction (w.call (.transactionBegin 30)).1 = 0 then
          makeError .kIOError "Failed to get transaction handle" else .ok ()),
        ({ t with transactionHandle := kvFutureGetTransaction (w.call (.transactionBegin 30)).1 },
          (w.call (.transactionBegin 30)).2)) := by
  simp only [ensureTransaction, Co.bind_apply, Co.self_apply, h0, hc, ne_eq, not_true_eq_false,
    Bool.not_true, Bool.false_eq_true, ↓reduceIte, call_apply, waitForFuture_apply, World.call_env,
    World.call_id, hp, Co.modifySelf_apply, Co.ite_apply, Co.pure_apply]
  split <;> rfl

/-- On a fresh transaction, `ensureTransaction` begins a server transaction and keeps its handle,
the next one the server gives out. -/
theorem ensureTransaction_of_fresh (h0 : t.transactionHandle = 0) (hc : t.clientHandle = true)
    (hw : w.env.Healthy) :
    ensureTransaction (t, w) = (.ret (.ok ()),
      ({ t with transactionHandle := w.server.lastHandle + 1 },
        (w.call (.transactionBegin 30)).2)) := by
  rw [ensureTransaction_of_begun h0 hc (hw.1 _)]
  simp only [World.call_healthy hw, KvServer.handle, kvFutureGetTransaction, Nat.add_one_ne_zero,
    ↓reduceIte]

/-- `ensureTransaction` changes at most the handle, and sends at most `kv_transaction_begin`, in
any environment. -/
theorem ensureTransaction_self_world (t : CustomTransaction) (w : World) :
    (∃ h, (ensureTransaction (t, w)).2.1 = { t with transactionHandle := h }) ∧
      ((ensureTransaction (t, w)).2.2 = w ∨
        (ensureTransaction (t, w)).2.2 = (w.call (.transactionBegin 30)).2) := by
  by_cases h0 : t.transactionHandle = 0
  · rcases Bool.eq_false_or_eq_true t.clientHandle with hc | hc
    · by_cases hp : w.env.poll w.issued = -1
      · rw [ensureTransaction_of_poll_failed h0 hc hp]
        exact ⟨⟨t.transactionHandle, rfl⟩, .inr rfl⟩
      · rw [ensureTransaction_of_begun h0 hc hp]
        exact ⟨⟨kvFutureGetTransaction (w.call (.transactionBegin 30)).1, rfl⟩, .inr rfl⟩
    · rw [ensureTransaction_of_no_client h0 hc]
      exact ⟨⟨t.transactionHandle, rfl⟩, .inl rfl⟩
  · rw [ensureTransaction_of_open h0]
    exact ⟨⟨t.transactionHandle, rfl⟩, .inl rfl⟩

/-- `ensureTransaction` changes at most the handle, in any environment. -/
theorem ensureTransaction_self (t : CustomTransaction) (w : World) :
    ∃ h, (ensureTransaction (t, w)).2.1 = { t with transactionHandle := h } :=
  (ensureTransaction_self_world t w).1

/-- `ensureTransaction` sends at most `kv_transaction_begin`, in any environment. -/
theorem ensureTransaction_world (t : CustomTransaction) (w : World) :
    (ensureTransaction (t, w)).2.2 = w ∨
      (ensureTransaction (t, w)).2.2 = (w.call (.transactionBegin 30)).2 :=
  (ensureTransaction_self_world t w).2

theorem withTransaction_of_finished (h : t.finished = true) (body : CoTask (Result α)) :
    withTransaction body (t, w) =
      (.ret (makeError .kInvalidArg "Transaction is finished"), (t, w)) := by
  simp only [withTransaction, Co.bind_apply, Co.self_apply, h, ↓reduceIte, Co.pure_apply]

theorem withTransaction_of_open (hf : t.finished = false) (h : t.transactionHandle ≠ 0)
    (body : CoTask (Result α)) : withTransaction body (t, w) = body (t, w) := by
  simp only [withTransaction, Co.bind_apply, Co.self_apply, hf, Bool.false_eq_true, ↓reduceIte,
    ensureTransaction_of_open h]

/-- A fresh transaction runs the body as one whose server transaction is already open. -/
theorem withTransaction_of_fresh (hf : t.finished = false) (h0 : t.transactionHandle = 0)
    (hc : t.clientHandle = true) (hw : w.env.Healthy) (body : CoTask (Result α)) :
    withTransaction body (t, w) = body ({ t with transactionHandle := w.server.lastHandle + 1 },
      (w.call (.transactionBegin 30)).2) := by
  simp only [withTransaction, Co.bind_apply, Co.self_apply, hf, Bool.false_eq_true, ↓reduceIte,
    ensureTransaction_of_fresh h0 hc hw]

/-- **The guard.** A guarded call on a finished transaction answers `kInvalidArg` and changes
nothing, in the transaction or in the world. -/
theorem run_of_finished {c : RwCall} (hc : c.Guarded) (h : t.finished = true) :
    c.run (t, w) = (.ret c.refusal, (t, w)) := by
  cases c <;> simp only [RwCall.Guarded] at hc <;>
    simp only [RwCall.refusal, RwCall.run, snapshotGet, get, snapshotGetRange, getRange,
      addReadConflict, addReadConflictRange, set, clear, mutate, setVersionstampedKey,
      setVersionstampedValue, ↓withTransaction_of_finished h, Co.map_apply, Co.bind_apply,
      Co.self_apply, h, ↓reduceIte, Co.pure_apply]

/-- `commit` on a transaction that is neither cancelled, reset nor committed, in any environment:
it sets `committed_`, opens the server transaction if there is none, and commits on the handle it
then holds, reporting the server's refusal through `commitErrorCode`. -/
theorem commit_of_ready (hc : t.cancelled = false) (hr : t.isReset = false)
    (hcm : t.committed = false) :
    commit (t, w) = match ensureTransaction ({ t with committed := true }, w) with
      | (.ret (.ok ()), t₁, w₁) =>
        let f := w₁.call (.transactionCommit t₁.transactionHandle)
        if w₁.env.poll w₁.issued = -1 then (.thrown "Future polling failed", (t₁, f.2))
        else if (kvFutureGetVoidResult f.1).success then
          (.ret (.ok ()), ({ t₁ with committedVersion := w₁.clock }, f.2))
        else (.ret (makeError (commitErrorCode (kvFutureGetVoidResult f.1).errorCode)
            ((kvFutureGetVoidResult f.1).errorMessage.getD "Commit failed")), (t₁, f.2))
      | (.ret (.error e), s) => (.ret (.error e), s)
      | (.thrown e, s) => (.thrown e, s) := by
  obtain ⟨rv, c, r, cm, cv, ch, th⟩ := t
  subst hc hr hcm
  simp only [commit, Co.bind_apply, Co.self_apply, Bool.or_self, Bool.false_eq_true, ↓reduceIte,
    Co.modifySelf_apply]
  rcases ensureTransaction (⟨rv, false, false, true, cv, ch, th⟩, w) with ⟨(e | ⟨⟩) | e, t₁, w₁⟩
  · rfl
  · by_cases hp : w₁.env.poll w₁.issued = -1
    · simp only [Co.bind_apply, Co.self_apply, call_apply, waitForFuture_apply, World.call_env,
        World.call_id, hp, ↓reduceIte]
    by_cases hs :
        (kvFutureGetVoidResult (w₁.call (.transactionCommit t₁.transactionHandle)).1).success <;>
      simp only [Co.bind_apply, Co.self_apply, call_apply, waitForFuture_apply, World.call_env,
        World.call_id, hp, hs, ↓reduceIte, Bool.not_true, Bool.not_false, Bool.false_eq_true,
        Co.pure_apply, steadyClockNow_apply, World.call_clock, Co.modifySelf_apply]
  · rfl

/-! ## Operations on an open transaction in a healthy world -/

section Open

variable {st : ServerTxn} (hf : t.finished = false) (h0 : t.transactionHandle ≠ 0)
  (hst : w.server.txns t.transactionHandle = some st) (hw : w.env.Healthy)
include hf h0 hst hw

/-- `get` reads the transaction's own view of the server: its snapshot under its own writes. -/
theorem get_of_open (k : Bytes) :
    get k (t, w) = (.ret (.ok ((w.server.view st).get k)),
      (t, (w.call (.transactionGet t.transactionHandle k)).2)) := by
  simp only [get, withTransaction_of_open hf h0]
  simp only [kvFutureGetValueResult, Int.reduceNeg, Co.bind_apply, Co.self_apply, call_apply,
    World.call_healthy hw, KvServer.handle, hst, readValue_ok, waitForFuture_apply, hw.1, ↓reduceIte,
    Co.pure_apply]

/-- `getRange` reads a range of the transaction's view; `hasMore` is computed from the count that
`kv_pair_array_free` leaves in the array. -/
theorem getRange_of_open (b e : KeySelector) (limit : Int) :
    let pairs := (w.server.view st).rangeRead (beginSelector b) (endSelector e) limit
    let freed := w.env.pairArrayFree (.ofPairs pairs)
    getRange b e limit (t, w) =
      (.ret (.ok ⟨(KvPairArray.ofPairs pairs).keyValues,
          freed.count ≠ 0 && freed.count = sizeT limit⟩),
        (t, (w.call (.transactionGetRange t.transactionHandle (beginSelector b) (endSelector e)
          limit)).2)) := by
  simp only [getRange, withTransaction_of_open hf h0]
  simp only [kvFutureGetKvArrayResult, Int.reduceNeg, ne_eq, decide_not, Co.bind_apply,
    Co.self_apply, call_apply, World.call_healthy hw, KvServer.handle, hst, KvResult.ok_success,
    ↓reduceIte, waitForFuture_apply, hw.1, kvPairArrayFree_apply, Co.pure_apply]

theorem set_of_open (k v : Bytes) :
    set k v (t, w) =
      (.ret (.ok ()), (t, (w.call (.transactionSet t.transactionHandle k v)).2)) := by
  simp only [set, mutate, withTransaction_of_open hf h0]
  simp only [kvFutureGetVoidResult, Int.reduceNeg, Bool.not_eq_eq_eq_not, Bool.not_true,
    Co.bind_apply, Co.self_apply, call_apply, World.call_healthy hw, KvServer.handle,
    KvServer.mutate, hst, KvResult.ok_success, Bool.true_eq_false, ↓reduceIte, waitForFuture_apply,
    hw.1, Co.pure_apply]

theorem clear_of_open (k : Bytes) :
    clear k (t, w) =
      (.ret (.ok ()), (t, (w.call (.transactionDelete t.transactionHandle k)).2)) := by
  simp only [clear, mutate, withTransaction_of_open hf h0]
  simp only [kvFutureGetVoidResult, Int.reduceNeg, Bool.not_eq_eq_eq_not, Bool.not_true,
    Co.bind_apply, Co.self_apply, call_apply, World.call_healthy hw, KvServer.handle,
    KvServer.mutate, hst, KvResult.ok_success, Bool.true_eq_false, ↓reduceIte, waitForFuture_apply,
    hw.1, Co.pure_apply]

theorem setVersionstampedKey_of_open {k : Bytes} (hk : k ≠ []) (o : UInt32) (v : Bytes) :
    setVersionstampedKey k o v (t, w) = (.ret (.ok ()),
      (t, (w.call (.transactionSetVersionstampedKey t.transactionHandle k v)).2)) := by
  simp only [setVersionstampedKey, withTransaction_of_open hf h0]
  simp only [List.isEmpty_eq_true, hk, ↓reduceIte, callSync, Int.reduceNeg, Co.bind_apply,
    Co.self_apply, Co.world_apply, World.call_healthy hw, KvServer.handle, KvServer.mutate, hst,
    Co.pure_apply]

/-- The value is sent with ten zero bytes after it, whatever the offset. -/
theorem setVersionstampedValue_of_open {k : Bytes} (hk : k ≠ []) (v : Bytes) (o : UInt32) :
    setVersionstampedValue k v o (t, w) = (.ret (.ok ()),
      (t, (w.call (.transactionSetVersionstampedValue t.transactionHandle k
        (v ++ List.replicate 10 0))).2)) := by
  simp only [setVersionstampedValue, withTransaction_of_open hf h0]
  simp only [List.isEmpty_eq_true, hk, ↓reduceIte, callSync, List.reduceReplicate, Int.reduceNeg,
    Co.bind_apply, Co.self_apply, Co.world_apply, World.call_healthy hw, KvServer.handle,
    KvServer.mutate, hst, Co.pure_apply]

/-- `commit` reports the server's conflict as `kConflict`; on success it stores the clock. Either
way it has set `committed_`. -/
theorem commit_of_open :
    commit (t, w) = if w.server.conflicts st then
        (.ret (makeError .kConflict "Commit failed"),
          ({ t with committed := true }, (w.call (.transactionCommit t.transactionHandle)).2))
      else (.ret (.ok ()), ({ t with committed := true, committedVersion := w.clock },
          (w.call (.transactionCommit t.transactionHandle)).2)) := by
  simp only [finished, Bool.or_eq_false_iff] at hf
  rw [commit_of_ready hf.1.1 hf.1.2 hf.2,
    ensureTransaction_of_open (t := { t with committed := true }) h0]
  by_cases hc : w.server.conflicts st <;>
    simp only [hc, World.call_healthy hw, hw.1, KvServer.handle, hst, kvFutureGetVoidResult,
      KvResult.fail, KvResult.ok_success, commitErrorCode, Option.getD_none, Bool.false_eq_true,
      ↓reduceIte]

end Open

/-- An empty key prefix is refused after the server transaction is open, before anything is
sent. -/
theorem setVersionstampedKey_of_empty (hf : t.finished = false) (h0 : t.transactionHandle ≠ 0)
    (o : UInt32) (v : Bytes) :
    setVersionstampedKey [] o v (t, w) = (.ret (makeError .kInvalidArg
      "SetVersionstampedKey: key prefix cannot be empty"), (t, w)) := by
  simp only [setVersionstampedKey, List.isEmpty_nil, ↓reduceIte, withTransaction_of_open hf h0,
    Co.pure_apply]

theorem setVersionstampedValue_of_empty (hf : t.finished = false)
    (h0 : t.transactionHandle ≠ 0) (v : Bytes) (o : UInt32) :
    setVersionstampedValue [] v o (t, w) = (.ret (makeError .kInvalidArg
      "SetVersionstampedValue: key cannot be empty"), (t, w)) := by
  simp only [setVersionstampedValue, List.isEmpty_nil, ↓reduceIte, withTransaction_of_open hf h0,
    Co.pure_apply]

/-! ## A fresh transaction -/

/-- A fresh transaction runs as the one `ensureTransaction` opens for it. -/
theorem withTransaction_of_fresh_eq (hf : t.finished = false) (h0 : t.transactionHandle = 0)
    (hc : t.clientHandle = true) (hw : w.env.Healthy) (body : CoTask (Result α)) :
    withTransaction body (t, w) = withTransaction body
      ({ t with transactionHandle := w.server.lastHandle + 1 },
        (w.call (.transactionBegin 30)).2) := by
  rw [withTransaction_of_fresh hf h0 hc hw]
  exact (withTransaction_of_open (t := { t with transactionHandle := w.server.lastHandle + 1 }) hf
    (Nat.succ_ne_zero _) body).symm

theorem commit_of_fresh (hf : t.finished = false) (h0 : t.transactionHandle = 0)
    (hc : t.clientHandle = true) (hw : w.env.Healthy) :
    commit (t, w) = commit ({ t with transactionHandle := w.server.lastHandle + 1 },
      (w.call (.transactionBegin 30)).2) := by
  simp only [finished, Bool.or_eq_false_iff] at hf
  rw [commit_of_ready hf.1.1 hf.1.2 hf.2,
    commit_of_ready (t := { t with transactionHandle := w.server.lastHandle + 1 }) hf.1.1 hf.1.2
      hf.2, ensureTransaction_of_fresh (t := { t with committed := true }) h0 hc hw,
    ensureTransaction_of_open (Nat.succ_ne_zero _)]

/-- The prologue on a transaction that is not finished: `ensureTransaction`, then the body if it
opened the server transaction. -/
theorem withTransaction_of_unfinished (hf : t.finished = false) (body : CoTask (Result α)) :
    withTransaction body (t, w) = match ensureTransaction (t, w) with
      | (.ret (.ok ()), s) => body s
      | (.ret (.error e), s) => (.ret (.error e), s)
      | (.thrown e, s) => (.thrown e, s) := by
  simp only [withTransaction, Co.bind_apply, Co.self_apply, hf, Bool.false_eq_true, ↓reduceIte,
    Co.pure_apply]
  rcases ensureTransaction (t, w) with ⟨(e | ⟨⟩) | e, s⟩ <;> rfl

/-- On a fresh transaction, in any environment, the prologue sends `kv_transaction_begin` and
either stops there, or goes on as on the transaction holding the handle the server returned. -/
theorem withTransaction_of_fresh_any (hf : t.finished = false) (h0 : t.transactionHandle = 0)
    (hc : t.clientHandle = true) (body : CoTask (Result α)) :
    (withTransaction body (t, w)).2.2 = (w.call (.transactionBegin 30)).2 ∨
      withTransaction body (t, w) = withTransaction body
        ({ t with transactionHandle := kvFutureGetTransaction (w.call (.transactionBegin 30)).1 },
          (w.call (.transactionBegin 30)).2) := by
  rw [withTransaction_of_unfinished hf]
  by_cases hp : w.env.poll w.issued = -1
  · left
    rw [ensureTransaction_of_poll_failed h0 hc hp]
  rw [ensureTransaction_of_begun h0 hc hp]
  generalize kvFutureGetTransaction (w.call (.transactionBegin 30)).1 = h
  by_cases hh : h = 0
  · left
    simp only [hh, ↓reduceIte, makeError]
  · right
    simp only [hh, ↓reduceIte,
      withTransaction_of_open (t := { t with transactionHandle := h }) hf hh]

/-- On a fresh transaction, in any environment, `commit` sends `kv_transaction_begin` and either
stops there, or goes on as on the transaction holding the handle the server returned. -/
theorem commit_of_fresh_any (hf : t.finished = false) (h0 : t.transactionHandle = 0)
    (hc : t.clientHandle = true) :
    (commit (t, w)).2.2 = (w.call (.transactionBegin 30)).2 ∨
      commit (t, w) = commit
        ({ t with transactionHandle := kvFutureGetTransaction (w.call (.transactionBegin 30)).1 },
          (w.call (.transactionBegin 30)).2) := by
  simp only [finished, Bool.or_eq_false_iff] at hf
  rw [commit_of_ready hf.1.1 hf.1.2 hf.2]
  by_cases hp : w.env.poll w.issued = -1
  · left
    rw [ensureTransaction_of_poll_failed (t := { t with committed := true }) h0 hc hp]
  rw [ensureTransaction_of_begun (t := { t with committed := true }) h0 hc hp]
  generalize kvFutureGetTransaction (w.call (.transactionBegin 30)).1 = h
  by_cases hh : h = 0
  · left
    simp only [hh, ↓reduceIte, makeError]
  · right
    rw [commit_of_ready (t := { t with transactionHandle := h }) hf.1.1 hf.1.2 hf.2,
      ensureTransaction_of_open hh]
    simp only [hh, ↓reduceIte]
/-- The same, for a call that maps the prologue's result. -/
theorem map_withTransaction_of_fresh_any (hf : t.finished = false)
    (h0 : t.transactionHandle = 0) (hc : t.clientHandle = true) (f : Result α → β)
    (body : CoTask (Result α)) :
    ((f <$> withTransaction body) (t, w)).2.2 = (w.call (.transactionBegin 30)).2 ∨
      (f <$> withTransaction body) (t, w) = (f <$> withTransaction body)
        ({ t with transactionHandle := kvFutureGetTransaction (w.call (.transactionBegin 30)).1 },
          (w.call (.transactionBegin 30)).2) := by
  rcases withTransaction_of_fresh_any (w := w) hf h0 hc body with h | h
  · exact .inl (by rw [Co.map_apply_snd, h])
  · exact .inr (by simp only [Co.map_apply, h])

theorem map_commit_of_fresh_any (hf : t.finished = false)
    (h0 : t.transactionHandle = 0) (hc : t.clientHandle = true) (f : Result Unit → β) :
    ((f <$> commit) (t, w)).2.2 = (w.call (.transactionBegin 30)).2 ∨
      (f <$> commit) (t, w) = (f <$> commit)
        ({ t with transactionHandle := kvFutureGetTransaction (w.call (.transactionBegin 30)).1 },
          (w.call (.transactionBegin 30)).2) := by
  rcases commit_of_fresh_any (w := w) hf h0 hc with h | h
  · exact .inl (by rw [Co.map_apply_snd, h])
  · exact .inr (by simp only [Co.map_apply, h])

/-! ## Calls that need no server transaction -/

theorem commit_of_cancelled_or_reset (h : t.cancelled = true ∨ t.isReset = true) :
    commit (t, w) =
      (.ret (makeError .kInvalidArg "Transaction is cancelled or reset"), (t, w)) := by
  simp only [commit, Bool.or_eq_true, Bool.not_eq_eq_eq_not, Bool.not_true, Co.bind_apply,
    Co.self_apply, h, ↓reduceIte, Co.pure_apply]

/-- `committed_` is already set: the compare-exchange fails and `commit` reports success. -/
theorem commit_of_committed (hc : t.cancelled = false) (hr : t.isReset = false)
    (h : t.committed = true) : commit (t, w) = (.ret (.ok ()), (t, w)) := by
  simp only [commit, Bool.or_eq_true, Bool.not_eq_eq_eq_not, Bool.not_true, Co.bind_apply,
    Co.self_apply, hc, Bool.false_eq_true, hr, or_self, ↓reduceIte, h, Co.pure_apply]

theorem cancel_of_cancelled (h : t.cancelled = true) : cancel (t, w) = (.ret (.ok ()), (t, w)) := by
  simp only [cancel, Bool.not_eq_eq_eq_not, Bool.not_true, ne_eq, ite_not, Co.bind_apply,
    Co.self_apply, h, Bool.true_eq_false, ↓reduceIte, Co.pure_apply]

/-- `cancel` aborts the server transaction if there is one, in any environment: the wait for the
abort is inside a `try`. -/
theorem cancel_of_not_cancelled (h : t.cancelled = false) :
    cancel (t, w) = (.ret (.ok ()), ({ t with cancelled := true, transactionHandle := 0 },
      if t.transactionHandle = 0 then w
      else (w.call (.transactionAbort t.transactionHandle)).2)) := by
  by_cases h0 : t.transactionHandle = 0
  · cases t; simp_all only [cancel, Bool.not_eq_eq_eq_not, Bool.not_true, ne_eq, ite_not,
      Co.bind_apply, Co.self_apply, Co.ite_apply, Co.modifySelf_apply, Co.pure_apply, call_apply,
      Co.tryCatch_apply, waitForFuture_apply, World.call_env, World.call_id, ite_true]
  · by_cases hp : w.env.poll w.issued = -1 <;> simp only [cancel, Bool.not_eq_eq_eq_not,
      Bool.not_true, ne_eq, ite_not, Co.bind_apply, Co.self_apply, h, ↓reduceIte,
      Co.modifySelf_apply, h0, call_apply, Co.tryCatch_apply, waitForFuture_apply, World.call_env,
      World.call_id, hp, Int.reduceNeg, Co.pure_apply]

/-- `snapshotGet` reads its own read transaction at `read_version_.value_or(0)`: the transaction's
pending writes are not part of what it reads. -/
theorem snapshotGet_of_healthy (hf : t.finished = false) (hc : t.clientHandle = true)
    (hw : w.env.Healthy) (k : Bytes) :
    snapshotGet k (t, w) =
      (.ret (.ok ((w.server.snapshot (w.server.readVersionAt (t.readVersion.getD 0))).get k)),
        (t, w.callAll [.readTransactionBegin (t.readVersion.getD 0),
          .readTransactionGet (w.server.lastHandle + 1) k,
          .readTransactionDestroy (w.server.lastHandle + 1)])) := by
  simp only [snapshotGet, Bool.not_eq_eq_eq_not, Bool.not_true, kvFutureGetReadTransaction,
    kvFutureGetValueResult, Int.reduceNeg, Co.bind_apply, Co.self_apply, hf, Bool.false_eq_true,
    ↓reduceIte, hc, Bool.true_eq_false, call_apply, hw, World.call_healthy, KvServer.handle,
    KvServer.setReadTxn_commits, KvServer.setReadTxn_txns, KvServer.setReadTxn_readTxns,
    Nat.add_one_ne_zero, waitForFuture_apply, hw.1, Function.update_same, KvServer.snapshot,
    List.append_assoc, List.singleton_append, readValue_ok, List.cons_append, Co.pure_apply,
    World.callAll_cons, World.callAll_nil]

/-- The destructor sends nothing and changes nothing: the task of its `cancel` never runs. -/
@[simp] theorem destroy_eq (t : CustomTransaction) (w : World) :
    destroy (t, w) = (.ret (), (t, w)) := by
  simp [destroy]

/-! ## Point reads whose request fails -/

section Fault

variable {code : KvErrorCode} {message : Option String}

/-- A `get` whose request the client library fails answers `std::nullopt`, as for a key that is
not there. -/
theorem get_of_fault (hf : t.finished = false) (h0 : t.transactionHandle ≠ 0)
    (hp : w.env.poll w.issued ≠ -1) (he : w.env.fault w.issued = some (code, message))
    (k : Bytes) : (get k (t, w)).1 = .ret (.ok none) := by
  simp only [get, kvFutureGetValueResult, Int.reduceNeg, withTransaction_of_open hf h0,
    Co.bind_apply, Co.self_apply, call_apply, World.call_of_fault he, Request.failure,
    readValue_fail, waitForFuture_apply, hp, ↓reduceIte, Co.pure_apply]

/-- A `get` on a handle the server does not hold answers `std::nullopt`: the server's
`KV_ERROR_TRANSACTION_NOT_FOUND` is dropped. -/
theorem get_of_not_found (hf : t.finished = false) (h0 : t.transactionHandle ≠ 0)
    (hp : w.env.poll w.issued ≠ -1) (he : w.env.fault w.issued = none)
    (hn : w.server.txns t.transactionHandle = none) (k : Bytes) :
    (get k (t, w)).1 = .ret (.ok none) := by
  simp only [get, kvFutureGetValueResult, Int.reduceNeg, withTransaction_of_open hf h0,
    Co.bind_apply, Co.self_apply, call_apply, World.call_of_fault_none he, KvServer.handle, hn,
    KvServer.notFound, Request.failure, readValue_fail, waitForFuture_apply, hp, ↓reduceIte,
    Co.pure_apply]

/-- A `snapshotGet` whose read transaction begins but whose read the client library fails
answers `std::nullopt`. -/
theorem snapshotGet_of_fault (hf : t.finished = false) (hc : t.clientHandle = true)
    (hp : w.env.poll w.issued ≠ -1) (hp' : w.env.poll (w.issued + 1) ≠ -1)
    (hb : w.env.fault w.issued = none) (he : w.env.fault (w.issued + 1) = some (code, message))
    (k : Bytes) : (snapshotGet k (t, w)).1 = .ret (.ok none) := by
  simp only [snapshotGet, Bool.not_eq_eq_eq_not, Bool.not_true, kvFutureGetReadTransaction,
    kvFutureGetValueResult, Int.reduceNeg, Co.bind_apply, Co.self_apply, hf, Bool.false_eq_true,
    ↓reduceIte, hc, Bool.true_eq_false, call_apply, World.call, hb, KvServer.handle,
    KvServer.setReadTxn_commits, KvServer.setReadTxn_txns, KvServer.setReadTxn_readTxns,
    Nat.add_one_ne_zero, waitForFuture_apply, hp, he, Request.failure, List.append_assoc,
    List.singleton_append, readValue_fail, hp', List.cons_append, Co.pure_apply]

end Fault

end CustomTransaction

/-! ## The read-only transaction -/

namespace CustomReadOnlyTransaction

variable {t : CustomReadOnlyTransaction} {w : World}

/-! A cancelled or reset read-only transaction refuses every read and sends nothing. -/

section Closed

variable (h : (t.cancelled || t.isReset) = true)
include h

theorem snapshotGet_of_closed (k : Bytes) :
    snapshotGet k (t, w) =
      (.ret (makeError .kInvalidArg "Transaction is cancelled or reset"), (t, w)) := by
  simp only [snapshotGet, Co.bind_apply, Co.self_apply, h, ↓reduceIte, Co.pure_apply]

theorem get_of_closed (k : Bytes) :
    get k (t, w) = (.ret (makeError .kInvalidArg "Transaction is cancelled or reset"), (t, w)) := by
  simp only [get, Co.bind_apply, Co.self_apply, h, ↓reduceIte, Co.pure_apply]

theorem snapshotGetRange_of_closed (b e : KeySelector) (limit : Int) :
    snapshotGetRange b e limit (t, w) =
      (.ret (makeError .kInvalidArg "Transaction is cancelled or reset"), (t, w)) := by
  simp only [snapshotGetRange, Co.bind_apply, Co.self_apply, h, ↓reduceIte, Co.pure_apply]

theorem getRange_of_closed (b e : KeySelector) (limit : Int) :
    getRange b e limit (t, w) =
      (.ret (makeError .kInvalidArg "Transaction is cancelled or reset"), (t, w)) := by
  simp only [getRange, Co.bind_apply, Co.self_apply, h, ↓reduceIte, Co.pure_apply]

end Closed

/-- Each `snapshotGet` opens a read transaction of its own at `read_version_.value_or(0)`. -/
theorem snapshotGet_of_healthy (hc : t.cancelled = false) (hr : t.isReset = false)
    (hh : t.clientHandle = true) (hw : w.env.Healthy) (k : Bytes) :
    snapshotGet k (t, w) =
      (.ret (.ok ((w.server.snapshot (w.server.readVersionAt (t.readVersion.getD 0))).get k)),
        (t, w.callAll [.readTransactionBegin (t.readVersion.getD 0),
          .readTransactionGet (w.server.lastHandle + 1) k,
          .readTransactionDestroy (w.server.lastHandle + 1)])) := by
  simp only [snapshotGet, Bool.or_eq_true, Bool.not_eq_eq_eq_not, Bool.not_true,
    kvFutureGetReadTransaction, kvFutureGetValueResult, Int.reduceNeg, Co.bind_apply, Co.self_apply,
    hc, Bool.false_eq_true, hr, or_self, ↓reduceIte, hh, Bool.true_eq_false, call_apply, hw,
    World.call_healthy, KvServer.handle, KvServer.setReadTxn_commits, KvServer.setReadTxn_txns,
    KvServer.setReadTxn_readTxns, Nat.add_one_ne_zero, waitForFuture_apply, hw.1,
    Function.update_same, KvServer.snapshot, List.append_assoc, List.singleton_append, readValue_ok,
    List.cons_append, Co.pure_apply, World.callAll_cons, World.callAll_nil]

/-- Each `snapshotGetRange` opens a read transaction of its own; `hasMore` compares the count
that `kv_pair_array_free` leaves with the limit. -/
theorem snapshotGetRange_of_healthy (hc : t.cancelled = false) (hr : t.isReset = false)
    (hh : t.clientHandle = true) (hw : w.env.Healthy) (b e : KeySelector) (limit : Int) :
    let pairs := (w.server.snapshot (w.server.readVersionAt (t.readVersion.getD 0))).rangeRead
      (beginSelector b) (endSelector e) limit
    snapshotGetRange b e limit (t, w) =
      (.ret (.ok ⟨(KvPairArray.ofPairs pairs).keyValues,
          (w.env.pairArrayFree (.ofPairs pairs)).count = sizeT limit⟩),
        (t, w.callAll [.readTransactionBegin (t.readVersion.getD 0),
          .readTransactionGetRange (w.server.lastHandle + 1) (beginSelector b) (endSelector e)
            limit,
          .readTransactionDestroy (w.server.lastHandle + 1)])) := by
  simp only [snapshotGetRange, Bool.or_eq_true, Bool.not_eq_eq_eq_not, Bool.not_true,
    kvFutureGetReadTransaction, kvFutureGetKvArrayResult, Int.reduceNeg, Co.bind_apply,
    Co.self_apply, hc, Bool.false_eq_true, hr, or_self, ↓reduceIte, hh, Bool.true_eq_false,
    call_apply, hw, World.call_healthy, KvServer.handle, KvServer.setReadTxn_commits,
    KvServer.setReadTxn_txns, KvServer.setReadTxn_readTxns, Nat.add_one_ne_zero, waitForFuture_apply,
    hw.1, Function.update_same, KvServer.snapshot, List.append_assoc, List.singleton_append,
    KvResult.ok_success, kvPairArrayFree_apply, List.cons_append, Co.pure_apply, World.callAll_cons,
    World.callAll_nil]

/-- A `snapshotGet` whose read transaction begins but whose read the client library fails
answers `std::nullopt`. -/
theorem snapshotGet_of_fault {code : KvErrorCode} {message : Option String}
    (hc : t.cancelled = false) (hr : t.isReset = false) (hh : t.clientHandle = true)
    (hp : w.env.poll w.issued ≠ -1) (hp' : w.env.poll (w.issued + 1) ≠ -1)
    (hb : w.env.fault w.issued = none) (he : w.env.fault (w.issued + 1) = some (code, message))
    (k : Bytes) : (snapshotGet k (t, w)).1 = .ret (.ok none) := by
  simp only [snapshotGet, Bool.or_eq_true, Bool.not_eq_eq_eq_not, Bool.not_true,
    kvFutureGetReadTransaction, kvFutureGetValueResult, Int.reduceNeg, Co.bind_apply, Co.self_apply,
    hc, Bool.false_eq_true, hr, or_self, ↓reduceIte, hh, Bool.true_eq_false, call_apply, World.call,
    hb, KvServer.handle, KvServer.setReadTxn_commits, KvServer.setReadTxn_txns,
    KvServer.setReadTxn_readTxns, Nat.add_one_ne_zero, waitForFuture_apply, hp, he, Request.failure,
    List.append_assoc, List.singleton_append, readValue_fail, hp', List.cons_append, Co.pure_apply]

/-- The destructor sends nothing and changes nothing. -/
@[simp] theorem destroy_eq (t : CustomReadOnlyTransaction) (w : World) :
    destroy (t, w) = (.ret (), (t, w)) := by
  simp [destroy]

end CustomReadOnlyTransaction

end CustomKv
