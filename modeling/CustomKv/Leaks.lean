import CustomKv.Invariant

/-!
# Server transactions that outlive their wrapper

`~CustomTransaction` calls `cancel()` on a transaction that is neither cancelled, reset nor
committed, but drops the task it returns without awaiting it, so `kv_transaction_abort` is never
sent; `reset()` keeps the handle and sends nothing. The only request that ends a server
transaction without a commit is the abort of `cancel`, and in a healthy environment an abort
removes its transaction for good (`World.AbortsApplied`). So a transaction that is open on the
server when its wrapper is destroyed or reset stays open there, and was never aborted.
-/

namespace CustomKv

/-- Every `kv_transaction_abort` issued so far has removed its transaction from the server for
good: the server holds nothing under its handle, a handle it has given out. -/
def World.AbortsApplied (w : World) : Prop :=
  ∀ h, .transactionAbort h ∈ w.calls → w.server.txns h = none ∧ h ≤ w.server.lastHandle

namespace World.AbortsApplied

variable {w : World}

theorem init (env : Env) (clock : Int) : (World.init env clock).AbortsApplied := nofun

/-- Issuing a request keeps the aborts applied, if an abort is of a handle given out. -/
theorem call (ha : w.AbortsApplied) (hw : w.env.Healthy) {r : Request}
    (hr : ∀ h, r = .transactionAbort h → h ≤ w.server.lastHandle) :
    (w.call r).2.AbortsApplied := by
  intro h hm
  rw [World.call_healthy hw] at hm ⊢
  rcases List.mem_append.mp hm with hm | hm
  · obtain ⟨hn, hh⟩ := ha h hm
    exact ⟨KvServer.handle_txns_of_none hn hh r,
      hh.trans (KvServer.lastHandle_le_handle _ r)⟩
  · obtain rfl := List.mem_singleton.mp hm
    exact ⟨by simp [KvServer.handle], by simpa [KvServer.handle] using hr h rfl⟩

theorem callAll (ha : w.AbortsApplied) (hw : w.env.Healthy) {rs : List Request}
    (hr : ∀ h, .transactionAbort h ∈ rs → h ≤ w.server.lastHandle) :
    (w.callAll rs).AbortsApplied := by
  induction rs generalizing w with
  | nil => exact ha
  | cons r rs ih =>
    have hl : w.server.lastHandle ≤ (w.call r).2.server.lastHandle := by
      rw [World.call_healthy hw]
      exact KvServer.lastHandle_le_handle _ r
    exact ih (ha.call hw fun h e => hr h (e ▸ .head _)) (by simpa using hw) fun h hm =>
      (hr h (.tail _ hm)).trans hl

end World.AbortsApplied

theorem RwCall.abort_not_mem_txnRequests (c : RwCall) (h x : Nat) :
    .transactionAbort x ∉ c.txnRequests h := by
  cases c <;> simp only [RwCall.txnRequests] <;> (try split) <;> simp

/-- Only `cancel` sends `kv_transaction_abort`, and only for the handle the transaction holds. -/
theorem RwCall.eq_of_abort_mem_requests {c : RwCall} {t : CustomTransaction} {next h : Nat}
    (hm : .transactionAbort h ∈ c.requests t next) : h = t.transactionHandle := by
  cases hn : c.needsTxn
  · by_cases hc : c = .cancel
    · subst hc
      simp only [RwCall.requests] at hm
      split at hm
      · cases hm
      · exact Request.transactionAbort.inj (List.mem_singleton.mp hm)
    · simpa [Request.txnHandle?] using RwCall.txnHandle_of_mem_requests_of_local hn hc _ hm
  · rw [RwCall.requests_of_needsTxn hn] at hm
    split at hm
    · cases hm
    rcases List.mem_append.mp hm with hm | hm
    · simp [CustomTransaction.beginRequests] at hm
    · exact absurd hm (c.abort_not_mem_txnRequests _ h)

theorem RoCall.abort_not_mem_requests (d : RoCall) (t : CustomReadOnlyTransaction)
    (next h : Nat) : .transactionAbort h ∉ d.requests t next := fun hm => by
  simpa [Request.txnHandle?] using RoCall.txnHandle_of_mem_requests d t next _ hm

namespace System

variable {s : System}

theorem Inv.abortsApplied_step (hs : s.Inv) (ha : s.world.AbortsApplied) :
    ∀ a, (s.step a).world.AbortsApplied
  | .rw j c => by
    obtain ⟨t', he, -⟩ := CustomTransaction.run_healthy (t := s.rw j) (w := s.rwWorld j) c
      hs.healthy (hs.clientHandle j) fun hf h0 =>
        let ⟨_, hv⟩ := (hs.txn j hf).2 h0; ⟨_, hv⟩
    rw [world_step_rw, he]
    exact World.AbortsApplied.callAll (w := s.rwWorld j) ha hs.healthy fun _ hm =>
      (RwCall.eq_of_abort_mem_requests hm).trans_le (hs.handle_le j)
  | .ro j d => by
    rw [System.step_ro, (CustomReadOnlyTransaction.run_healthy d hs.healthy
      (hs.roClientHandle j)).1]
    exact World.AbortsApplied.callAll ha hs.healthy fun h hm =>
      absurd hm (RoCall.abort_not_mem_requests d _ _ h)
  | .tick _ _ => ha

theorem Inv.abortsApplied_run (hs : s.Inv) (ha : s.world.AbortsApplied) (as : List Action) :
    (s.run as).world.AbortsApplied := by
  induction as generalizing s with
  | nil => exact ha
  | cons a as ih => exact ih (hs.step a) (hs.abortsApplied_step ha a)

theorem Reachable.abortsApplied (h : s.Reachable) : s.world.AbortsApplied := by
  obtain ⟨env, host, clocks, as, he, rfl⟩ := h
  exact (Inv.init he host clocks).abortsApplied_run (World.AbortsApplied.init env 0) as

/-- A read-write transaction that is open and not finished has never had its server transaction
aborted, and the server still holds it. -/
theorem Reachable.open_not_aborted (hs : s.Reachable) {i : Nat} (hf : (s.rw i).finished = false)
    (h0 : (s.rw i).transactionHandle ≠ 0) :
    .transactionAbort (s.rw i).transactionHandle ∉ s.world.calls ∧
      (s.world.server.txns (s.rw i).transactionHandle).isSome := by
  obtain ⟨v, hv⟩ := (hs.inv.txn i hf).2 h0
  exact ⟨fun hm => by simpa [hv] using (hs.abortsApplied _ hm).1, by simp [hv]⟩

/-- Transaction `i` is destroyed: `~CustomTransaction` runs on its state. -/
def destroyRw (s : System) (i : Nat) : System :=
  let (_, t, w) := CustomTransaction.destroy (s.rw i, s.rwWorld i)
  { s with world := w, rw := Function.update s.rw i t }

/-- The destructor leaves the server and the request log as they were. -/
@[simp] theorem destroyRw_world (s : System) (i : Nat) : (s.destroyRw i).world = s.rwWorld i := by
  simp [destroyRw]

end System

open System in
/-- **A dropped transaction is never aborted.** In any reachable state, a read-write transaction
that holds an open server transaction and is not finished can be destroyed, or reset and then
destroyed: either way no `kv_transaction_abort` of its handle has been issued, and the server
still holds its transaction. -/
theorem dropped_transaction_never_aborted {s : System} {i : Nat} (hs : s.Reachable)
    (hf : (s.rw i).finished = false) (h0 : (s.rw i).transactionHandle ≠ 0) :
    ∀ s' ∈ [s.destroyRw i, (s.step (.rw i .reset)).destroyRw i],
      .transactionAbort (s.rw i).transactionHandle ∉ s'.world.calls ∧
        (s'.world.server.txns (s.rw i).transactionHandle).isSome := by
  have h := hs.open_not_aborted hf h0
  simp only [List.mem_cons, List.mem_singleton, List.not_mem_nil, or_false]
  rintro s' (rfl | rfl)
  · simpa [rwWorld] using h
  · simpa [rwWorld, RwCall.run, CustomTransaction.reset] using h

/-- Transaction `0` opens its server transaction with a `set`, and is then dropped. -/
def setThenDropped : System :=
  (System.init .healthy (fun _ => 0) (fun _ => 0)).run [.rw 0 (.set [1] [2])]

theorem setThenDropped_leaks :
    setThenDropped.Reachable ∧ (setThenDropped.rw 0).finished = false ∧
      (setThenDropped.rw 0).transactionHandle ≠ 0 ∧
      ∀ s' ∈ [setThenDropped.destroyRw 0, (setThenDropped.step (.rw 0 .reset)).destroyRw 0],
        .transactionAbort (setThenDropped.rw 0).transactionHandle ∉ s'.world.calls ∧
          (s'.world.server.txns (setThenDropped.rw 0).transactionHandle).isSome :=
  have hs : setThenDropped.Reachable :=
    ⟨.healthy, _, _, _, Env.healthy_healthy, rfl⟩
  ⟨hs, by decide, by decide, dropped_transaction_never_aborted hs (by decide) (by decide)⟩

example : setThenDropped.world.calls = [.transactionBegin 30, .transactionSet 1 [1] [2]] := by
  decide

end CustomKv
