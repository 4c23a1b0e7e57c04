import CustomKv.Leaks
import CustomKv.ReadTransactions

/-!
# Who holds each server transaction

While the transaction objects exist, no server transaction is lost: `ensureTransaction` keeps the
handle of every `kv_transaction_begin` it sends, and `cancel` drops a handle only after it has
sent `kv_transaction_abort` for it. So in a healthy run each transaction the server holds is held,
under its handle, by exactly one read-write transaction; only destroying the object, or
resetting it and then destroying it, leaves one behind (`Leaks`).
-/

namespace CustomKv

namespace KvServer

variable {s : KvServer} {h : Nat}

/-- A request other than `kv_transaction_begin` changes only the transaction of its own
handle. -/
theorem handle_txns_of_not_begin {r : Request} (hr : r.txnHandle? ≠ some h)
    (hb : ∀ n, r ≠ .transactionBegin n) : (s.handle r).2.txns h = s.txns h := by
  cases r
  case transactionBegin n => exact absurd rfl (hb n)
  all_goals simp only [Request.txnHandle?, ne_eq, Option.some.injEq] at hr
  all_goals simp only [handle, mutate]; (try split) <;> (try split) <;>
    simp [Function.update_noteq, Ne.symm hr]

theorem handleAll_txns_of_not_begin {rs : List Request}
    (hr : ∀ r ∈ rs, r.txnHandle? ≠ some h ∧ ∀ n, r ≠ .transactionBegin n) :
    (s.handleAll rs).txns h = s.txns h := by
  induction rs generalizing s with
  | nil => rfl
  | cons r rs ih =>
    rw [handleAll_cons, ih (fun r' hr' => hr r' (.tail _ hr')),
      handle_txns_of_not_begin (hr r (.head _)).1 (hr r (.head _)).2]

end KvServer

namespace RwCall

variable {c : RwCall} {t : CustomTransaction} {next : Nat}

/-- The calls that need no server transaction never begin one. -/
theorem begin_not_mem_requests_of_local (hn : c.needsTxn = false) (n : Nat) :
    .transactionBegin n ∉ c.requests t next := by
  cases c <;> simp only [needsTxn, reduceCtorEq] at hn <;> simp [requests, needsTxn]

/-- **What a call does to the server's transactions**, in a healthy world: under every handle but
the one the transaction holds afterwards, a transaction the server holds afterwards was held
before, and not under the handle the transaction held before. -/
theorem txns_requests_of_ne (c : RwCall) (t : CustomTransaction) {s : KvServer}
    (h0 : s.txns 0 = none) {h : Nat} (hh : h ≠ c.handleAfter t (s.lastHandle + 1))
    (hs : ((s.handleAll (c.requests t (s.lastHandle + 1))).txns h).isSome) :
    (s.txns h).isSome ∧ h ≠ t.transactionHandle := by
  by_cases hcancel : c = .cancel
  · subst hcancel
    simp only [handleAfter, requests] at hh hs
    split at hs
    · refine ⟨hs, fun e => hh ?_⟩
      split <;> simp_all
    · rename_i hc
      simp only [Bool.or_eq_true, decide_eq_true_eq, not_or, Bool.not_eq_true] at hc
      simp only [KvServer.handleAll_cons, KvServer.handleAll_nil, KvServer.handle,
        KvServer.setTxn_txns, Function.update_apply] at hs
      split at hs
      · cases hs
      · exact ⟨hs, ‹_›⟩
  cases hn : c.needsTxn with
  | false =>
    rw [handleAfter_of_local hn hcancel] at hh
    refine ⟨?_, hh⟩
    rwa [KvServer.handleAll_txns_of_not_begin fun r hr =>
      ⟨by simp [txnHandle_of_mem_requests_of_local hn hcancel r hr],
        fun n e => begin_not_mem_requests_of_local hn n (e ▸ hr)⟩] at hs
  | true =>
    rw [handleAfter_of_needsTxn hn] at hh
    rw [requests_of_needsTxn hn] at hs
    split at hh
    · rw [if_pos ‹_›] at hs
      exact ⟨hs, hh⟩
    rw [if_neg ‹_›, KvServer.handleAll_append, KvServer.handleAll_txns_of_not_begin fun r hr =>
      ⟨by simp [txnHandle_of_mem_txnRequests c _ r hr, Ne.symm hh], fun n e => by
        simpa [e, Request.txnHandle?] using txnHandle_of_mem_txnRequests c _ r hr⟩] at hs
    simp only [CustomTransaction.handleFor, CustomTransaction.beginRequests] at hh hs
    split at hh
    · rename_i ht
      rw [if_pos ht] at hs
      simp only [KvServer.handleAll_cons, KvServer.handleAll_nil, KvServer.handle,
        KvServer.setTxn_txns, Function.update_noteq hh] at hs
      exact ⟨hs, fun e => by simp [e, ht, h0] at hs⟩
    · rw [if_neg ‹_›] at hs
      exact ⟨hs, hh⟩

end RwCall

namespace System

variable {s : System}

/-- Every transaction the server holds is held by a read-write transaction. -/
def Owned (s : System) : Prop :=
  ∀ h, (s.world.server.txns h).isSome → ∃ i, (s.rw i).transactionHandle = h

theorem Inv.owned_step (hs : s.Inv) (ho : s.Owned) : ∀ a, (s.step a).Owned
  | .rw j c => by
    obtain ⟨t', he, -, hh, -⟩ := CustomTransaction.run_healthy (t := s.rw j) (w := s.rwWorld j) c
      hs.healthy (hs.clientHandle j) fun hf h0 =>
        let ⟨_, hv⟩ := (hs.txn j hf).2 h0; ⟨_, hv⟩
    intro h hh'
    simp only [System.step_rw, he, World.callAll_healthy (w := s.rwWorld j) hs.healthy,
      rwWorld_server] at hh' ⊢
    by_cases hj : h = t'.transactionHandle
    · exact ⟨j, by simp [hj]⟩
    obtain ⟨hsome, hne⟩ := RwCall.txns_requests_of_ne c (s.rw j) hs.wf.1 (hh ▸ hj) hh'
    obtain ⟨i, hi⟩ := ho h hsome
    have hij : i ≠ j := by rintro rfl; exact hne hi.symm
    exact ⟨i, by simpa [Function.update_noteq hij] using hi⟩
  | .ro j d => by
    intro h hh'
    simp only [System.step_ro, (CustomReadOnlyTransaction.run_healthy d hs.healthy
      (hs.roClientHandle j)).1, World.callAll_healthy hs.healthy,
      (RoCall.requests_store d _ _ _).2] at hh' ⊢
    exact ho h hh'
  | .tick _ _ => ho

theorem Inv.owned_run (hs : s.Inv) (ho : s.Owned) (as : List Action) : (s.run as).Owned := by
  induction as generalizing s with
  | nil => exact ho
  | cons a as ih => exact ih (hs.step a) (hs.owned_step ho a)

/-- **Every server transaction has exactly one owner.** In every reachable state of a healthy
run, each transaction the server holds is held, under its handle, by exactly one read-write
transaction. -/
theorem Reachable.server_txn_owned (hs : s.Reachable) {h : Nat}
    (hh : (s.world.server.txns h).isSome) :
    ∃ i, (s.rw i).transactionHandle = h ∧ ∀ j, (s.rw j).transactionHandle = h → j = i := by
  have hi := hs.inv
  obtain ⟨env, host, clocks, as, he, rfl⟩ := hs
  obtain ⟨i, rfl⟩ := (Inv.init he host clocks).owned_run (fun _ => nofun) as h hh
  have h0 : (((System.init env host clocks).run as).rw i).transactionHandle ≠ 0 :=
    fun e => by simp [e, hi.wf.1] at hh
  exact ⟨i, rfl, fun j hj => by_contra fun hji => hi.handle_ne i j (Ne.symm hji) h0 hj.symm⟩

end System

/-- Transaction `0` of `twoWriters` holds server transaction `1`. -/
theorem twoWriters_txn_owned :
    (twoWriters.world.server.txns 1).isSome ∧
      ∃ i, (twoWriters.rw i).transactionHandle = 1 ∧
        ∀ j, (twoWriters.rw j).transactionHandle = 1 → j = i :=
  have hh : (twoWriters.world.server.txns 1).isSome := by decide
  ⟨hh, System.Reachable.server_txn_owned twoWriters_reachable hh⟩

end CustomKv
