import CustomKv.Client

/-!
# What a request changes on the server

A request acts on the read-write transaction of its own handle, if it names one; the two begins
give out the next handle; a commit appends to the history. Nothing else changes: these frame
lemmas, and `WF` (no transaction at handle `0` or above the last handle given out), are what the
invariants of many transactions need from the server.
-/

namespace CustomKv

/-- The read-write transaction a request acts on, if any. -/
def Request.txnHandle? : Request → Option Nat
  | .transactionGet h _ | .transactionGetRange h .. | .transactionSet h .. | .transactionDelete h _
  | .transactionSetVersionstampedKey h .. | .transactionSetVersionstampedValue h ..
  | .transactionCommit h | .transactionAbort h => some h
  | _ => none

namespace KvServer

variable {s : KvServer}

theorem lastHandle_le_handle (s : KvServer) (r : Request) :
    s.lastHandle ≤ (s.handle r).2.lastHandle := by
  cases r <;> simp only [handle, mutate] <;> (try split) <;> (try split) <;> simp

theorem commits_prefix_handle (s : KvServer) (r : Request) :
    s.commits <+: (s.handle r).2.commits := by
  cases r <;> simp only [handle, mutate] <;> (try split) <;> (try split) <;> simp

/-- A request changes the transaction of its own handle only, and `kv_transaction_begin` the one
of the next handle. -/
theorem handle_txns_of_ne {r : Request} {h : Nat} (hr : r.txnHandle? ≠ some h)
    (hh : h ≤ s.lastHandle) : (s.handle r).2.txns h = s.txns h := by
  have hne : h ≠ s.lastHandle + 1 := by omega
  cases r <;> simp only [Request.txnHandle?, ne_eq, Option.some.injEq] at hr <;>
    simp only [handle, mutate] <;> (try split) <;> (try split) <;>
    simp [Function.update_noteq, Ne.symm hr, hne]

/-- Handles are given out in order from `1`: there is no transaction at `0` or above the last
handle given out. -/
theorem WF.setTxn_some (hs : s.WF) {h : Nat} {t : ServerTxn} (ht : s.txns h = some t)
    (t' : ServerTxn) : (s.setTxn h (some t')).WF := by
  have h0 : h ≠ 0 := by rintro rfl; simp [hs.1] at ht
  have hle : h ≤ s.lastHandle := by
    by_contra hlt
    simp [hs.2 h (by omega)] at ht
  refine ⟨by simp [Function.update_noteq (Ne.symm h0), hs.1], fun h' hh => ?_⟩
  simp only [setTxn_lastHandle] at hh
  simp [Function.update_noteq (show h' ≠ h by omega), hs.2 h' hh]

/-- `kv_transaction_begin` gives out the next handle. -/
theorem WF.setTxn_next (hs : s.WF) (t : ServerTxn) :
    { s.setTxn (s.lastHandle + 1) (some t) with lastHandle := s.lastHandle + 1 }.WF := by
  refine ⟨by simp [Function.update_noteq, hs.1], fun h hh => ?_⟩
  simp only at hh
  simp [Function.update_noteq (show h ≠ s.lastHandle + 1 by omega), hs.2 h (by omega)]

theorem WF.handle (hs : s.WF) (r : Request) : (s.handle r).2.WF := by
  cases r <;> simp only [KvServer.handle, mutate] <;> (try split) <;> (try split)
  all_goals try dsimp only
  all_goals first
    | exact hs
    | exact hs.setTxn_none _
    | exact hs.setTxn_some ‹_› _
    | exact hs.setTxn_next _
    | exact ⟨hs.1, fun h hh => hs.2 h (by simp at hh; omega)⟩


theorem lastHandle_le_handleAll (s : KvServer) (rs : List Request) :
    s.lastHandle ≤ (s.handleAll rs).lastHandle := by
  induction rs generalizing s with
  | nil => exact le_rfl
  | cons r rs ih => exact (lastHandle_le_handle s r).trans (ih _)

theorem commits_prefix_handleAll (s : KvServer) (rs : List Request) :
    s.commits <+: (s.handleAll rs).commits := by
  induction rs generalizing s with
  | nil => exact List.prefix_refl _
  | cons r rs ih => exact (commits_prefix_handle s r).trans (ih _)

theorem WF.handleAll (hs : s.WF) (rs : List Request) : (s.handleAll rs).WF := by
  induction rs generalizing s with
  | nil => exact hs
  | cons r rs ih => exact ih (hs.handle r)

theorem handleAll_txns_of_ne {rs : List Request} {h : Nat}
    (hr : ∀ r ∈ rs, r.txnHandle? ≠ some h)
    (hh : h ≤ s.lastHandle) : (s.handleAll rs).txns h = s.txns h := by
  induction rs generalizing s with
  | nil => rfl
  | cons r rs ih =>
    rw [handleAll_cons, ih (fun r' hr' => hr r' (.tail _ hr'))
      (hh.trans (lastHandle_le_handle s r)), handle_txns_of_ne (hr r (.head _)) hh]

/-- A transaction the server no longer holds, under a handle it has given out, stays gone: a
request on its handle finds nothing, and no begin gives the handle out again. -/
theorem handle_txns_of_none {h : Nat} (hn : s.txns h = none) (hh : h ≤ s.lastHandle)
    (r : Request) : (s.handle r).2.txns h = none := by
  by_cases hr : r.txnHandle? = some h
  · cases r <;> simp only [Request.txnHandle?, Option.some.injEq, reduceCtorEq] at hr <;>
      subst hr <;> simp [handle, mutate, hn]
  · rw [handle_txns_of_ne hr hh, hn]

end KvServer

/-- In a healthy environment issuing requests is handling them. -/
theorem World.callAll_healthy {w : World} (hw : w.env.Healthy) (rs : List Request) :
    w.callAll rs =
      { w with
        server := w.server.handleAll rs
        issued := w.issued + rs.length
        calls := w.calls ++ rs } := by
  induction rs generalizing w with
  | nil => simp
  | cons r rs ih =>
    rw [World.callAll_cons, ih (by simpa using hw), World.call_healthy hw]
    simp [Nat.add_assoc, Nat.add_comm 1]

end CustomKv
