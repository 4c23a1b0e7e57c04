import CustomKv.Requests
import CustomKv.Frame

/-!
# What the server holds for every transaction

Over every run in a healthy environment the server's transaction of each read-write transaction
that is not finished holds exactly the reads and the mutations that transaction has sent it, read
off the trace (`readsOf`, `writesOf`); a transaction that has not opened one has sent none.
Handles are distinct and given out in order. `Inv` says so; `Inv.init` and `Inv.step` prove it
of every reachable state, from `run_healthy` and the frame lemmas of the server, without
unfolding a call again.
-/

namespace CustomKv

/-- The read conflict a call makes the server record: the key of `get`, the range
`[begin.key, end.key)` of `getRange` and of `snapshotGetRange`, which delegates to it. -/
def RwCall.sentRead : RwCall → Option ReadConflict
  | .get k => some (.point k)
  | .getRange b e _ | .snapshotGetRange b e _ => some (.range b.key e.key)
  | _ => none

/-- The mutation a call makes the server keep. -/
def RwCall.sentWrite : RwCall → Option Mutation
  | .set k v => some (.set k v)
  | .clear k => some (.clear k)
  | .setVersionstampedKey k _ v => if k.isEmpty then none else some (.setVersionstampedKey k v)
  | .setVersionstampedValue k v _ =>
    if k.isEmpty then none else some (.setVersionstampedValue k (v ++ List.replicate 10 0))
  | _ => none

/-- A server transaction after it has recorded a call. -/
def ServerTxn.record (st : ServerTxn) (c : RwCall) : ServerTxn :=
  ⟨st.readVersion, st.reads ++ c.sentRead.toList, st.mutations ++ c.sentWrite.toList⟩

theorem KvServer.setTxn_eq_self {s : KvServer} {h : Nat} {t : Option ServerTxn}
    (ht : s.txns h = t) : s.setTxn h t = s := by
  cases s
  simp only [setTxn, KvServer.mk.injEq, and_true, true_and]
  exact ht ▸ Function.update_eq_self h _

@[simp] theorem beginSelector_key (b : KeySelector) : (beginSelector b).key = b.key := rfl

@[simp] theorem endSelector_key (e : KeySelector) : (endSelector e).key = e.key := rfl

/-- The requests of a call on an open server transaction make it record the call. -/
theorem KvServer.handleAll_txnRequests {s : KvServer} {c : RwCall} (hc : c ≠ .commit) {h : Nat}
    {st : ServerTxn} (ht : s.txns h = some st) :
    s.handleAll (c.txnRequests h) = s.setTxn h (some (st.record c)) := by
  cases c
  case commit => exact absurd rfl hc
  case setVersionstampedKey k _ _ | setVersionstampedValue k _ _ =>
    by_cases hk : k = []
    · simpa [hk, RwCall.txnRequests, ServerTxn.record, RwCall.sentRead, RwCall.sentWrite] using
        (setTxn_eq_self ht).symm
    · simp [hk, RwCall.txnRequests, handle, mutate, ht, ServerTxn.record, RwCall.sentRead,
        RwCall.sentWrite]
  case get | getRange | snapshotGetRange | set | clear =>
    simp [RwCall.txnRequests, handle, mutate, ht, ServerTxn.record, RwCall.sentRead,
      RwCall.sentWrite]
  all_goals simpa [RwCall.txnRequests, ServerTxn.record, RwCall.sentRead, RwCall.sentWrite] using
    (setTxn_eq_self ht).symm

namespace RwCall

variable {c : RwCall} {t : CustomTransaction} {next : Nat}

theorem txnHandle_of_mem_txnRequests (c : RwCall) (h : Nat) :
    ∀ r ∈ c.txnRequests h, r.txnHandle? = some h := by
  intro r hr
  cases c <;> simp only [txnRequests] at hr <;> (try split at hr) <;>
    simp only [List.mem_singleton, List.not_mem_nil] at hr <;> subst hr <;> rfl

/-- The calls that need no server transaction, `cancel` apart, touch no read-write one. -/
theorem txnHandle_of_mem_requests_of_local (hn : c.needsTxn = false) (hc : c ≠ .cancel) :
    ∀ r ∈ c.requests t next, r.txnHandle? = none := by
  intro r hr
  cases c <;> simp only [needsTxn, reduceCtorEq] at hn
  case snapshotGet k =>
    simp only [requests] at hr
    split at hr
    · cases hr
    · simp only [List.mem_cons, List.not_mem_nil, or_false] at hr
      rcases hr with rfl | rfl | rfl <;> rfl
  case cancel => exact absurd rfl hc
  all_goals simp [requests, needsTxn] at hr

/-- A call's requests act on the transaction's handle, on the next one, or on no read-write
transaction. -/
theorem txnHandle_of_mem_requests (c : RwCall) (t : CustomTransaction) (next : Nat) :
    ∀ r ∈ c.requests t next,
      r.txnHandle? = none ∨ r.txnHandle? = some t.transactionHandle ∨
        r.txnHandle? = some next := by
  intro r hr
  cases hn : c.needsTxn
  · by_cases hc : c = .cancel
    · subst hc
      simp only [requests] at hr
      split at hr
      · cases hr
      · rw [List.mem_singleton.mp hr]
        exact .inr (.inl rfl)
    · exact .inl (txnHandle_of_mem_requests_of_local hn hc r hr)
  · rw [requests_of_needsTxn hn] at hr
    split at hr
    · cases hr
    rcases List.mem_append.mp hr with hr | hr
    · simp only [CustomTransaction.beginRequests] at hr
      split at hr
      · rw [List.mem_singleton.mp hr]
        exact .inl rfl
      · cases hr
    · rw [txnHandle_of_mem_txnRequests c _ r hr, CustomTransaction.handleFor]
      split <;> simp

/-- A call keeps the handle, drops it, or opens the next one with `kv_transaction_begin` first. -/
theorem handleAfter_cases (c : RwCall) (t : CustomTransaction) (next : Nat) :
    c.handleAfter t next = t.transactionHandle ∨ c.handleAfter t next = 0 ∨
      (c.handleAfter t next = next ∧ ∃ rs, c.requests t next = .transactionBegin 30 :: rs) := by
  cases hn : c.needsTxn
  · by_cases hc : c = .cancel
    · subst hc
      simp only [handleAfter]
      split <;> simp
    · exact .inl (handleAfter_of_local hn hc)
  · rw [handleAfter_of_needsTxn hn, requests_of_needsTxn hn]
    split
    · exact .inl rfl
    · by_cases h0 : t.transactionHandle = 0
      · exact .inr (.inr ⟨by simp [CustomTransaction.handleFor, h0],
          c.txnRequests (t.handleFor next), by simp [CustomTransaction.beginRequests, h0]⟩)
      · exact .inl (by simp [CustomTransaction.handleFor, h0])

/-- A call that needs no server transaction records nothing there. -/
theorem sent_of_local (hn : c.needsTxn = false) : c.sentRead = none ∧ c.sentWrite = none := by
  cases c <;> simp only [needsTxn, reduceCtorEq] at hn <;> exact ⟨rfl, rfl⟩

end RwCall

theorem RoCall.txnHandle_of_mem_requests (c : RoCall) (t : CustomReadOnlyTransaction)
    (next : Nat) : ∀ r ∈ c.requests t next, r.txnHandle? = none := by
  intro r hr
  simp only [RoCall.requests] at hr
  split at hr
  · cases hr
  · split at hr <;> simp only [List.mem_cons, List.not_mem_nil, or_false] at hr <;>
      rcases hr with rfl | rfl | rfl <;> rfl

/-- What the server holds for a transaction that is not finished: nothing sent yet if it has no
server transaction, else a server transaction with exactly these reads and mutations. -/
def KvServer.Holds (srv : KvServer) (t : CustomTransaction) (reads : List ReadConflict)
    (writes : List Mutation) : Prop :=
  t.finished = false →
    (t.transactionHandle = 0 → reads = [] ∧ writes = []) ∧
    (t.transactionHandle ≠ 0 →
      ∃ v, srv.txns t.transactionHandle = some ⟨v, reads, writes⟩)

namespace KvServer.Holds

variable {srv : KvServer} {t t' : CustomTransaction} {R : List ReadConflict} {W : List Mutation}

/-- Requests on other handles leave what the server holds for a transaction. -/
theorem frame (h : srv.Holds t R W) {rs : List Request}
    (hr : t.transactionHandle ≠ 0 → ∀ r ∈ rs, r.txnHandle? ≠ some t.transactionHandle)
    (hle : t.transactionHandle ≤ srv.lastHandle) : (srv.handleAll rs).Holds t R W := fun hf =>
  ⟨(h hf).1, fun h0 => by rw [KvServer.handleAll_txns_of_ne (hr h0) hle]; exact (h hf).2 h0⟩

/-- **The owner's step.** After a call, the server holds for the transaction what it held, with
the call's read and mutation recorded. -/
theorem step (h : srv.Holds t R W) (c : RwCall)
    (hle : t.transactionHandle ≤ srv.lastHandle)
    (h₂ : t'.transactionHandle = c.handleAfter t (srv.lastHandle + 1))
    (h₃ : t'.finished = (t.finished || c.finishes)) :
    (srv.handleAll (c.requests t (srv.lastHandle + 1))).Holds t'
      (R ++ c.sentRead.toList) (W ++ c.sentWrite.toList) := by
  intro hf'
  rw [hf', eq_comm, Bool.or_eq_false_iff] at h₃
  obtain ⟨hf, hc⟩ := h₃
  cases hn : c.needsTxn with
  | false =>
    have hcancel : c ≠ .cancel := by rintro rfl; simp [RwCall.finishes] at hc
    obtain ⟨hr, hw⟩ := RwCall.sent_of_local hn
    simp only [hr, hw, h₂, RwCall.handleAfter_of_local hn hcancel, Option.toList_none,
      List.append_nil]
    exact h.frame
      (fun _ r hr => by simp [RwCall.txnHandle_of_mem_requests_of_local hn hcancel r hr])
      hle hf
  | true =>
    have hcommit : c ≠ .commit := by rintro rfl; simp [RwCall.finishes] at hc
    rw [RwCall.requests_of_needsTxn hn, h₂, RwCall.handleAfter_of_needsTxn hn, hf, if_neg nofun,
      if_neg nofun, KvServer.handleAll_append]
    by_cases h0 : t.transactionHandle = 0
    · obtain ⟨rfl, rfl⟩ := (h hf).1 h0
      have hb : (srv.handleAll t.beginRequests).txns (srv.lastHandle + 1) =
          some ⟨srv.latest, [], []⟩ := by
        simp [CustomTransaction.beginRequests, h0, KvServer.handle]
      refine ⟨fun h => by simp [CustomTransaction.handleFor, h0] at h, fun _ => ?_⟩
      rw [CustomTransaction.handleFor, if_pos h0, KvServer.handleAll_txnRequests hcommit hb]
      exact ⟨srv.latest, by simp [ServerTxn.record]⟩
    · obtain ⟨v, hv⟩ := (h hf).2 h0
      refine ⟨fun h => by simp [CustomTransaction.handleFor, h0] at h, fun _ => ?_⟩
      simp only [CustomTransaction.beginRequests, CustomTransaction.handleFor, if_neg h0,
        KvServer.handleAll_nil]
      rw [KvServer.handleAll_txnRequests hcommit hv]
      exact ⟨v, by simp [ServerTxn.record]⟩

end KvServer.Holds

/-- The call of read-write transaction `i` an event records, if any. -/
def Event.callOf (i : Nat) (e : Event) : Option RwCall :=
  match e.action with
  | .rw j c => if j = i then some c else none
  | _ => none

namespace System

/-- The calls of read-write transaction `i` in a trace, in order. -/
def callsOf (i : Nat) (tr : List Event) : List RwCall := tr.filterMap (Event.callOf i)

/-- The read conflicts transaction `i` has sent the server. -/
def readsOf (i : Nat) (tr : List Event) : List ReadConflict :=
  (callsOf i tr).filterMap RwCall.sentRead

/-- The mutations transaction `i` has sent the server. -/
def writesOf (i : Nat) (tr : List Event) : List Mutation :=
  (callsOf i tr).filterMap RwCall.sentWrite

@[simp] theorem callsOf_nil (i : Nat) : callsOf i [] = [] := rfl

@[simp] theorem callsOf_append (i : Nat) (tr : List Event) (e : Event) :
    callsOf i (tr ++ [e]) = callsOf i tr ++ (e.callOf i).toList := by
  simp only [callsOf, List.filterMap_append, List.filterMap_cons, List.filterMap_nil]
  cases e.callOf i <;> rfl

@[simp] theorem callOf_rw (i j : Nat) (c : RwCall) (o : Option (Outcome Answer)) :
    (⟨.rw j c, o⟩ : Event).callOf i = if j = i then some c else none := rfl

@[simp] theorem callOf_ro (i j : Nat) (c : RoCall) (o : Option (Outcome Answer)) :
    (⟨.ro j c, o⟩ : Event).callOf i = none := rfl

@[simp] theorem callOf_tick (i p d : Nat) (o : Option (Outcome Answer)) :
    (⟨.tick p d, o⟩ : Event).callOf i = none := rfl

section Append

variable {i : Nat} {tr : List Event}

theorem readsOf_append_of_none {e : Event} (h : e.callOf i = none) :
    readsOf i (tr ++ [e]) = readsOf i tr := by
  simp [readsOf, h]

theorem writesOf_append_of_none {e : Event} (h : e.callOf i = none) :
    writesOf i (tr ++ [e]) = writesOf i tr := by
  simp [writesOf, h]

theorem readsOf_append_rw (c : RwCall) (o : Option (Outcome Answer)) :
    readsOf i (tr ++ [⟨.rw i c, o⟩]) = readsOf i tr ++ c.sentRead.toList := by
  simp only [readsOf, callsOf_append, callOf_rw, ↓reduceIte, Option.toList_some,
    List.filterMap_append, List.filterMap_cons, List.filterMap_nil]
  cases c.sentRead <;> rfl

theorem writesOf_append_rw (c : RwCall) (o : Option (Outcome Answer)) :
    writesOf i (tr ++ [⟨.rw i c, o⟩]) = writesOf i tr ++ c.sentWrite.toList := by
  simp only [writesOf, callsOf_append, callOf_rw, ↓reduceIte, Option.toList_some,
    List.filterMap_append, List.filterMap_cons, List.filterMap_nil]
  cases c.sentWrite <;> rfl

end Append

/-- **The invariant of every run in a healthy environment.** Handles are distinct and given out
in order; and the server transaction of each transaction that is not finished holds exactly the
reads and the mutations the transaction has sent, while one that has not begun has sent none. -/
structure Inv (s : System) : Prop where
  healthy : s.world.env.Healthy
  wf : s.world.server.WF
  clientHandle : ∀ i, (s.rw i).clientHandle = true
  roClientHandle : ∀ i, (s.ro i).clientHandle = true
  handle_le : ∀ i, (s.rw i).transactionHandle ≤ s.world.server.lastHandle
  handle_ne : ∀ i j, i ≠ j → (s.rw i).transactionHandle ≠ 0 →
    (s.rw i).transactionHandle ≠ (s.rw j).transactionHandle
  txn : ∀ i, s.world.server.Holds (s.rw i) (readsOf i s.trace) (writesOf i s.trace)

theorem Inv.init {env : Env} (he : env.Healthy) (host : Nat → Nat) (clocks : Nat → Int) :
    (System.init env host clocks).Inv where
  healthy := he
  wf := KvServer.init_wf
  clientHandle _ := rfl
  roClientHandle _ := rfl
  handle_le _ := Nat.zero_le _
  handle_ne _ _ _ h := absurd rfl h
  txn _ _ := ⟨fun _ => ⟨rfl, rfl⟩, fun h => absurd rfl h⟩

theorem lastHandle_lt_handleAll_begin (srv : KvServer) (n : Nat) (rs : List Request) :
    srv.lastHandle < (srv.handleAll (.transactionBegin n :: rs)).lastHandle :=
  Nat.lt_of_lt_of_le (Nat.lt_succ_self _)
    (KvServer.lastHandle_le_handleAll (srv.handle (.transactionBegin n)).2 rs)

variable {s : System}

/-- A call of transaction `j` keeps the invariant. -/
theorem Inv.step_rw (hs : s.Inv) (j : Nat) (c : RwCall) : (s.step (.rw j c)).Inv := by
  obtain ⟨t', he, hc, hh, hfin⟩ := CustomTransaction.run_healthy (t := s.rw j)
    (w := s.rwWorld j) c hs.healthy (hs.clientHandle j) fun hf h0 =>
      let ⟨_, hv⟩ := (hs.txn j hf).2 h0; ⟨_, hv⟩
  rw [World.callAll_healthy (w := s.rwWorld j) hs.healthy] at he
  simp only [rwWorld_server] at he hh
  set rs := c.requests (s.rw j) (s.world.server.lastHandle + 1)
  have hle : t'.transactionHandle ≤ (s.world.server.handleAll rs).lastHandle := by
    rcases RwCall.handleAfter_cases c (s.rw j) (s.world.server.lastHandle + 1) with
      h | h | ⟨h, rs', hrs⟩
    · exact hh ▸ h ▸ (hs.handle_le j).trans (KvServer.lastHandle_le_handleAll _ _)
    · simp [hh, h]
    · rw [hh, h, show rs = _ from hrs]
      exact lastHandle_lt_handleAll_begin _ 30 rs'
  /- the new handle is none of the others' -/
  have hnew : ∀ x, x ≠ j → (s.rw x).transactionHandle ≠ 0 ∨ t'.transactionHandle ≠ 0 →
      (s.rw x).transactionHandle ≠ t'.transactionHandle := by
    intro x hx hor heq
    rcases RwCall.handleAfter_cases c (s.rw j) (s.world.server.lastHandle + 1) with
      h | h | ⟨h, -⟩ <;>
      rw [hh, h] at heq hor
    · exact hs.handle_ne x j hx (by rcases hor with h | h <;> [exact h; rwa [heq]]) heq
    · simp [heq] at hor
    · have := hs.handle_le x
      omega
  /- the requests touch no other transaction's server transaction -/
  have hr : ∀ x, x ≠ j → (s.rw x).transactionHandle ≠ 0 →
      ∀ r ∈ rs, r.txnHandle? ≠ some (s.rw x).transactionHandle := by
    intro x hx h0 r hr heq
    rcases RwCall.txnHandle_of_mem_requests c (s.rw j) _ r hr with h | h | h <;> rw [h] at heq
    · cases heq
    · exact hs.handle_ne x j hx h0 (Option.some.inj heq).symm
    · have := hs.handle_le x
      simp at heq
      omega
  simp only [System.step_rw, he]
  refine ⟨hs.healthy, hs.wf.handleAll rs, fun x => ?_, hs.roClientHandle, fun x => ?_,
    fun x y hxy => ?_, fun x => ?_⟩
  · by_cases hx : x = j
    · subst hx; simpa using hc
    · simpa [Function.update_noteq hx] using hs.clientHandle x
  · by_cases hx : x = j
    · subst hx; simpa using hle
    · simpa [Function.update_noteq hx] using
        (hs.handle_le x).trans (KvServer.lastHandle_le_handleAll _ _)
  · simp only [Function.update_apply]
    split_ifs with hx hy hy
    · exact absurd (hx.trans hy.symm) hxy
    · exact fun h0 => (hnew y hy (.inr h0)).symm
    · exact hnew x hx ∘ .inl
    · exact hs.handle_ne x y hxy
  · by_cases hx : x = j
    · subst hx
      simpa [readsOf_append_rw, writesOf_append_rw] using (hs.txn x).step c (hs.handle_le x) hh hfin
    · simpa [Function.update_noteq hx, readsOf_append_of_none, writesOf_append_of_none, Ne.symm hx]
        using (hs.txn x).frame (hr x hx) (hs.handle_le x)

/-- A call of a read-only transaction keeps the invariant: its requests touch no read-write
transaction. -/
theorem Inv.step_ro (hs : s.Inv) (j : Nat) (d : RoCall) : (s.step (.ro j d)).Inv := by
  obtain ⟨he, hc⟩ := CustomReadOnlyTransaction.run_healthy (t := s.ro j) (w := s.world) d
    hs.healthy (hs.roClientHandle j)
  rw [World.callAll_healthy hs.healthy] at he
  set rs := d.requests (s.ro j) (s.world.server.lastHandle + 1)
  have hr : ∀ x, (s.rw x).transactionHandle ≠ 0 →
      ∀ r ∈ rs, r.txnHandle? ≠ some (s.rw x).transactionHandle := fun _ _ r hr => by
    simp [RoCall.txnHandle_of_mem_requests d _ _ r hr]
  simp only [System.step_ro, he]
  refine ⟨hs.healthy, hs.wf.handleAll rs, hs.clientHandle, fun x => ?_,
    fun x => (hs.handle_le x).trans (KvServer.lastHandle_le_handleAll _ _), hs.handle_ne,
    fun x => ?_⟩
  · by_cases hx : x = j
    · subst hx; simpa using hc
    · simpa [Function.update_noteq hx] using hs.roClientHandle x
  · simpa [readsOf_append_of_none, writesOf_append_of_none] using
      (hs.txn x).frame (hr x) (hs.handle_le x)

theorem Inv.step_tick (hs : s.Inv) (p d : Nat) : (s.step (.tick p d)).Inv := by
  simp only [System.step_tick]
  exact ⟨hs.healthy, hs.wf, hs.clientHandle, hs.roClientHandle, hs.handle_le, hs.handle_ne,
    fun x => by simpa [readsOf_append_of_none, writesOf_append_of_none] using hs.txn x⟩

theorem Inv.step (hs : s.Inv) : ∀ a, (s.step a).Inv
  | .rw j c => hs.step_rw j c
  | .ro j d => hs.step_ro j d
  | .tick p d => hs.step_tick p d

theorem Inv.run (hs : s.Inv) (as : List Action) : (s.run as).Inv := by
  induction as generalizing s with
  | nil => exact hs
  | cons a as ih => exact ih (hs.step a)

/-- The states a run from engines that are up reaches, in a healthy environment. -/
def Reachable (s : System) : Prop :=
  ∃ env host clocks as, env.Healthy ∧ s = (System.init env host clocks).run as

theorem Reachable.inv (h : s.Reachable) : s.Inv := by
  obtain ⟨env, host, clocks, as, he, rfl⟩ := h
  exact (Inv.init he host clocks).run as

/-- **No two transactions share a server transaction.** In every reachable state of a healthy
run, a read-write transaction that holds a server handle holds one the server has given out, and
no other read-write transaction holds the same one. -/
theorem Reachable.handle_unshared (hs : s.Reachable) {i j : Nat} (hij : i ≠ j)
    (h0 : (s.rw i).transactionHandle ≠ 0) :
    (s.rw i).transactionHandle ≤ s.world.server.lastHandle ∧
      (s.rw i).transactionHandle ≠ (s.rw j).transactionHandle :=
  ⟨hs.inv.handle_le i, hs.inv.handle_ne i j hij h0⟩

/-- **The server records what each transaction sent.** In every reachable state of a healthy run,
the server transaction under the handle of a read-write transaction that is not finished holds
exactly the read conflicts and the mutations of the transaction's calls so far, in order. -/
theorem Reachable.server_records_calls (hs : s.Reachable) {i : Nat}
    (hf : (s.rw i).finished = false) (h0 : (s.rw i).transactionHandle ≠ 0) :
    ∃ v, s.world.server.txns (s.rw i).transactionHandle =
      some ⟨v, readsOf i s.trace, writesOf i s.trace⟩ :=
  (hs.inv.txn i hf).2 h0

end System

/-- Transactions `0` and `1` each write a key; transaction `0` then reads one. -/
def twoWriters : System :=
  (System.init .healthy (fun _ => 0) (fun _ => 0)).run
    [.rw 0 (.set [1] [2]), .rw 1 (.set [3] [4]), .rw 0 (.get [5])]

theorem twoWriters_reachable : twoWriters.Reachable := ⟨.healthy, _, _, _, Env.healthy_healthy, rfl⟩

theorem twoWriters_handles : (0 : Nat) ≠ 1 ∧ (twoWriters.rw 0).transactionHandle ≠ 0 ∧
    (twoWriters.rw 0).transactionHandle ≤ twoWriters.world.server.lastHandle ∧
      (twoWriters.rw 0).transactionHandle ≠ (twoWriters.rw 1).transactionHandle :=
  ⟨by decide, by decide,
    System.Reachable.handle_unshared twoWriters_reachable (by decide) (by decide)⟩

theorem twoWriters_records :
    (twoWriters.rw 0).finished = false ∧ (twoWriters.rw 0).transactionHandle ≠ 0 ∧
      ∃ v, twoWriters.world.server.txns (twoWriters.rw 0).transactionHandle =
        some ⟨v, System.readsOf 0 twoWriters.trace, System.writesOf 0 twoWriters.trace⟩ :=
  ⟨by decide, by decide,
    System.Reachable.server_records_calls twoWriters_reachable (by decide) (by decide)⟩

example : System.readsOf 0 twoWriters.trace = [.point [5]] ∧
    System.writesOf 0 twoWriters.trace = [.set [1] [2]] := by
  decide

end CustomKv
