import CustomKv.TransactionLemmas

/-!
# Exceptions out of the operations

`waitForFuture` throws `std::runtime_error("Future polling failed")` when `kv_future_poll`
returns `-1`. `cancel` awaits its abort inside a `try`; no other operation catches, so the
exception leaves the coroutine and reaches the caller instead of a `Result`. Nothing else throws:
every call is `PollSafe`, built from pieces each of which throws at most that exception, and only
once the poll of a future the call issued itself has failed.
-/

namespace CustomKv

/-- The calls whose first request is awaited with `waitForFuture`: those that open or use the
server transaction through a future, and `snapshotGet`. The versionstamped writes are
synchronous and `addReadConflict` sends nothing. -/
def RwCall.Waits : RwCall → Prop
  | .snapshotGet _ | .get _ | .snapshotGetRange .. | .getRange .. | .set .. | .clear _
  | .commit => True
  | _ => False

/-- The calls of a read-only transaction that await a future: the two that open a read
transaction. -/
def RoCall.Waits : RoCall → Prop
  | .snapshotGet _ | .snapshotGetRange .. => True
  | _ => False

namespace CustomTransaction

variable {t : CustomTransaction} {w : World}

/-- A call that awaits a future throws when the poll of its first request fails: on a fresh
transaction that is `kv_transaction_begin`, on an open one the call's own request. -/
theorem run_throws_of_poll_failed (hf : t.finished = false) (hc : t.clientHandle = true)
    (hp : w.env.poll w.issued = -1) {c : RwCall} (hw : c.Waits) :
    (c.run (t, w)).1 = .thrown "Future polling failed" := by
  have hf' := hf
  simp only [finished, Bool.or_eq_false_iff] at hf'
  by_cases h0 : t.transactionHandle = 0
  · cases c <;> simp only [RwCall.Waits] at hw <;> simp only [RwCall.run, snapshotGet,
      Bool.not_eq_eq_eq_not, Bool.not_true, Co.map_apply, Co.bind_apply, Co.self_apply, hf,
      Bool.false_eq_true, ↓reduceIte, hc, Bool.true_eq_false, call_apply, waitForFuture_apply,
      World.call_env, World.call_id, hp, Int.reduceNeg, get, withTransaction, h0,
      ensureTransaction_of_poll_failed, snapshotGetRange, getRange, ne_eq, decide_not, set, mutate,
      clear, commit, Bool.or_eq_true, hf', or_self, Co.modifySelf_apply]
  · cases c <;> simp only [RwCall.Waits] at hw <;> simp only [RwCall.run, snapshotGet,
      Bool.not_eq_eq_eq_not, Bool.not_true, Co.map_apply, Co.bind_apply, Co.self_apply, hf,
      Bool.false_eq_true, ↓reduceIte, hc, Bool.true_eq_false, call_apply, waitForFuture_apply,
      World.call_env, World.call_id, hp, Int.reduceNeg, get, withTransaction_of_open hf h0,
      snapshotGetRange, getRange, ne_eq, decide_not, set, mutate, clear, commit, Bool.or_eq_true,
      hf', or_self, Co.modifySelf_apply, h0, not_false_eq_true, ensureTransaction_of_open]

end CustomTransaction

theorem CustomReadOnlyTransaction.run_throws_of_poll_failed {u : CustomReadOnlyTransaction}
    {w : World} (hu : u.cancelled = false ∧ u.isReset = false ∧ u.clientHandle = true)
    (hp : w.env.poll w.issued = -1) {d : RoCall} (hd : d.Waits) :
    (d.run (u, w)).1 = .thrown "Future polling failed" := by
  obtain ⟨hc, hr, hh⟩ := hu
  cases d <;> simp only [RoCall.Waits] at hd <;>
    simp only [RoCall.run, snapshotGet, Bool.or_eq_true, Bool.not_eq_eq_eq_not, Bool.not_true,
      Co.map_apply, Co.bind_apply, Co.self_apply, hc, Bool.false_eq_true, hr, or_self, ↓reduceIte,
      hh, Bool.true_eq_false, call_apply, waitForFuture_apply, World.call_env, World.call_id, hp,
      Int.reduceNeg, snapshotGetRange]

/-- Every call of either transaction that awaits a future lets the exception of a failed poll
escape to its caller; only `cancel` catches it. -/
theorem poll_failure_throws {t : CustomTransaction} {u : CustomReadOnlyTransaction} {w : World}
    (hf : t.finished = false) (hc : t.clientHandle = true)
    (hu : u.cancelled = false ∧ u.isReset = false ∧ u.clientHandle = true)
    (hp : w.env.poll w.issued = -1) {c : RwCall} (hw : c.Waits) {d : RoCall} (hd : d.Waits) :
    (c.run (t, w)).1 = .thrown "Future polling failed" ∧
      (d.run (u, w)).1 = .thrown "Future polling failed" :=
  ⟨CustomTransaction.run_throws_of_poll_failed hf hc hp hw,
    CustomReadOnlyTransaction.run_throws_of_poll_failed hu hp hd⟩

/-- A library whose every poll fails. -/
def Env.pollFailing : Env := ⟨fun _ => -1, fun _ => none, id⟩

theorem poll_failure_throws_on_set :
    (CustomTransaction.create true).finished = false ∧
      (CustomTransaction.create true).clientHandle = true ∧
      ((CustomReadOnlyTransaction.create true).cancelled = false ∧
        (CustomReadOnlyTransaction.create true).isReset = false ∧
        (CustomReadOnlyTransaction.create true).clientHandle = true) ∧
      (World.init .pollFailing 0).env.poll (World.init .pollFailing 0).issued = -1 ∧
      (RwCall.set [1] [2]).Waits ∧ (RoCall.snapshotGet [1]).Waits ∧
      ((RwCall.set [1] [2]).run (CustomTransaction.create true, World.init .pollFailing 0)).1 =
          .thrown "Future polling failed" ∧
        ((RoCall.snapshotGet [1]).run (CustomReadOnlyTransaction.create true,
          World.init .pollFailing 0)).1 = .thrown "Future polling failed" :=
  ⟨rfl, rfl, ⟨rfl, rfl, rfl⟩, rfl, trivial, trivial,
    poll_failure_throws (t := .create true) (u := .create true) (w := World.init .pollFailing 0)
      (c := .set [1] [2]) (d := .snapshotGet [1]) rfl rfl ⟨rfl, rfl, rfl⟩ rfl trivial trivial⟩

/-! ## Only a failed poll throws -/

/-- A program that throws only `Future polling failed`, and only once `kv_future_poll` has
returned `-1` for one of the futures it issued itself. It keeps the client library, only adds
futures, and only appends to the log of requests. -/
structure Co.PollSafe {σ α : Type} (x : Co (σ × World) α) : Prop where
  env : ∀ s, (x s).2.2.env = s.2.env
  issued : ∀ s, s.2.issued ≤ (x s).2.2.issued
  calls : ∀ s, s.2.calls <+: (x s).2.2.calls
  thrown : ∀ s e, (x s).1 = .thrown e → e = "Future polling failed" ∧
    ∃ n, s.2.issued ≤ n ∧ n < (x s).2.2.issued ∧ s.2.env.poll n = -1

namespace Co.PollSafe

variable {σ α β : Type} {x : Co (σ × World) α}

theorem pure (a : α) : (pure a : Co (σ × World) α).PollSafe :=
  ⟨fun _ => rfl, fun _ => Nat.le_refl _, fun _ => List.prefix_refl _, fun _ _ h => nomatch h⟩

theorem bind {f : α → Co (σ × World) β} (hx : x.PollSafe) (hf : ∀ a, (f a).PollSafe) :
    (x >>= f).PollSafe where
  env s := by
    have he := hx.env s
    rw [Co.bind_apply]
    rcases hxs : x s with ⟨⟨a⟩ | ⟨e⟩, s'⟩ <;> simp only [hxs] at he ⊢
    exacts [((hf a).env s').trans he, he]
  issued s := by
    have hi := hx.issued s
    rw [Co.bind_apply]
    rcases hxs : x s with ⟨⟨a⟩ | ⟨e⟩, s'⟩ <;> simp only [hxs] at hi ⊢
    exacts [hi.trans ((hf a).issued s'), hi]
  calls s := by
    have hc := hx.calls s
    rw [Co.bind_apply]
    rcases hxs : x s with ⟨⟨a⟩ | ⟨e⟩, s'⟩ <;> simp only [hxs] at hc ⊢
    exacts [hc.trans ((hf a).calls s'), hc]
  thrown s e h := by
    have he := hx.env s
    have hi := hx.issued s
    have ht := hx.thrown s
    rw [Co.bind_apply] at h ⊢
    rcases hxs : x s with ⟨⟨a⟩ | ⟨e'⟩, s'⟩ <;> simp only [hxs] at he hi ht h ⊢
    · obtain ⟨hm, n, h₁, h₂, h₃⟩ := (hf a).thrown s' e h
      exact ⟨hm, n, hi.trans h₁, h₂, he ▸ h₃⟩
    · cases h
      exact ht _ rfl

theorem map (f : α → β) (hx : x.PollSafe) : (f <$> x).PollSafe :=
  hx.bind fun _ => pure _

theorem ite {c : Prop} [Decidable c] {y : Co (σ × World) α} (hx : x.PollSafe)
    (hy : y.PollSafe) : (if c then x else y).PollSafe := by
  split <;> assumption

theorem self : (Co.self : Co (σ × World) σ).PollSafe :=
  ⟨fun _ => rfl, fun _ => Nat.le_refl _, fun _ => List.prefix_refl _, fun _ _ h => nomatch h⟩

theorem modifySelf (f : σ → σ) : (Co.modifySelf f : Co (σ × World) Unit).PollSafe :=
  ⟨fun _ => rfl, fun _ => Nat.le_refl _, fun _ => List.prefix_refl _, fun _ _ h => nomatch h⟩

theorem call (r : Request) : (call r : Co (σ × World) KvFuture).PollSafe :=
  ⟨fun _ => rfl, fun _ => Nat.le_succ _, fun _ => List.prefix_append _ _, fun _ _ h => nomatch h⟩

theorem callSync (r : Request) : (callSync r : Co (σ × World) (Option KvErrorCode)).PollSafe :=
  ⟨fun _ => rfl, fun _ => Nat.le_succ _, fun _ => List.prefix_append _ _, fun _ _ h => nomatch h⟩

theorem steadyClockNow : (steadyClockNow : Co (σ × World) Int).PollSafe :=
  ⟨fun _ => rfl, fun _ => Nat.le_refl _, fun _ => List.prefix_refl _, fun _ _ h => nomatch h⟩

theorem kvPairArrayFree (a : KvPairArray) :
    (kvPairArrayFree a : Co (σ × World) KvPairArray).PollSafe :=
  ⟨fun _ => rfl, fun _ => Nat.le_refl _, fun _ => List.prefix_refl _, fun _ _ h => nomatch h⟩

/-- A request whose future is awaited at once: a failed poll of that future is the only
exception. -/
theorem call_wait (r : Request) {k : KvFuture → Unit → Co (σ × World) α}
    (hk : ∀ f u, (k f u).PollSafe) :
    (CustomKv.call r >>= fun f => waitForFuture f >>= k f).PollSafe where
  env s := by
    simp only [Co.bind_apply, call_apply, waitForFuture_apply]
    split_ifs
    · rfl
    · exact (hk _ _).env _
  issued s := by
    simp only [Co.bind_apply, call_apply, waitForFuture_apply]
    split_ifs
    · exact Nat.le_succ _
    · exact (Nat.le_succ _).trans ((hk (s.2.call r).1 ()).issued (s.1, (s.2.call r).2))
  calls s := by
    simp only [Co.bind_apply, call_apply, waitForFuture_apply]
    split_ifs
    · exact List.prefix_append _ _
    · exact (List.prefix_append _ _).trans ((hk (s.2.call r).1 ()).calls (s.1, (s.2.call r).2))
  thrown s e h := by
    simp only [Co.bind_apply, call_apply, waitForFuture_apply] at h ⊢
    split_ifs at h ⊢ with hp
    · cases h
      exact ⟨rfl, s.2.issued, Nat.le_refl _, Nat.lt_succ_self _, hp⟩
    · obtain ⟨hm, n, h₁, h₂, h₃⟩ := (hk _ _).thrown _ e h
      exact ⟨hm, n, (Nat.le_succ _).trans h₁, h₂, h₃⟩

/-- The abort of `cancel`, awaited inside a `try` whose handler swallows the exception. -/
theorem tryCatch_wait (f : KvFuture) :
    (tryCatch (waitForFuture f) fun _ => Pure.pure () : Co (σ × World) Unit).PollSafe where
  env s := by simp only [Co.tryCatch_apply, waitForFuture_apply]; split_ifs <;> rfl
  issued s := by
    simp only [Co.tryCatch_apply, waitForFuture_apply]; split_ifs <;> exact Nat.le_refl _
  calls s := by
    simp only [Co.tryCatch_apply, waitForFuture_apply]; split_ifs <;> exact List.prefix_refl _
  thrown s e h := by
    simp only [Co.tryCatch_apply, waitForFuture_apply] at h
    split_ifs at h

/-- The prologue that opens the server transaction awaits only the future it has just issued. -/
theorem ensureTransaction : (CustomTransaction.ensureTransaction).PollSafe := by
  dsimp only [CustomTransaction.ensureTransaction]
  exact .bind .self fun _ => .ite (.pure _) <| .ite (.pure _) <| .bind (.pure _) fun _ =>
    .call_wait _ fun _ _ => .bind (.modifySelf _) fun _ => .ite (.pure _) (.pure _)

/-- The guard and prologue of every call that needs the server transaction add no exception of
their own. -/
theorem withTransaction {body : CustomTransaction.CoTask (Result α)} (hb : body.PollSafe) :
    (CustomTransaction.withTransaction body).PollSafe := by
  dsimp only [CustomTransaction.withTransaction]
  exact .bind .self fun _ => .ite (.pure _) <| .bind (.pure _) fun _ =>
    .bind ensureTransaction fun
      | .error _ => .pure _
      | .ok () => hb

end Co.PollSafe

/-- Every call of either kind of transaction is `PollSafe`: each is built from the pieces above,
and every future it awaits it has issued just before. -/
theorem run_pollSafe (c : RwCall) (d : RoCall) : c.run.PollSafe ∧ d.run.PollSafe := by
  constructor <;> [cases c; cases d]
  all_goals dsimp only [RwCall.run, RoCall.run, CustomTransaction.setReadVersion,
    CustomTransaction.snapshotGet, CustomTransaction.get, CustomTransaction.snapshotGetRange,
    CustomTransaction.getRange, CustomTransaction.cancel, CustomTransaction.reset,
    CustomTransaction.addReadConflict, CustomTransaction.addReadConflictRange,
    CustomTransaction.set, CustomTransaction.clear, CustomTransaction.mutate,
    CustomTransaction.setVersionstampedKey, CustomTransaction.setVersionstampedValue,
    CustomTransaction.commit,
    CustomReadOnlyTransaction.setReadVersion, CustomReadOnlyTransaction.snapshotGet,
    CustomReadOnlyTransaction.get, CustomReadOnlyTransaction.snapshotGetRange,
    CustomReadOnlyTransaction.getRange, CustomReadOnlyTransaction.cancel,
    CustomReadOnlyTransaction.reset]
  all_goals repeat' first
    | with_reducible apply Co.PollSafe.call_wait
    | with_reducible refine .bind ?_ fun _ => ?_
    | with_reducible apply Co.PollSafe.map
    | with_reducible apply Co.PollSafe.ite
    | with_reducible exact .pure _
    | with_reducible exact .self
    | with_reducible exact .ensureTransaction
    | with_reducible apply Co.PollSafe.withTransaction
    | with_reducible exact .modifySelf _
    | with_reducible exact .call _
    | with_reducible exact .callSync _
    | with_reducible exact .steadyClockNow
    | with_reducible exact .kvPairArrayFree _
    | with_reducible exact .tryCatch_wait _
    | split
    | intro _
    | exact ⟨fun _ => rfl, fun _ => Nat.le_refl _, fun _ => List.prefix_refl _,
      fun _ _ h => nomatch h⟩

/-- **Only a failed poll throws.** From every state and in every environment, a call of either
kind of transaction that throws throws `Future polling failed`, and `kv_future_poll` returned
`-1` for one of the futures the call itself issued. In a library whose polls never fail, every
call returns. -/
theorem only_failed_polls_throw (c : RwCall) (d : RoCall) (t : CustomTransaction)
    (u : CustomReadOnlyTransaction) (w : World) (e : String) :
    ((c.run (t, w)).1 = .thrown e → e = "Future polling failed" ∧
      ∃ n, w.issued ≤ n ∧ n < (c.run (t, w)).2.2.issued ∧ w.env.poll n = -1) ∧
    ((d.run (u, w)).1 = .thrown e → e = "Future polling failed" ∧
      ∃ n, w.issued ≤ n ∧ n < (d.run (u, w)).2.2.issued ∧ w.env.poll n = -1) :=
  ⟨(run_pollSafe c d).1.thrown (t, w) e, (run_pollSafe c d).2.thrown (u, w) e⟩

/-- On a library whose every poll fails, `set` and `snapshotGet` throw at the first future they
issue. -/
theorem pollFailing_throws_at_own_future :
    ((RwCall.set [1] [2]).run (.create true, World.init .pollFailing 0)).1 =
        .thrown "Future polling failed" ∧
      ((RoCall.snapshotGet [1]).run (.create true, World.init .pollFailing 0)).1 =
        .thrown "Future polling failed" ∧
      ("Future polling failed" = "Future polling failed" ∧ ∃ n, 0 ≤ n ∧
        n < ((RwCall.set [1] [2]).run (.create true, World.init .pollFailing 0)).2.2.issued ∧
        Env.pollFailing.poll n = -1) ∧
      ("Future polling failed" = "Future polling failed" ∧ ∃ n, 0 ≤ n ∧
        n < ((RoCall.snapshotGet [1]).run (.create true, World.init .pollFailing 0)).2.2.issued ∧
        Env.pollFailing.poll n = -1) :=
  have h₁ : ((RwCall.set [1] [2]).run (.create true, World.init .pollFailing 0)).1 =
      .thrown "Future polling failed" := by decide
  have h₂ : ((RoCall.snapshotGet [1]).run (.create true, World.init .pollFailing 0)).1 =
      .thrown "Future polling failed" := by decide
  have h := only_failed_polls_throw (.set [1] [2]) (.snapshotGet [1]) (.create true)
    (.create true) (World.init .pollFailing 0) "Future polling failed"
  ⟨h₁, h₂, h.1 h₁, h.2 h₂⟩

end CustomKv
