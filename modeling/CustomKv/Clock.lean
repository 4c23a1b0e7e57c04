import CustomKv.TransactionLemmas

/-!
# Committed versions

`commit` stores `steady_clock::now()` of its host, in microseconds, as the committed version,
once the server has accepted the commit. It is not a server version: steady clocks of different
hosts are unrelated, and a read version set to a committed version names whatever server version
has that number.
-/

namespace CustomKv

namespace CustomTransaction

variable {t : CustomTransaction} {w : World}

/-- A `commit` that reports success on a transaction that was not finished stored the clock it
read after the server's reply, in any environment. -/
theorem committedVersion_of_commit_ok (hf : t.finished = false)
    (h : (commit (t, w)).1 = .ret (.ok ())) : (commit (t, w)).2.1.committedVersion = w.clock := by
  simp only [finished, Bool.or_eq_false_iff] at hf
  obtain ⟨⟨hc, hr⟩, hcm⟩ := hf
  have hw := ensureTransaction_world { t with committed := true } w
  rw [commit_of_ready hc hr hcm] at h ⊢
  rcases he : ensureTransaction ({ t with committed := true }, w) with
    ⟨(_ | ⟨⟩) | _, t₁, w₁⟩ <;> rw [he] at hw h
  · cases h
  · dsimp only at h ⊢
    by_cases hp : w₁.env.poll w₁.issued = -1
    · simp only [hp, ↓reduceIte, reduceCtorEq] at h
    by_cases hs :
        (kvFutureGetVoidResult (w₁.call (.transactionCommit t₁.transactionHandle)).1).success
    · simp only [hp, hs, ↓reduceIte]
      rcases hw with rfl | rfl <;> rfl
    · simp only [hp, hs, ↓reduceIte, makeError, Outcome.ret.injEq, reduceCtorEq] at h
  · cases h

end CustomTransaction

namespace System

variable {s : System} {i : Nat}

/-- A successful commit of a transaction that was not finished stores the clock of its
host. -/
theorem committedVersion_step_commit (hf : (s.rw i).finished = false)
    (ho : (s.step (.rw i .commit)).lastOutcome = some (.ret (.unit (.ok ())))) :
    ((s.step (.rw i .commit)).rw i).committedVersion = s.clocks (s.host i) := by
  have hc : (CustomTransaction.commit (s.rw i, s.rwWorld i)).1 = .ret (.ok ()) := by
    rw [lastOutcome_step_rw, RwCall.run, Co.map_apply_fst] at ho
    cases h : (CustomTransaction.commit (s.rw i, s.rwWorld i)).1 <;> simp_all
  simp only [step_rw, Function.update_same, RwCall.run, Co.map_apply_snd]
  exact CustomTransaction.committedVersion_of_commit_ok hf hc

end System

/-- Transaction `0` runs on host `0`, whose clock reads `100`, and sets `[1]`; transaction `1`
runs on host `1`, whose clock reads `1`, and sets `[2]`. Each commits in turn. -/
def twoHosts : System :=
  (System.init .healthy id fun h => if h = 0 then 100 else 1).run
    [.rw 0 (.set [1] [1]), .rw 0 .commit, .rw 1 (.set [2] [2]), .rw 1 .commit]

/-- Both commits succeed, the first before the second is issued, and the first has the larger
committed version: each stored its host's clock. A read-only transaction pinned at the second
committed version does not see the second transaction's write, which the store holds. -/
theorem committedVersion_not_ordered_across_hosts :
    twoHosts.trace.map (·.outcome) = List.replicate 4 (some (.ret (.unit (.ok ())))) ∧
      ¬ (twoHosts.rw 0).committedVersion < (twoHosts.rw 1).committedVersion ∧
      (twoHosts.world.server.snapshot twoHosts.world.server.latest).get [2] = some [2] ∧
      (twoHosts.run [.ro 0 (.setReadVersion (twoHosts.rw 1).committedVersion),
        .ro 0 (.snapshotGet [2])]).lastOutcome = some (.ret (.value (.ok none))) := by
  have h₀ := System.committedVersion_step_commit (i := 0)
    (s := (System.init .healthy id fun h => if h = 0 then 100 else 1).run [.rw 0 (.set [1] [1])])
    (by decide) (by decide)
  have h₁ := System.committedVersion_step_commit (i := 1)
    (s := (System.init .healthy id fun h => if h = 0 then 100 else 1).run
      [.rw 0 (.set [1] [1]), .rw 0 .commit, .rw 1 (.set [2] [2])]) (by decide) (by decide)
  have hframe : ∀ (s : System) (c : RwCall), (s.step (.rw 1 c)).rw 0 = s.rw 0 :=
    fun s c => by simp only [System.step_rw, Function.update_noteq (show (0 : Nat) ≠ 1 by decide)]
  simp only [System.run_cons, System.run_nil] at h₀ h₁
  refine ⟨by decide, ?_, by decide, by decide⟩
  simp only [twoHosts, System.run_cons, System.run_nil]
  rw [hframe, hframe, h₀, h₁]
  decide

/-! ## Only a successful commit sets the committed version -/

/-- A program that leaves `g` of the transaction object as it was, in any environment. -/
structure Co.Keeps {σ α β : Type} (g : σ → β) (x : Co (σ × World) α) : Prop where
  keeps : ∀ s, g (x s).2.1 = g s.1

namespace Co.Keeps

variable {σ α β γ : Type} {g : σ → β} {x : Co (σ × World) α}

theorem pure (a : α) : (Pure.pure a : Co (σ × World) α).Keeps g := ⟨fun _ => rfl⟩

theorem bind {f : α → Co (σ × World) γ} (hx : x.Keeps g) (hf : ∀ a, (f a).Keeps g) :
    (x >>= f).Keeps g := ⟨fun s => by
  have h := hx.keeps s
  rw [Co.bind_apply]
  rcases hxs : x s with ⟨⟨a⟩ | ⟨e⟩, s'⟩ <;> simp only [hxs] at h ⊢
  exacts [((hf a).keeps s').trans h, h]⟩

theorem map (f : α → γ) (hx : x.Keeps g) : (f <$> x).Keeps g := hx.bind fun _ => pure _

theorem ite {c : Prop} [Decidable c] {y : Co (σ × World) α} (hx : x.Keeps g) (hy : y.Keeps g) :
    (if c then x else y).Keeps g := by
  split <;> assumption

theorem tryCatch {h : String → Co (σ × World) α} (hx : x.Keeps g) (hh : ∀ e, (h e).Keeps g) :
    (tryCatch x h).Keeps g := ⟨fun s => by
  have hs := hx.keeps s
  rw [Co.tryCatch_apply]
  rcases hxs : x s with ⟨⟨a⟩ | ⟨e⟩, s'⟩ <;> simp only [hxs] at hs ⊢
  exacts [hs, ((hh e).keeps s').trans hs]⟩

theorem self : (Co.self : Co (σ × World) σ).Keeps g := ⟨fun _ => rfl⟩

theorem modifySelf {f : σ → σ} (hf : ∀ t, g (f t) = g t) :
    (Co.modifySelf f : Co (σ × World) Unit).Keeps g := ⟨fun s => hf s.1⟩

theorem call (r : Request) : (call r : Co (σ × World) KvFuture).Keeps g := ⟨fun _ => rfl⟩

theorem callSync (r : Request) : (callSync r : Co (σ × World) (Option KvErrorCode)).Keeps g :=
  ⟨fun _ => rfl⟩

theorem steadyClockNow : (steadyClockNow : Co (σ × World) Int).Keeps g := ⟨fun _ => rfl⟩

theorem kvPairArrayFree (a : KvPairArray) :
    (kvPairArrayFree a : Co (σ × World) KvPairArray).Keeps g := ⟨fun _ => rfl⟩

theorem waitForFuture (f : KvFuture) : (waitForFuture f : Co (σ × World) Unit).Keeps g := ⟨by
  intro s
  rw [waitForFuture_apply]
  split_ifs <;> rfl⟩

/-- The prologue that opens the server transaction changes only its handle. -/
theorem ensureTransaction {g : CustomTransaction → β}
    (hh : ∀ t h, g { t with transactionHandle := h } = g t) :
    CustomTransaction.ensureTransaction.Keeps g := by
  dsimp only [CustomTransaction.ensureTransaction]
  exact .bind .self fun _ => .ite (.pure _) <| .ite (.pure _) <| .bind (.pure _) fun _ =>
    .bind (.call _) fun _ => .bind (.waitForFuture _) fun _ =>
      .bind (.modifySelf fun t => hh t _) fun _ => .ite (.pure _) (.pure _)

/-- The guard and prologue of every call that needs the server transaction keep what the
prologue keeps. -/
theorem withTransaction {g : CustomTransaction → β} {body : CustomTransaction.CoTask (Result α)}
    (he : CustomTransaction.ensureTransaction.Keeps g) (hb : body.Keeps g) :
    (CustomTransaction.withTransaction body).Keeps g := by
  dsimp only [CustomTransaction.withTransaction]
  exact .bind .self fun _ => .ite (.pure _) <| .bind (.pure _) fun _ =>
    .bind he fun
      | .error _ => .pure _
      | .ok () => hb

end Co.Keeps

/-- A call keeps a field of the transaction object when every change it makes to the object
keeps it: opening the server transaction, pinning the read version and `cancel` for every call,
and what `commit` and `reset` change for those two. -/
theorem RwCall.keeps {β : Type} {g : CustomTransaction → β} (c : RwCall)
    (hh : ∀ t h, g { t with transactionHandle := h } = g t)
    (hv : ∀ t v, g { t with readVersion := some v } = g t)
    (hx : ∀ t, g { t with cancelled := true } = g t)
    (hcommit : c = .commit → (∀ t, g { t with committed := true } = g t) ∧
      ∀ t v, g { t with committedVersion := v } = g t)
    (hreset : c = .reset → CustomTransaction.reset.Keeps g) : c.run.Keeps g := by
  cases c
  case reset => exact .map _ (hreset rfl)
  all_goals dsimp only [RwCall.run, CustomTransaction.commit, CustomTransaction.setReadVersion,
    CustomTransaction.snapshotGet, CustomTransaction.get, CustomTransaction.snapshotGetRange,
    CustomTransaction.getRange, CustomTransaction.cancel, CustomTransaction.addReadConflict,
    CustomTransaction.addReadConflictRange, CustomTransaction.set, CustomTransaction.clear,
    CustomTransaction.mutate, CustomTransaction.setVersionstampedKey,
    CustomTransaction.setVersionstampedValue]
  all_goals repeat' first
    | with_reducible refine .bind ?_ fun _ => ?_
    | intro _
    | with_reducible apply Co.Keeps.ite
    | with_reducible exact .pure _
    | with_reducible exact .self
    | with_reducible refine .withTransaction (.ensureTransaction hh) ?_
    | with_reducible exact .modifySelf fun t => hv t _
    | with_reducible exact .modifySelf hx
    | with_reducible exact .modifySelf fun t => hh t _
    | with_reducible exact .ensureTransaction hh
    | with_reducible exact .modifySelf (hcommit rfl).1
    | with_reducible exact .modifySelf fun t => (hcommit rfl).2 t _
    | with_reducible exact .call _
    | with_reducible exact .waitForFuture _
    | with_reducible apply Co.Keeps.map
    | with_reducible apply Co.Keeps.tryCatch
    | with_reducible exact .callSync _
    | with_reducible exact .steadyClockNow
    | with_reducible exact .kvPairArrayFree _
    | split
    | exact ⟨fun _ => rfl⟩

/-- No call but `commit` and `reset` touches the committed version. -/
theorem RwCall.keeps_committedVersion {c : RwCall} (hc : c ≠ .commit) (hr : c ≠ .reset) :
    c.run.Keeps CustomTransaction.committedVersion :=
  c.keeps (fun _ _ => rfl) (fun _ _ => rfl) (fun _ => rfl) (absurd · hc) (absurd · hr)

/-- No call changes whether the transaction holds a client: `client_handle_` is set by the
constructor only. -/
theorem RwCall.keeps_clientHandle (c : RwCall) : c.run.Keeps CustomTransaction.clientHandle :=
  c.keeps (fun _ _ => rfl) (fun _ _ => rfl) (fun _ => rfl) (fun _ => ⟨fun _ => rfl, fun _ _ => rfl⟩)
    fun _ => .modifySelf fun _ => rfl

namespace CustomTransaction

variable {t : CustomTransaction} {w : World}

/-- A `commit` that does not report success leaves the committed version, in any
environment. -/
theorem committedVersion_of_commit_not_ok (h : (commit (t, w)).1 ≠ .ret (.ok ())) :
    (commit (t, w)).2.1.committedVersion = t.committedVersion := by
  by_cases hcr : t.cancelled = true ∨ t.isReset = true
  · rw [commit_of_cancelled_or_reset hcr]
  simp only [not_or, Bool.not_eq_true] at hcr
  cases hcm : t.committed with
  | true => rw [commit_of_committed hcr.1 hcr.2 hcm]
  | false =>
    obtain ⟨_, hs⟩ := ensureTransaction_self { t with committed := true } w
    rw [commit_of_ready hcr.1 hcr.2 hcm] at h ⊢
    rcases he : ensureTransaction ({ t with committed := true }, w) with
      ⟨(_ | ⟨⟩) | _, t₁, w₁⟩ <;> rw [he] at hs h <;> subst hs
    · rfl
    · dsimp only at h ⊢
      split_ifs at h ⊢
      · rfl
      · exact absurd rfl h
      · rfl
    · rfl

end CustomTransaction

/-- What a call does to the committed version: it keeps it, sets it to `-1` (`reset`), or it is
a `commit` that reports success. -/
theorem RwCall.committedVersion_run (c : RwCall) (t : CustomTransaction) (w : World) :
    (c.run (t, w)).2.1.committedVersion = t.committedVersion ∨
      (c.run (t, w)).2.1.committedVersion = -1 ∨
      c = .commit ∧ (c.run (t, w)).1 = .ret (.unit (.ok ())) := by
  by_cases hc : c = .commit
  · subst hc
    by_cases ho : (CustomTransaction.commit (t, w)).1 = .ret (.ok ())
    · exact .inr (.inr ⟨rfl, by simp only [RwCall.run, Co.map_apply_fst, ho, Outcome.map_ret]⟩)
    · exact .inl (by simpa only [RwCall.run, Co.map_apply_snd] using
        CustomTransaction.committedVersion_of_commit_not_ok ho)
  by_cases hr : c = .reset
  · subst hr
    exact .inr (.inl rfl)
  exact .inl ((RwCall.keeps_committedVersion hc hr).keeps (t, w))

namespace System

variable {s : System}

/-- No step changes whether a read-write transaction holds a client. -/
theorem step_rw_clientHandle (s : System) (a : Action) (i : Nat) :
    ((s.step a).rw i).clientHandle = (s.rw i).clientHandle := by
  cases a with
  | rw j c =>
    by_cases hij : i = j
    · subst hij
      simpa only [step_rw, Function.update_same] using c.keeps_clientHandle.keeps _
    · simp only [step_rw, Function.update_noteq hij]
  | ro | tick => rfl

theorem run_rw_clientHandle (s : System) (as : List Action) (i : Nat) :
    ((s.run as).rw i).clientHandle = (s.rw i).clientHandle := by
  induction as generalizing s with
  | nil => rfl
  | cons a as ih => rw [run_cons, ih, step_rw_clientHandle]

/-- Transaction `i` has a `commit` in the trace that reported success. -/
def CommitOk (s : System) (i : Nat) : Prop :=
  ∃ e ∈ s.trace, e.action = .rw i .commit ∧ e.outcome = some (.ret (.unit (.ok ())))

theorem CommitOk.step {i : Nat} (h : s.CommitOk i) (a : Action) : (s.step a).CommitOk i := by
  obtain ⟨e, he, h₁, h₂⟩ := h
  exact ⟨e, by cases a <;> simp [he], h₁, h₂⟩

/-- Every committed version other than `-1` comes from a commit that reported success. -/
def VersionsFromCommits (s : System) : Prop :=
  ∀ i, (s.rw i).committedVersion ≠ -1 → s.CommitOk i

theorem VersionsFromCommits.step (h : s.VersionsFromCommits) :
    ∀ a, (s.step a).VersionsFromCommits
  | .rw j c, i, hi => by
    by_cases hij : i = j
    · subst hij
      simp only [step_rw, Function.update_same] at hi
      rcases RwCall.committedVersion_run c (s.rw i) (s.rwWorld i) with h₁ | h₁ | ⟨rfl, h₁⟩
      · exact (h i (h₁ ▸ hi)).step _
      · exact absurd h₁ hi
      · exact ⟨⟨.rw i .commit, some (RwCall.commit.run (s.rw i, s.rwWorld i)).1⟩,
          List.mem_append_right _ (List.mem_singleton_self _), rfl, congrArg some h₁⟩
    · simp only [step_rw, Function.update_noteq hij] at hi
      exact (h i hi).step _
  | .ro _ _, i, hi => (h i hi).step _
  | .tick _ _, i, hi => (h i hi).step _

theorem VersionsFromCommits.run (h : s.VersionsFromCommits) (as : List Action) :
    (s.run as).VersionsFromCommits := by
  induction as generalizing s with
  | nil => exact h
  | cons a as ih => exact ih (h.step a)

end System

/-- **Only a successful commit sets the committed version.** On every run from engines that are
up, in any environment, `getCommittedVersion` of a read-write transaction answers something other
than `-1` only if a `commit` of that transaction has reported success. -/
theorem committedVersion_only_after_successful_commit (env : Env) (host : Nat → Nat)
    (clocks : Nat → Int) (as : List Action) (i : Nat)
    (h : (((System.init env host clocks).run as).step (.rw i .getCommittedVersion)).lastOutcome ≠
      some (.ret (.version (-1)))) :
    ∃ e ∈ ((System.init env host clocks).run as).trace,
      e.action = .rw i .commit ∧ e.outcome = some (.ret (.unit (.ok ()))) :=
  (System.VersionsFromCommits.run (fun _ h => absurd rfl h) as) i fun hv => h (by
    rw [System.lastOutcome_step_rw]
    simp only [RwCall.run, CustomTransaction.getCommittedVersion, hv])

/-- Transaction `0` sets `[1]` and commits at clock `5`. -/
theorem setThenCommit_version :
    (((System.init .healthy (fun _ => 0) (fun _ => 5)).run
        [.rw 0 (.set [1] [2]), .rw 0 .commit]).step (.rw 0 .getCommittedVersion)).lastOutcome ≠
      some (.ret (.version (-1))) ∧
      ∃ e ∈ ((System.init .healthy (fun _ => 0) (fun _ => 5)).run
          [.rw 0 (.set [1] [2]), .rw 0 .commit]).trace,
        e.action = .rw 0 .commit ∧ e.outcome = some (.ret (.unit (.ok ()))) :=
  have h : (((System.init .healthy (fun _ => 0) (fun _ => 5)).run
      [.rw 0 (.set [1] [2]), .rw 0 .commit]).step (.rw 0 .getCommittedVersion)).lastOutcome ≠
      some (.ret (.version (-1))) := by decide
  ⟨h, committedVersion_only_after_successful_commit _ _ _ _ 0 h⟩

end CustomKv
