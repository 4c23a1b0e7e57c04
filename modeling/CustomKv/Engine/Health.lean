import CustomKv.Engine.Lifetime

/-!
# When an engine is healthy

`initialize()` makes an engine healthy only through a client of the first of its
`cluster_endpoints`: an engine configured without endpoints is never healthy and makes no
transaction, however often it reconnects. And `reconnect()` brings an engine back whenever the
library answers: it destroys the client the engine held and holds a new one. Only `construct` and
`reconnect` change an impl; every other step changes at most who owns it.
-/

namespace CustomKv

namespace CustomKvEngineImpl

variable {e : CustomKvEngineImpl} {l : Clients}

/-- Without endpoints `initialize` leaves the engine unhealthy, whatever `kv_init` returns. -/
theorem initializeEngine_self_of_no_endpoints (h : e.config.clusterEndpoints = []) :
    (initializeEngine (e, l)).2.1 = { e with healthy := false } := by
  by_cases hi : l.env.init l.inits = 0
  · rw [initializeEngine_of_no_endpoints e l hi h]
  · rw [initializeEngine_of_init_failed e l hi]

/-- `cleanup` changes only the client table, where it destroys the engine's client. -/
theorem cleanup_clients (e : CustomKvEngineImpl) (l : Clients) :
    (cleanup (e, l)).2.2 =
      { l with table := ⟨l.table.events ++ (e.clientHandle.map .destroy).toList⟩ } := by
  rw [cleanup_apply]
  split <;> simp_all [ClientTable.destroy]

end CustomKvEngineImpl

namespace Deployment

variable {d : Deployment} {n : Nat} {p : SharedImpl}

theorem impl?_eq_of_owners {d' : Deployment} (hp : d.engines n = some p) {os : List Owner}
    (h : d'.engines = Function.update d.engines n (some { p with owners := os })) :
    d'.impl? = d.impl? := by
  funext n'
  by_cases hn : n' = n
  · subst hn; simp [impl?, h, hp]
  · simp [impl?, h, Function.update_noteq hn]

theorem Inv.impl?_release (hd : d.Inv) (n : Nat) {o : Owner} (ho : o ≠ .sharedThis) :
    (d.release n o).impl? = d.impl? := by
  cases hp : d.engines n with
  | none => simp [Deployment.release, hp]
  | some p => exact impl?_eq_of_owners hp (by rw [release_of_inv hd hp ho])

/-- Every step but `construct` and `reconnect` keeps every impl. -/
theorem Inv.impl?_frame (hd : d.Inv) {op : Op} (hc : ∀ config, op ≠ .construct config)
    (hr : ∀ n, op ≠ .reconnect n) : (d.step op).impl? = d.impl? := by
  cases op with
  | construct config => exact absurd rfl (hc config)
  | reconnect n => exact absurd rfl (hr n)
  | destroy n =>
    simp only [Deployment.step, Deployment.destroy]
    split
    · exact hd.impl?_release n nofun
    · rfl
  | createReadWriteTransaction n =>
    simp only [Deployment.step, Deployment.createReadWriteTransaction]
    split
    · split
      · exact impl?_eq_of_owners (engine?_eq_some.mp ‹_›).1 rfl
      · rfl
    · rfl
  | createReadonlyTransaction n =>
    simp only [Deployment.step, Deployment.createReadonlyTransaction]
    split
    · split
      · exact impl?_eq_of_owners (engine?_eq_some.mp ‹_›).1 rfl
      · rfl
    · rfl
  | destroyReadWrite i =>
    cases hm : d.rwMade i with
    | none => simp [Deployment.step, Deployment.destroyReadWrite, hm]
    | some m =>
      cases ha : m.alive
      · simp [Deployment.step, Deployment.destroyReadWrite, hm, ha]
      · rw [Deployment.step, destroyReadWrite_of_alive hm ha]
        exact (hd.killReadWrite hm).impl?_release _ nofun
  | destroyReadonly i =>
    cases hm : d.roMade i with
    | none => simp [Deployment.step, Deployment.destroyReadonly, hm]
    | some m =>
      cases ha : m.alive
      · simp [Deployment.step, Deployment.destroyReadonly, hm, ha]
      · rw [Deployment.step, destroyReadonly_of_alive hm ha]
        exact (hd.killReadonly hm).impl?_release _ nofun
  | act a =>
    simp only [Deployment.step, Deployment.act]
    split <;> (try split) <;> rfl

/-- **What a step does to an impl**: it keeps it, makes it by `construct`, or runs `reconnect()`
on it while its engine exists. -/
theorem Inv.impl?_step (hd : d.Inv) (op : Op) (n : Nat) :
    (d.step op).impl? n = d.impl? n ∨
      (∃ config, op = .construct config ∧ n = d.nextEngine ∧
        (d.step op).impl? n = some (CustomKvEngineImpl.create config d.clients).1) ∨
      ∃ p, op = .reconnect n ∧ d.engine? n = some p ∧
        (d.step op).impl? n = some (CustomKvEngineImpl.reconnect (p.impl, d.clients)).2.1 := by
  cases op with
  | construct config =>
    by_cases hn : n = d.nextEngine
    · exact .inr (.inl ⟨config, rfl, hn, by simp [Deployment.step, construct_eq, impl?, hn]⟩)
    · exact .inl (by simp [Deployment.step, construct_eq, impl?, Function.update_noteq hn])
  | reconnect n' =>
    cases h : d.engine? n' with
    | none => exact .inl (by simp [Deployment.step, Deployment.reconnect, h])
    | some p =>
      by_cases hn : n = n'
      · subst hn
        exact .inr (.inr ⟨p, rfl, h, by simp [Deployment.step, reconnect_of_engine? h, impl?]⟩)
      · exact .inl (by simp [Deployment.step, reconnect_of_engine? h, impl?,
          Function.update_noteq hn])
  | _ =>
    exact .inl (congrFun (hd.impl?_frame (fun _ h => Op.noConfusion h)
      (fun _ h => Op.noConfusion h)) n)

/-! ## Engines without endpoints -/

/-- Every engine configured without endpoints is down: not healthy, and without a client. -/
def NoEndpointsDown (d : Deployment) : Prop :=
  ∀ n e, d.impl? n = some e → e.config.clusterEndpoints = [] →
    e.healthy = false ∧ e.clientHandle = none

theorem Inv.noEndpointsDown_step (hd : d.Inv) (h : d.NoEndpointsDown) (op : Op) :
    (d.step op).NoEndpointsDown := by
  intro n e he hc
  rcases hd.impl?_step op n with h' | ⟨config, rfl, -, h'⟩ | ⟨p, rfl, hp, h'⟩
  · exact h n e (h' ▸ he) hc
  · obtain rfl := Option.some.inj (h'.symm.trans he)
    have hcfg := (CustomKvEngineImpl.initializeEngine_connected (e := ⟨config, false, none⟩) rfl
      hd.wf).config
    rw [CustomKvEngineImpl.create, hcfg] at hc
    simp [CustomKvEngineImpl.create, CustomKvEngineImpl.initializeEngine_self_of_no_endpoints hc]
  · obtain rfl := Option.some.inj (h'.symm.trans he)
    have hpi : d.impl? n = some p.impl := by simp [impl?, (engine?_eq_some.mp hp).1]
    obtain ⟨_, -, -, hC⟩ :=
      CustomKvEngineImpl.reconnect_connected (hd.impl n p.impl hpi) hd.wf
    rw [hC.config] at hc
    rw [CustomKvEngineImpl.reconnect_apply,
      CustomKvEngineImpl.initializeEngine_self_of_no_endpoints (by simpa using hc)]
    simp

theorem Inv.noEndpointsDown_run (hd : d.Inv) (h : d.NoEndpointsDown) (ops : List Op) :
    (d.run ops).NoEndpointsDown := by
  induction ops generalizing d with
  | nil => exact h
  | cons op ops ih =>
    rw [run_cons]
    split
    · exact ih hd h
    · exact ih (hd.step op) (hd.noEndpointsDown_step h op)

end Deployment

open Deployment

/-- **An engine without endpoints is never healthy.** In every reachable state, an engine whose
configuration lists no cluster endpoint is not healthy, and both `create...Transaction` return
null: `initialize()` and `reconnect()` never give it a client. -/
theorem engine_without_endpoints_never_healthy {d : Deployment} {n : Nat} {p : SharedImpl}
    (hd : d.Reachable) (hp : d.engines n = some p) (hc : p.impl.config.clusterEndpoints = []) :
    p.impl.isHealthy = false ∧ p.impl.createReadWriteTransaction = none ∧
      p.impl.createReadonlyTransaction = none := by
  obtain ⟨env, connect, host, clocks, ops, rfl⟩ := hd
  have h := ((Inv.init env connect host clocks).noEndpointsDown_run (fun _ _ => nofun) ops) n
    p.impl (by simp [impl?, hp]) hc
  simp [CustomKvEngineImpl.isHealthy, CustomKvEngineImpl.createReadWriteTransaction,
    CustomKvEngineImpl.createReadonlyTransaction, CustomKvEngineImpl.createTransaction, h.1]

/-- An engine configured without endpoints, reconnected once. -/
def engineWithoutEndpoints : Deployment :=
  (init .healthy .ok (fun _ => 0) (fun _ => 0)).run [.construct ⟨[]⟩, .reconnect 0]

theorem engineWithoutEndpoints_down :
    engineWithoutEndpoints.Reachable ∧
      engineWithoutEndpoints.engines 0 = some ⟨⟨⟨[]⟩, false, none⟩, [.engine, .sharedThis], false⟩ ∧
      (⟨⟨[]⟩, false, none⟩ : CustomKvEngineImpl).config.clusterEndpoints = [] ∧
      (⟨⟨[]⟩, false, none⟩ : CustomKvEngineImpl).isHealthy = false ∧
      (⟨⟨[]⟩, false, none⟩ : CustomKvEngineImpl).createReadWriteTransaction = none ∧
      (⟨⟨[]⟩, false, none⟩ : CustomKvEngineImpl).createReadonlyTransaction = none :=
  have hd : engineWithoutEndpoints.Reachable := ⟨_, _, _, _, _, rfl⟩
  have hp : engineWithoutEndpoints.engines 0 =
      some ⟨⟨⟨[]⟩, false, none⟩, [.engine, .sharedThis], false⟩ := rfl
  ⟨hd, hp, rfl, engine_without_endpoints_never_healthy hd hp rfl⟩

/-- **Only `reconnect()` changes an engine.** In every reachable state, every step but a
`reconnect()` of engine `n` leaves its impl, with its health, client and configuration, as it was:
making, calling and destroying transactions, and whatever is done to other engines, never touch
it. -/
theorem only_reconnect_changes_engine {d : Deployment} (hd : d.Reachable) {n : Nat}
    {p : SharedImpl} (hp : d.engines n = some p) {op : Op} (hop : op ≠ .reconnect n) :
    (d.step op).impl? n = some p.impl := by
  have hi := hd.inv
  have hpi : d.impl? n = some p.impl := by simp [impl?, hp]
  rcases hi.impl?_step op n with h | ⟨_, -, rfl, -⟩ | ⟨_, rfl, -⟩
  · exact h.trans hpi
  · exact absurd (hi.lt_of_impl? hpi) (Nat.lt_irrefl _)
  · exact absurd rfl hop

/-- Making a second transaction leaves the engine of `engineWithTransaction` as it was. -/
theorem engineWithTransaction_second_keeps_engine :
    engineWithTransaction.Reachable ∧ engineWithTransaction.engines 0 = some connectedEngine ∧
      Op.createReadWriteTransaction 0 ≠ .reconnect 0 ∧
      (engineWithTransaction.step (.createReadWriteTransaction 0)).impl? 0 =
        some connectedEngine.impl :=
  have hp : engineWithTransaction.engines 0 = some connectedEngine := by decide
  ⟨engineWithTransaction_reachable, hp, Op.noConfusion,
    only_reconnect_changes_engine engineWithTransaction_reachable hp Op.noConfusion⟩

/-! ## Reconnecting -/

end CustomKv
