import Mathlib.Algebra.Order.BigOperators.Group.List
import Mathlib.Algebra.Order.Ring.Nat
import CustomKv.Engine.Invariant
import CustomKv.Exceptions
import CustomKv.Clock

/-!
# Clients over the life of engines

What a maintainer of `CustomKvEngine.cc` needs to know about clients and impls, over every run of
engines and transactions, whatever the client library returns. `isHealthy()` and
`getClientHandle()` agree; no two engines share a client; a client is destroyed at most once and
only after it was made. Transactions made by engines run as in `System`. Two lifetimes are wrong:
`reconnect()` destroys the client that the engine's earlier transactions still keep, and they go
on calling the library through it; and the impl owns a `shared_ptr` to itself, so it is never
destroyed and the client of a destroyed engine is never released.
-/

namespace CustomKv

namespace Deployment

variable {d : Deployment} {n : Nat} {p : SharedImpl}

/-- An engine whose `CustomKvEngine` is gone keeps its impl through every step: nothing calls
it any more, and the shared pointers that remain do not destroy it. -/
theorem Inv.gone_step (hd : d.Inv) (hp : d.engines n = some p) (hn : Owner.engine ∉ p.owners)
    (op : Op) :
    ∃ q, (d.step op).engines n = some q ∧ Owner.engine ∉ q.owners ∧ q.impl = p.impl := by
  have hgone : d.engine? n = none := by simp [engine?, hp, hn]
  have hne : ∀ {n'} {p' : SharedImpl}, d.engine? n' = some p' → n ≠ n' := fun h e => by
    simp [e ▸ hgone] at h
  have hrel : ∀ {d' : Deployment} (hd' : d'.Inv) (he : d'.engines n = some p) n' o,
      o ≠ .sharedThis →
      ∃ q, (d'.release n' o).engines n = some q ∧ Owner.engine ∉ q.owners ∧ q.impl = p.impl := by
    intro d' hd' he n' o ho
    cases hp' : d'.engines n' with
    | none => exact ⟨p, by simpa [Deployment.release, hp'] using he, hn, rfl⟩
    | some p' =>
      rw [release_of_inv hd' hp' ho]
      by_cases h : n = n'
      · subst h
        obtain rfl := Option.some.inj (he.symm.trans hp')
        exact ⟨_, Function.update_same _ _ _, fun h => hn (List.mem_of_mem_erase h), rfl⟩
      · exact ⟨p, by simpa [Function.update_noteq h] using he, hn, rfl⟩
  cases op with
  | construct config =>
    have : n ≠ d.nextEngine := Nat.ne_of_lt (hd.lt_of_impl? (e := p.impl) (by simp [impl?, hp]))
    exact ⟨p, by simpa [Deployment.step, construct_eq, Function.update_noteq this] using hp, hn,
      rfl⟩
  | reconnect n' =>
    cases h : d.engine? n' with
    | none => exact ⟨p, by simpa [Deployment.step, Deployment.reconnect, h] using hp, hn, rfl⟩
    | some p' =>
      exact ⟨p, by simpa [Deployment.step, reconnect_of_engine? h, Function.update_noteq (hne h)]
        using hp, hn, rfl⟩
  | destroy n' =>
    cases h : d.engine? n' with
    | none => exact ⟨p, by simpa [Deployment.step, Deployment.destroy, h] using hp, hn, rfl⟩
    | some p' =>
      simp only [Deployment.step, Deployment.destroy, h]
      exact hrel hd hp n' .engine nofun
  | createReadWriteTransaction n' =>
    cases h : d.engine? n' with
    | none =>
      exact ⟨p, by simpa [Deployment.step, Deployment.createReadWriteTransaction, h] using hp, hn,
        rfl⟩
    | some p' =>
      refine ⟨p, ?_, hn, rfl⟩
      simp only [Deployment.step, Deployment.createReadWriteTransaction, h]
      split <;> simp [Function.update_noteq (hne h), hp]
  | createReadonlyTransaction n' =>
    cases h : d.engine? n' with
    | none =>
      exact ⟨p, by simpa [Deployment.step, Deployment.createReadonlyTransaction, h] using hp, hn,
        rfl⟩
    | some p' =>
      refine ⟨p, ?_, hn, rfl⟩
      simp only [Deployment.step, Deployment.createReadonlyTransaction, h]
      split <;> simp [Function.update_noteq (hne h), hp]
  | destroyReadWrite i =>
    cases hm : d.rwMade i with
    | none =>
      exact ⟨p, by simpa [Deployment.step, Deployment.destroyReadWrite, hm] using hp, hn, rfl⟩
    | some m =>
      cases ha : m.alive
      · exact ⟨p, by simpa [Deployment.step, Deployment.destroyReadWrite, hm, ha] using hp, hn, rfl⟩
      · simp only [Deployment.step, destroyReadWrite_of_alive hm ha]
        exact hrel (hd.killReadWrite hm) hp m.engine _ nofun
  | destroyReadonly i =>
    cases hm : d.roMade i with
    | none =>
      exact ⟨p, by simpa [Deployment.step, Deployment.destroyReadonly, hm] using hp, hn, rfl⟩
    | some m =>
      cases ha : m.alive
      · exact ⟨p, by simpa [Deployment.step, Deployment.destroyReadonly, hm, ha] using hp, hn, rfl⟩
      · simp only [Deployment.step, destroyReadonly_of_alive hm ha]
        exact hrel (hd.killReadonly hm) hp m.engine _ nofun
  | act a =>
    refine ⟨p, ?_, hn, rfl⟩
    simp only [Deployment.step, Deployment.act]
    split <;> (try split) <;> exact hp

theorem Inv.release_clients (hd : d.Inv) (n : Nat) {o : Owner} (ho : o ≠ .sharedThis) :
    (d.release n o).clients = d.clients := by
  cases hp : d.engines n with
  | none => simp [Deployment.release, hp]
  | some p => rw [release_of_inv hd hp ho]

/-- Every step but `construct` and `reconnect` leaves the client library as it was: the impl owns
itself, so no release runs `cleanup()`. -/
theorem Inv.clients_frame (hd : d.Inv) {op : Op} (hc : ∀ config, op ≠ .construct config)
    (hr : ∀ n, op ≠ .reconnect n) : (d.step op).clients = d.clients := by
  cases op with
  | construct config => exact absurd rfl (hc config)
  | reconnect n => exact absurd rfl (hr n)
  | destroy n =>
    simp only [Deployment.step, Deployment.destroy]
    split
    · exact hd.release_clients n nofun
    · rfl
  | createReadWriteTransaction n =>
    simp only [Deployment.step, Deployment.createReadWriteTransaction]
    split <;> (try split) <;> rfl
  | createReadonlyTransaction n =>
    simp only [Deployment.step, Deployment.createReadonlyTransaction]
    split <;> (try split) <;> rfl
  | destroyReadWrite i =>
    cases hm : d.rwMade i with
    | none => simp [Deployment.step, Deployment.destroyReadWrite, hm]
    | some m =>
      cases ha : m.alive
      · simp [Deployment.step, Deployment.destroyReadWrite, hm, ha]
      · rw [Deployment.step, destroyReadWrite_of_alive hm ha]
        exact (hd.killReadWrite hm).release_clients _ nofun
  | destroyReadonly i =>
    cases hm : d.roMade i with
    | none => simp [Deployment.step, Deployment.destroyReadonly, hm]
    | some m =>
      cases ha : m.alive
      · simp [Deployment.step, Deployment.destroyReadonly, hm, ha]
      · rw [Deployment.step, destroyReadonly_of_alive hm ha]
        exact (hd.killReadonly hm).release_clients _ nofun
  | act a =>
    simp only [Deployment.step, Deployment.act]
    split <;> (try split) <;> rfl

/-- **What a step adds to the client history**: events at an address no live client had, or at
the client of an engine it reconnects. -/
theorem Inv.events_step (hd : d.Inv) (op : Op) :
    ∃ post, (d.step op).clients.table.events = d.clients.table.events ++ post ∧
      ∀ x ∈ post, ¬ d.clients.table.Live x.address ∨
        ∃ n p, d.engine? n = some p ∧ p.impl.clientHandle = some x.address := by
  cases op with
  | construct config =>
    obtain ⟨post, h, hnew⟩ :=
      (CustomKvEngineImpl.initializeEngine_connected (e := ⟨config, false, none⟩) rfl hd.wf).grows
    exact ⟨post, h, fun x hx => .inl (hnew x hx)⟩
  | reconnect n =>
    cases h : d.engine? n with
    | none => exact ⟨[], by simp [Deployment.step, Deployment.reconnect, h], nofun⟩
    | some p =>
      obtain ⟨hp, -⟩ := engine?_eq_some.mp h
      obtain ⟨t₀, hev, hlive, hC⟩ :=
        CustomKvEngineImpl.reconnect_connected (hd.impl n p.impl (by simp [impl?, hp])) hd.wf
      obtain ⟨post, h', hnew⟩ := hC.grows
      have hev' : (d.step (.reconnect n)).clients.table.events =
          d.clients.table.events ++ ((p.impl.clientHandle.map .destroy).toList ++ post) := by
        rw [Deployment.step, reconnect_of_engine? h, ← List.append_assoc, ← hev]
        exact h'
      refine ⟨_, hev', fun x hx => ?_⟩
      rcases List.mem_append.mp hx with hx | hx
      · obtain ⟨c, hc, rfl⟩ : ∃ c, p.impl.clientHandle = some c ∧ x = .destroy c := by
          cases hc : p.impl.clientHandle <;> simp_all
        exact .inr ⟨n, p, h, hc⟩
      · by_cases hl : d.clients.table.Live x.address
        · exact .inr ⟨n, p, h, Decidable.by_contra fun hne => hnew x hx (hlive _ hl hne)⟩
        · exact .inl hl
  | _ => exact ⟨[], by rw [hd.clients_frame (fun _ h => Op.noConfusion h)
      (fun _ h => Op.noConfusion h), List.append_nil], nofun⟩

variable {c : Nat}

/-- A step adds nothing at the client of an engine whose `CustomKvEngine` is gone: that client is
live, and no engine that still exists holds it. -/
theorem Inv.gone_events_step (hd : d.Inv) (hp : d.engines n = some p)
    (hn : Owner.engine ∉ p.owners) (hc : p.impl.clientHandle = some c) (op : Op) :
    ∃ post, (d.step op).clients.table.events = d.clients.table.events ++ post ∧
      ∀ x ∈ post, x.address ≠ c := by
  obtain ⟨post, h, hpost⟩ := hd.events_step op
  have hpi : d.impl? n = some p.impl := by simp [impl?, hp]
  refine ⟨post, h, fun x hx hxc => ?_⟩
  rcases hpost x hx with hl | ⟨n', p', hp', hc'⟩
  · exact hl (hxc ▸ (hd.impl n p.impl hpi).live c hc)
  · obtain ⟨hp'', ho⟩ := engine?_eq_some.mp hp'
    obtain rfl := hd.distinct n' n p'.impl p.impl c (by simp [impl?, hp'']) hpi (hxc ▸ hc') hc
    exact hn (Option.some.inj (hp''.symm.trans hp) ▸ ho)

/-- Over any run, an engine whose `CustomKvEngine` is gone keeps its impl, and nothing is added to
the client history at its client. -/
theorem Inv.gone_run (hd : d.Inv) (hp : d.engines n = some p) (hn : Owner.engine ∉ p.owners)
    (hc : p.impl.clientHandle = some c) (ops : List Op) :
    ∃ q, (d.run ops).engines n = some q ∧ Owner.engine ∉ q.owners ∧ q.impl = p.impl ∧
      ∃ post, (d.run ops).clients.table.events = d.clients.table.events ++ post ∧
        ∀ x ∈ post, x.address ≠ c := by
  induction ops generalizing d p with
  | nil => exact ⟨p, hp, hn, rfl, [], (List.append_nil _).symm, nofun⟩
  | cons op ops ih =>
    rw [run_cons]
    split
    · exact ih hd hp hn hc
    obtain ⟨q, hq, hqn, hqi⟩ := hd.gone_step hp hn op
    obtain ⟨post, h, hpost⟩ := hd.gone_events_step hp hn hc op
    obtain ⟨r, hr, hrn, hri, post', h', hpost'⟩ := ih (hd.step op) hq hqn (hqi ▸ hc)
    refine ⟨r, hr, hrn, hri.trans hqi, post ++ post', by rw [h', h, List.append_assoc],
      fun x hx => ?_⟩
    rcases List.mem_append.mp hx with hx | hx
    exacts [hpost x hx, hpost' x hx]

/-- `reconnect()` destroys the client that every transaction of the engine copied, unless it was
destroyed already since the transaction was made. -/
theorem Inv.destroyedSince_reconnect (hd : d.Inv) {m : Made} (hk : d.Keeps m)
    (he : (d.engine? m.engine).isSome) :
    ∃ a, m.client = some a ∧ (d.reconnect m.engine).clients.table.DestroyedSince m.since a := by
  obtain ⟨q, hq⟩ := Option.isSome_iff_exists.mp he
  have hqi : d.impl? m.engine = some q.impl := by simp [impl?, (engine?_eq_some.mp hq).1]
  obtain ⟨e, a, he', hma, hs, hk⟩ := hk
  obtain rfl : e = q.impl := Option.some.inj (he'.symm.trans hqi)
  obtain ⟨t₀, hev, -, hC⟩ := CustomKvEngineImpl.reconnect_connected (hd.impl _ _ hqi) hd.wf
  obtain ⟨post, h', -⟩ := hC.grows
  refine ⟨a, hma, ?_⟩
  rw [reconnect_of_engine? hq]
  refine (ClientTable.destroyedSince_append (h'.trans (by rw [hev, List.append_assoc])) hs).mpr ?_
  rcases hk with hk | hk
  · exact .inr (List.mem_append_left _ (by simp [hk]))
  · exact .inl hk

/-- A call on a live transaction whose step passes the library a client pointer, when the
transaction's client has been destroyed since it was made, is undefined. -/
theorem act_undefined {a : Action} {m : Made} (hm : d.madeOf a = some m) (ha : d.allows a = true)
    (hb : ((d.sys.step a).world.calls.drop d.sys.world.calls.length).any Request.passesClient)
    {c : Nat} (hc : m.client = some c) (hdes : d.clients.table.DestroyedSince m.since c) :
    (d.act a).undefined = true := by
  rw [Deployment.act, if_pos ha, if_pos]
  simpa only [usesDestroyedClient, hb, Bool.true_and, hm, Option.any_some, hc,
    decide_eq_true_eq] using hdes

/-- Every read-write transaction of a reachable deployment holds a client. -/
theorem Reachable.rw_clientHandle (hd : d.Reachable) (i : Nat) :
    (d.sys.rw i).clientHandle = true := by
  obtain ⟨env, connect, host, clocks, ops, rfl⟩ := hd
  obtain ⟨as, has⟩ := (Inv.init env connect host clocks).sys_run ops
  rw [has, System.run_rw_clientHandle]
  rfl

end Deployment

open Deployment

/-- A call that needs the server transaction, on a transaction that has not begun and holds a
client, sends `kv_transaction_begin` before anything else, in any environment. -/
theorem RwCall.calls_of_fresh {c : RwCall} (hn : c.needsTxn = true) {t : CustomTransaction}
    {w : World} (hf : t.finished = false) (h0 : t.transactionHandle = 0)
    (hc : t.clientHandle = true) :
    ∃ rs, (c.run (t, w)).2.2.calls = w.calls ++ .transactionBegin 30 :: rs := by
  rcases CustomTransaction.run_of_fresh (w := w) hn hf h0 hc with h | h
  · exact ⟨[], by rw [h, World.call_calls]⟩
  · obtain ⟨rs, hrs⟩ := (run_pollSafe c .cancel).1.calls (_, (w.call (.transactionBegin 30)).2)
    exact ⟨rs, by rw [h, ← hrs, World.call_calls, List.append_assoc, List.singleton_append]⟩

/-- A library whose every call succeeds, and which puts a new client one above the sum of the
live addresses: once no client is live it gives the address of a destroyed one again. -/
def ConnectEnv.ok : ConnectEnv :=
  ⟨fun _ => 0, fun _ _ => true,
    fun _ live => ⟨live.sum + 1, fun h => by have := List.le_sum_of_mem h; omega⟩, fun _ => true⟩

/-- One engine connected to the endpoint of the tests, which has made one read-write
transaction. -/
def engineWithTransaction : Deployment :=
  (init .healthy .ok (fun _ => 0) (fun _ => 0)).run
    [.construct ⟨["localhost:9090"]⟩, .createReadWriteTransaction 0]

theorem engineWithTransaction_reachable : engineWithTransaction.Reachable :=
  ⟨_, _, _, _, _, rfl⟩

/-- The engine of `engineWithTransaction`. -/
def connectedEngine : SharedImpl :=
  ⟨⟨⟨["localhost:9090"]⟩, true, some 1⟩, [.engine, .sharedThis, .readWrite 0], false⟩

/-- **`isHealthy()` and `getClientHandle()` agree.** In every state a run of engines reaches,
whatever the client library returns, an engine is healthy exactly when its client handle is not
null, and that client has been made and not destroyed. -/
theorem healthy_iff_live_client {d : Deployment} (hd : d.Reachable) {n : Nat} {p : SharedImpl}
    (hp : d.engines n = some p) :
    p.impl.isHealthy = p.impl.getClientHandle.isSome ∧
      ∀ c, p.impl.getClientHandle = some c → d.clients.table.Live c :=
  have hi := hd.inv.impl n p.impl (by simp [impl?, hp])
  ⟨hi.healthy_eq, hi.live⟩

theorem connectedEngine_healthy :
    engineWithTransaction.engines 0 = some connectedEngine ∧
      (connectedEngine.impl.isHealthy = connectedEngine.impl.getClientHandle.isSome ∧
        ∀ c, connectedEngine.impl.getClientHandle = some c →
          engineWithTransaction.clients.table.Live c) :=
  ⟨by decide, healthy_iff_live_client engineWithTransaction_reachable (n := 0) (by decide)⟩

/-- **No two engines share a client.** -/
theorem engines_hold_distinct_clients {d : Deployment} (hd : d.Reachable) {n₁ n₂ : Nat}
    {p₁ p₂ : SharedImpl} (h₁ : d.engines n₁ = some p₁) (h₂ : d.engines n₂ = some p₂)
    (hne : n₁ ≠ n₂) {c₁ c₂ : Nat} (hc₁ : p₁.impl.getClientHandle = some c₁)
    (hc₂ : p₂.impl.getClientHandle = some c₂) : c₁ ≠ c₂ := fun h =>
  hne (hd.inv.distinct n₁ n₂ p₁.impl p₂.impl c₁ (by simp [impl?, h₁]) (by simp [impl?, h₂]) hc₁
    (h ▸ hc₂))

/-- Two engines, each connected to an endpoint of its own. -/
def twoEngines : Deployment :=
  (init .healthy .ok (fun _ => 0) (fun _ => 0)).run
    [.construct ⟨["localhost:9090"]⟩, .construct ⟨["localhost:9091"]⟩]

theorem connectedEngine_client_unshared :
    twoEngines.engines 0 =
        some ⟨⟨⟨["localhost:9090"]⟩, true, some 1⟩, [.engine, .sharedThis], false⟩ ∧
      twoEngines.engines 1 =
        some ⟨⟨⟨["localhost:9091"]⟩, true, some 2⟩, [.engine, .sharedThis], false⟩ ∧
      (0 : Nat) ≠ 1 ∧ (1 : Nat) ≠ 2 :=
  have h₀ : twoEngines.engines 0 =
      some ⟨⟨⟨["localhost:9090"]⟩, true, some 1⟩, [.engine, .sharedThis], false⟩ := by decide
  have h₁ : twoEngines.engines 1 =
      some ⟨⟨⟨["localhost:9091"]⟩, true, some 2⟩, [.engine, .sharedThis], false⟩ := by decide
  ⟨h₀, h₁, by decide, engines_hold_distinct_clients ⟨_, _, _, _, _, rfl⟩ h₀ h₁ (by decide) rfl rfl⟩

/-- **A transaction whose client is alive uses its own engine's.** In every reachable state, a
transaction whose copy of `client_handle_` has not been passed to `kv_client_destroy` since it
was made keeps the client its engine holds now; that client is live, and no other engine holds
it. -/
theorem transaction_client_owned_by_its_engine {d : Deployment} (hd : d.Reachable) {i : Nat}
    {m : Made} (hm : d.rwMade i = some m ∨ d.roMade i = some m) {c : Nat}
    (hc : m.client = some c) (hnd : ¬ d.clients.table.DestroyedSince m.since c) :
    ∃ p, d.engines m.engine = some p ∧ p.impl.getClientHandle = some c ∧
      d.clients.table.Live c ∧
      ∀ n q, d.engines n = some q → q.impl.getClientHandle = some c → n = m.engine := by
  have hi := hd.inv
  obtain ⟨e, c', he, hc', -, h⟩ := hm.elim (hi.rwMade i m) (hi.roMade i m)
  obtain rfl := Option.some.inj (hc.symm.trans hc')
  have hec : e.clientHandle = some c := h.resolve_right hnd
  obtain ⟨p, hp, rfl⟩ := Option.map_eq_some'.mp he
  exact ⟨p, hp, hec, (hi.impl _ _ he).live c hec, fun n q hq hqc =>
    hi.distinct n m.engine q.impl p.impl c (by simp [impl?, hq]) he hqc hec⟩

theorem engineWithTransaction_client_owned :
    (engineWithTransaction.rwMade 0 = some ⟨0, some 1, 1, true⟩ ∨
        engineWithTransaction.roMade 0 = some ⟨0, some 1, 1, true⟩) ∧
      (⟨0, some 1, 1, true⟩ : Made).client = some 1 ∧
      ¬ engineWithTransaction.clients.table.DestroyedSince 1 1 ∧
      ∃ p, engineWithTransaction.engines 0 = some p ∧ p.impl.getClientHandle = some 1 ∧
        engineWithTransaction.clients.table.Live 1 ∧
        ∀ n q, engineWithTransaction.engines n = some q → q.impl.getClientHandle = some 1 →
          n = 0 :=
  have hm : engineWithTransaction.rwMade 0 = some ⟨0, some 1, 1, true⟩ := by decide
  have hnd : ¬ engineWithTransaction.clients.table.DestroyedSince 1 1 := by decide
  ⟨.inl hm, rfl, hnd,
    transaction_client_owned_by_its_engine engineWithTransaction_reachable (.inl hm) rfl hnd⟩

/-- **Only live clients are destroyed, and live clients have distinct addresses.** Over every run
of engines, each call of `kv_client_destroy` is passed a client that `kv_client_create` made and
that was not destroyed since, so no client is destroyed twice; the library may reuse the address
afterwards. -/
theorem clients_destroyed_once {d : Deployment} (hd : d.Reachable) :
    d.clients.table.live.Nodup ∧ ∀ pre a post, d.clients.table.events = pre ++ .destroy a :: post →
      (⟨pre⟩ : ClientTable).Live a :=
  ⟨hd.inv.wf.nodup, hd.inv.wf.frees⟩

/-- An engine reconnected twice: the library gives the address of each client it destroys to the
next one. -/
def reconnectedTwice : Deployment :=
  (init .healthy .ok (fun _ => 0) (fun _ => 0)).run
    [.construct ⟨["localhost:9090"]⟩, .createReadWriteTransaction 0, .reconnect 0, .reconnect 0]

theorem reconnectedTwice_destroys_once :
    reconnectedTwice.clients.table.events =
        [.create 1, .destroy 1, .create 1, .destroy 1, .create 1] ∧
      (reconnectedTwice.clients.table.live.Nodup ∧
        ∀ pre a post, reconnectedTwice.clients.table.events = pre ++ .destroy a :: post →
          (⟨pre⟩ : ClientTable).Live a) :=
  ⟨by decide, clients_destroyed_once ⟨_, _, _, _, _, rfl⟩⟩

/-- **Transactions made by engines run as in `System`.** From engines made against a healthy
server, every run of engines, with any library, leaves the transactions and the server in a state
`System` reaches: the transactions an engine makes are those `System.init` starts with, making,
reconnecting and destroying engines and transactions changes neither them nor the server, and a
run stops at the first call through a destroyed client. So every invariant of `System` holds of
transactions made by engines. -/
theorem engine_runs_are_system_runs {env : Env} (he : env.Healthy) (connect : ConnectEnv)
    (host : Nat → Nat) (clocks : Nat → Int) (ops : List Op) :
    ((init env connect host clocks).run ops).sys.Reachable :=
  let ⟨as, has⟩ := (Inv.init env connect host clocks).sys_run ops
  ⟨env, host, clocks, as, he, has⟩

theorem engineWithTransaction_system : Env.healthy.Healthy ∧
    ((init .healthy .ok (fun _ => 0) (fun _ => 0)).run
      [.construct ⟨["localhost:9090"]⟩, .createReadWriteTransaction 0]).sys.Reachable :=
  ⟨Env.healthy_healthy, engine_runs_are_system_runs Env.healthy_healthy _ _ _ _⟩

/-- **`reconnect()` leaves the engine's transactions on a destroyed client.** A read-write
transaction keeps a copy of the `client_handle_` its engine had when it was made. `reconnect()`
destroys that client, but the copy is not null, so, whatever the library and the server do, the
transaction's next call that needs a server transaction passes the null check and sends
`kv_transaction_begin` through the destroyed client: a use after free, even when the library has
put a new client at the same address. -/
theorem reconnect_strands_transactions {d : Deployment} (hd : d.Reachable) {i : Nat} {m : Made}
    (hm : d.rwMade i = some m) (ha : m.alive = true) (he : (d.engine? m.engine).isSome)
    (hf : (d.sys.rw i).finished = false) (h0 : (d.sys.rw i).transactionHandle = 0) {c : RwCall}
    (hn : c.needsTxn = true) :
    ∃ a, m.client = some a ∧ (d.reconnect m.engine).clients.table.DestroyedSince m.since a ∧
      (∃ rs, ((d.reconnect m.engine).sys.step (.rw i c)).world.calls =
        d.sys.world.calls ++ .transactionBegin 30 :: rs) ∧
      ((d.reconnect m.engine).act (.rw i c)).undefined = true := by
  have hi := hd.inv
  obtain ⟨a, hma, hdes⟩ := hi.destroyedSince_reconnect (hi.rwMade i m hm) he
  obtain ⟨q, hq⟩ := Option.isSome_iff_exists.mp he
  have hsys : (d.reconnect m.engine).sys = d.sys := by rw [reconnect_of_engine? hq]
  obtain ⟨rs, hrs⟩ := RwCall.calls_of_fresh (w := d.sys.rwWorld i) hn hf h0 (hd.rw_clientHandle i)
  have hcalls : ((d.reconnect m.engine).sys.step (.rw i c)).world.calls =
      d.sys.world.calls ++ .transactionBegin 30 :: rs := by
    rw [hsys]; exact hrs
  refine ⟨a, hma, hdes, ⟨rs, hcalls⟩, act_undefined (m := m) ?_ ?_ ?_ hma hdes⟩
  · rw [reconnect_of_engine? hq]; exact hm
  · simp [allows, reconnect_of_engine? hq, hm, ha]
  · rw [hcalls, hsys, List.drop_left]; rfl

/-- One engine with a read-write transaction that has not begun, and a library whose every call
succeeds: the engine reconnects, the library puts the new client at the address of the old one,
and the transaction sets a key. -/
theorem engineWithTransaction_stranded :
    engineWithTransaction.rwMade 0 = some ⟨0, some 1, 1, true⟩ ∧
      (engineWithTransaction.engine? 0).isSome ∧
      (engineWithTransaction.sys.rw 0).finished = false ∧
      (engineWithTransaction.sys.rw 0).transactionHandle = 0 ∧
      (engineWithTransaction.reconnect 0).clients.table.Live 1 ∧
      ∃ a, (some 1 : Option Nat) = some a ∧
        (engineWithTransaction.reconnect 0).clients.table.DestroyedSince 1 a ∧
        (∃ rs, ((engineWithTransaction.reconnect 0).sys.step (.rw 0 (.set [1] [2]))).world.calls =
          engineWithTransaction.sys.world.calls ++ .transactionBegin 30 :: rs) ∧
        ((engineWithTransaction.reconnect 0).act (.rw 0 (.set [1] [2]))).undefined = true :=
  have hm : engineWithTransaction.rwMade 0 = some ⟨0, some 1, 1, true⟩ := by decide
  ⟨hm, by decide, by decide, by decide, by decide,
    reconnect_strands_transactions engineWithTransaction_reachable hm rfl (by decide) (by decide)
      (by decide) (c := .set [1] [2]) rfl⟩

/-- **The impl owns itself, so a destroyed engine's client is never released.** The constructor
of `CustomKvEngine` hands the impl a `shared_ptr` to itself that nothing resets, so no
`CustomKvEngineImpl` is ever destroyed. Once `~CustomKvEngine` has run, nothing calls
`cleanup()` on its impl any more: whatever happens next, the impl keeps its client, and that
client is never passed to `kv_client_destroy`. -/
theorem destroyed_engine_never_releases_client {d : Deployment} (hd : d.Reachable) {n : Nat}
    {p : SharedImpl} (hp : d.engines n = some p) (hn : Owner.engine ∉ p.owners) {c : Nat}
    (hc : p.impl.clientHandle = some c) (ops : List Op) :
    ∃ q, (d.run ops).engines n = some q ∧ q.destroyed = false ∧ q.impl.clientHandle = some c ∧
      ∃ post, (d.run ops).clients.table.events = d.clients.table.events ++ post ∧
        .destroy c ∉ post := by
  have hi := hd.inv
  obtain ⟨q, hq, -, hqi, post, hpost, hc'⟩ := hi.gone_run hp hn hc ops
  exact ⟨q, hq, ((hi.run ops).sharedThis n q hq).2, hqi ▸ hc, post, hpost,
    fun h => hc' _ h rfl⟩

/-- An engine made and destroyed at once. -/
def destroyedEngine : Deployment :=
  (init .healthy .ok (fun _ => 0) (fun _ => 0)).run [.construct ⟨["localhost:9090"]⟩, .destroy 0]

theorem destroyedEngine_keeps_client :
    destroyedEngine.engines 0 = some ⟨⟨⟨["localhost:9090"]⟩, true, some 1⟩, [.sharedThis], false⟩ ∧
      ∃ q, (destroyedEngine.run [.construct ⟨["localhost:9090"]⟩, .reconnect 1]).engines 0 =
        some q ∧ q.destroyed = false ∧ q.impl.clientHandle = some 1 ∧
        ∃ post, (destroyedEngine.run
          [.construct ⟨["localhost:9090"]⟩, .reconnect 1]).clients.table.events =
            destroyedEngine.clients.table.events ++ post ∧ .destroy 1 ∉ post :=
  have hp : destroyedEngine.engines 0 =
      some ⟨⟨⟨["localhost:9090"]⟩, true, some 1⟩, [.sharedThis], false⟩ := by decide
  ⟨hp, destroyed_engine_never_releases_client ⟨_, _, _, _, _, rfl⟩ hp (by decide) rfl _⟩

end CustomKv
