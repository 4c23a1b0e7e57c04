import CustomKv.Engine.Clients
import CustomKv.ReadOnly
import CustomKv.ReadWrite

/-!
# `CustomKvEngineImpl`

The engine of `CustomKvEngine.cc`. `initialize()` sets the library up with `kv_init()`, makes a
client for the first of `cluster_endpoints` and pings it without waiting for the answer: the
engine is healthy as soon as the ping's future exists, and when there is none the client is
destroyed again (`initialize` is a keyword of Lean: the model calls it `initializeEngine`).
`cleanup()` destroys the client and `reconnect()` is `cleanup()` then `initialize()`. A healthy
engine makes transactions that keep a copy of its `client_handle_` pointer; one that is not
healthy makes none. Of `CustomKvEngineConfig` only `cluster_endpoints` is
read; the id of `generateTransactionId()` is used only in log lines and is left out.
-/

namespace CustomKv

/-- `CustomKvEngineConfig`; its other items are read by no function. -/
structure CustomKvEngineConfig where
  clusterEndpoints : List String := []
deriving DecidableEq, Repr

structure CustomKvEngineImpl where
  config : CustomKvEngineConfig
  healthy : Bool
  /-- `client_handle_`: a client of the library, or `none` for a null pointer. -/
  clientHandle : Option Nat
deriving DecidableEq, Repr

namespace CustomKvEngineImpl

abbrev Task (α : Type) := Co (CustomKvEngineImpl × Clients) α

def isHealthy (e : CustomKvEngineImpl) : Bool := e.healthy

def getClientHandle (e : CustomKvEngineImpl) : Option Nat := e.clientHandle

def initializeEngine : Task Unit :=
  tryCatch (do
    let initResult ← kvInit
    if initResult ≠ 0 then
      Co.modifySelf fun e => { e with healthy := false }
      return
    match (← Co.self).config.clusterEndpoints with
    | primaryEndpoint :: _ =>
      let client ← kvClientCreate primaryEndpoint
      Co.modifySelf fun e => { e with clientHandle := client }
      match client with
      | none => Co.modifySelf fun e => { e with healthy := false }
      | some c =>
        if (← kvClientPing c "hello") then
          Co.modifySelf fun e => { e with healthy := true }
        else
          kvClientDestroy c
          Co.modifySelf fun e => { e with clientHandle := none, healthy := false }
    | [] => Co.modifySelf fun e => { e with healthy := false })
    fun _ => Co.modifySelf fun e => { e with healthy := false }

def cleanup : Task Unit := do
  if let some c := (← Co.self).clientHandle then
    kvClientDestroy c
    Co.modifySelf fun e => { e with clientHandle := none }
  Co.modifySelf fun e => { e with healthy := false }

def reconnect : Task Unit := do
  cleanup
  initializeEngine

/-- `CustomKvEngineImpl(config)`: not healthy and without a client, then `initialize()`. -/
def create (config : CustomKvEngineConfig) (l : Clients) : CustomKvEngineImpl × Clients :=
  (initializeEngine (⟨config, false, none⟩, l)).2

/-- The body both `create...Transaction` share: null when the engine is not healthy, else a new
transaction given a copy of `client_handle_`. -/
def createTransaction {τ : Type} (make : Bool → τ) (e : CustomKvEngineImpl) : Option τ :=
  if !e.healthy then none else some (make e.clientHandle.isSome)

def createReadonlyTransaction (e : CustomKvEngineImpl) : Option CustomReadOnlyTransaction :=
  createTransaction CustomReadOnlyTransaction.create e

def createReadWriteTransaction (e : CustomKvEngineImpl) : Option CustomTransaction :=
  createTransaction CustomTransaction.create e

/-! ## What `initialize` and `cleanup` leave -/

/-- `healthy_` is set exactly when `client_handle_` is not null, and that client is live. -/
structure Inv (e : CustomKvEngineImpl) (t : ClientTable) : Prop where
  healthy_eq : e.healthy = e.clientHandle.isSome
  live : ∀ c, e.clientHandle = some c → t.Live c

/-- What `initialize` guarantees, from an engine without a client and a well-formed table: the
configuration is kept, the engine holds a client `kv_client_create` has just made at an address
no live client had, or none, no client live before is destroyed, and the history only grows, by
events at addresses no live client had. -/
structure Connected (e : CustomKvEngineImpl) (t : ClientTable) (e' : CustomKvEngineImpl)
    (t' : ClientTable) : Prop where
  config : e'.config = e.config
  wf : t'.WF
  inv : e'.Inv t'
  fresh : ∀ c, e'.clientHandle = some c → ¬ t.Live c
  live : ∀ c, t.Live c → t'.Live c
  grows : ∃ post, t'.events = t.events ++ post ∧ ∀ x ∈ post, ¬ t.Live x.address

variable {e : CustomKvEngineImpl} {l : Clients} {t : ClientTable}

@[simp] theorem cleanup_apply (e : CustomKvEngineImpl) (l : Clients) :
    cleanup (e, l) = (.ret (), { e with clientHandle := none, healthy := false },
      match e.clientHandle with
      | some c => { l with table := l.table.destroy c }
      | none => l) := by
  cases h : e.clientHandle <;> simp only [cleanup, kvClientDestroy, Co.bind_apply, Co.self_apply, h,
      Co.modifySelf_apply, Co.world_apply]

@[simp] theorem reconnect_apply (e : CustomKvEngineImpl) (l : Clients) :
    reconnect (e, l) = initializeEngine (cleanup (e, l)).2 := by
  simp only [reconnect, Co.bind_apply, cleanup_apply]

/-- An `initialize` that ends without a client and destroys none. -/
theorem Connected.of_none (ht : t.WF) {f : CustomKvEngineImpl} (hc : f.config = e.config)
    (h : f.clientHandle = none) (hh : f.healthy = false) : Connected e t f t where
  config := hc
  wf := ht
  inv := ⟨by rw [h, hh]; rfl, by simp [h]⟩
  fresh := by simp [h]
  live _ := id
  grows := ⟨[], (List.append_nil _).symm, nofun⟩

variable {a : Nat}

/-- The client made is kept: the engine is healthy. -/
theorem Connected.of_ping (ht : t.WF) (ha : ¬ t.Live a) :
    Connected e t { e with healthy := true, clientHandle := some a } (t.add a) where
  config := rfl
  wf := ht.add ha
  inv := ⟨rfl, fun _ h => Option.some.inj h ▸ ClientTable.live_add_self t a⟩
  fresh _ h := Option.some.inj h ▸ ha
  live _ h := h.add a
  grows := ⟨[.create a], rfl, by simpa [ClientEvent.address] using ha⟩

/-- The client made is destroyed at once: the engine is not healthy. -/
theorem Connected.of_ping_failed (ht : t.WF) (ha : ¬ t.Live a) :
    Connected e t { e with healthy := false, clientHandle := none } ((t.add a).destroy a) where
  config := rfl
  wf := (ht.add ha).destroy (ClientTable.live_add_self t a)
  inv := ⟨rfl, nofun⟩
  fresh := nofun
  live _ h := (h.add a).destroy fun e => ha (e ▸ h)
  grows := ⟨[.create a, .destroy a], List.append_assoc _ _ _,
    by simpa [ClientEvent.address] using ha⟩

/-! ## The paths of `initialize` -/

section Paths

variable (e : CustomKvEngineImpl) (l : Clients)

/-- `kv_init` fails: the engine is not healthy. -/
theorem initializeEngine_of_init_failed (hi : l.env.init l.inits ≠ 0) :
    initializeEngine (e, l) =
      (.ret (), { e with healthy := false }, { l with inits := l.inits + 1 }) := by
  simp only [initializeEngine, kvInit, ne_eq, ite_not, Co.tryCatch_apply, Co.bind_apply,
    Co.world_apply, hi, ↓reduceIte, Co.modifySelf_apply, Co.pure_apply]

/-- No endpoint is configured: the engine is not healthy. -/
theorem initializeEngine_of_no_endpoints (hi : l.env.init l.inits = 0)
    (h : e.config.clusterEndpoints = []) :
    initializeEngine (e, l) =
      (.ret (), { e with healthy := false }, { l with inits := l.inits + 1 }) := by
  simp only [initializeEngine, kvInit, ne_eq, ite_not, Co.tryCatch_apply, Co.bind_apply,
    Co.world_apply, hi, ↓reduceIte, Co.self_apply, h, Co.modifySelf_apply]

variable {ep : String} {eps : List String} (hep : e.config.clusterEndpoints = ep :: eps)
  (hi : l.env.init l.inits = 0)
include hep hi

/-- `kv_client_create` returns null: the engine is not healthy. -/
theorem initializeEngine_of_create_failed (hc : l.env.create l.creates ep = false) :
    initializeEngine (e, l) = (.ret (), { e with clientHandle := none, healthy := false },
      { l with inits := l.inits + 1, creates := l.creates + 1 }) := by
  simp only [initializeEngine, kvInit, ne_eq, kvClientCreate, ite_not, Co.tryCatch_apply,
    Co.bind_apply, Co.world_apply, hi, ↓reduceIte, Co.self_apply, hep, hc, Bool.false_eq_true,
    Co.modifySelf_apply]

/-- `kv_client_ping` returns null: the client just made is destroyed again. -/
theorem initializeEngine_of_ping_failed (hc : l.env.create l.creates ep = true)
    (hp : l.env.ping l.pinged.length = false) :
    initializeEngine (e, l) = (.ret (), { e with clientHandle := none, healthy := false },
      { l with inits := l.inits + 1, creates := l.creates + 1,
               pinged := l.pinged ++ [(l.nextAddress, "hello")],
               table := (l.table.add l.nextAddress).destroy l.nextAddress }) := by
  simp only [initializeEngine, kvInit, ne_eq, kvClientCreate, kvClientPing, kvClientDestroy,
    ite_not,
    Co.tryCatch_apply, Co.bind_apply, Co.world_apply, hi, ↓reduceIte, Co.self_apply, hep, hc,
    Co.modifySelf_apply, hp, Bool.false_eq_true, Clients.nextAddress]

/-- `kv_client_ping` returns a future: the engine holds the client just made and is healthy. -/
theorem initializeEngine_of_ping (hc : l.env.create l.creates ep = true)
    (hp : l.env.ping l.pinged.length = true) :
    initializeEngine (e, l) =
      (.ret (), { e with clientHandle := some l.nextAddress, healthy := true },
        { l with inits := l.inits + 1, creates := l.creates + 1,
                 pinged := l.pinged ++ [(l.nextAddress, "hello")],
                 table := l.table.add l.nextAddress }) := by
  simp only [initializeEngine, kvInit, ne_eq, kvClientCreate, kvClientPing, ite_not,
    Co.tryCatch_apply, Co.bind_apply, Co.world_apply, hi, ↓reduceIte, Co.self_apply, hep, hc,
    Co.modifySelf_apply, hp, Clients.nextAddress]

end Paths

theorem initializeEngine_connected (h0 : e.clientHandle = none) (ht : l.table.WF) :
    Connected e l.table (initializeEngine (e, l)).2.1 (initializeEngine (e, l)).2.2.table := by
  by_cases hi : l.env.init l.inits = 0
  swap
  · rw [initializeEngine_of_init_failed e l hi]
    exact Connected.of_none ht rfl h0 rfl
  cases hep : e.config.clusterEndpoints with
  | nil =>
    rw [initializeEngine_of_no_endpoints e l hi hep]
    exact Connected.of_none ht rfl h0 rfl
  | cons ep eps =>
    cases hc : l.env.create l.creates ep
    · rw [initializeEngine_of_create_failed e l hep hi hc]
      exact Connected.of_none ht rfl rfl rfl
    cases hp : l.env.ping l.pinged.length
    · rw [initializeEngine_of_ping_failed e l hep hi hc hp]
      exact Connected.of_ping_failed ht l.nextAddress_not_live
    · rw [initializeEngine_of_ping e l hep hi hc hp]
      exact Connected.of_ping ht l.nextAddress_not_live

end CustomKvEngineImpl

end CustomKv
