import CustomKv.Engine.Impl
import CustomKv.System

/-!
# Engines and the transactions they make

A `Deployment` holds every `CustomKvEngine` made so far with the `CustomKvEngineImpl` it shares,
the client library they connect through, and the transactions they have made, which run against
the server as in `System`. The constructor of `CustomKvEngine` makes the impl with `make_shared`
and then hands the impl a `shared_ptr` to itself (`setSharedThis`); every transaction keeps one
more in `engine_`, and a copy of the engine's `client_handle_` pointer. When the last
`shared_ptr` goes, `~CustomKvEngineImpl` runs and calls `cleanup()`. Every engine connects to the
one cluster whose server `System` models.

A step makes or destroys an engine or a transaction, reconnects an engine, or is a step of
`System` on a transaction that exists. A transaction's copy of `client_handle_` dangles once that
client is passed to `kv_client_destroy`, even if the library later puts a new client at the same
address. A call that passes a dangling pointer to `kv_transaction_begin` or
`kv_read_transaction_begin` is a use after free: its behaviour is undefined, and a run stops
there. The other requests pass only a transaction handle, and the model runs them as `System`
does.
-/

namespace CustomKv

/-- The requests that take the client pointer: `kv_transaction_begin` and
`kv_read_transaction_begin`. -/
def Request.passesClient : Request → Bool
  | .transactionBegin _ | .readTransactionBegin _ => true
  | _ => false

/-- An owner of a `std::shared_ptr<CustomKvEngineImpl>`. -/
inductive Owner where
  /-- `CustomKvEngine::impl_`. -/
  | engine
  /-- `CustomKvEngineImpl::shared_from_this_`, which `setSharedThis` sets. -/
  | sharedThis
  /-- `engine_` of the read-write transaction with this id. -/
  | readWrite (id : Nat)
  /-- `engine_` of the read-only transaction with this id. -/
  | readOnly (id : Nat)
deriving DecidableEq, Repr

/-- A `CustomKvEngineImpl` and the shared pointers that own it. -/
structure SharedImpl where
  impl : CustomKvEngineImpl
  /-- One entry for each `shared_ptr` that owns the object: the use count is their number. -/
  owners : List Owner
  /-- `~CustomKvEngineImpl` has run. -/
  destroyed : Bool
deriving DecidableEq, Repr

/-- The `shared_ptr` owned by `o` goes away; the last one runs `~CustomKvEngineImpl`, which calls
`cleanup()`. -/
def SharedImpl.release (p : SharedImpl) (o : Owner) (l : Clients) : SharedImpl × Clients :=
  let owners := p.owners.erase o
  if owners = [] then
    let (_, impl, l) := CustomKvEngineImpl.cleanup (p.impl, l)
    (⟨impl, owners, true⟩, l)
  else ({ p with owners }, l)

/-- A transaction object an engine has made. -/
structure Made where
  /-- The engine whose `create...Transaction` made it. -/
  engine : Nat
  /-- The `client_handle_` it keeps. -/
  client : Option Nat
  /-- The length of the client history when it was made. -/
  since : Nat
  /-- The object has not been destroyed. -/
  alive : Bool
deriving DecidableEq, Repr

structure Deployment where
  clients : Clients
  /-- The engines made so far, by id. -/
  engines : Nat → Option SharedImpl
  nextEngine : Nat
  /-- The read-write transactions made so far, by their id in `sys`. -/
  rwMade : Nat → Option Made
  nextRw : Nat
  /-- The read-only transactions made so far, by their id in `sys`. -/
  roMade : Nat → Option Made
  nextRo : Nat
  /-- The transactions and the server. -/
  sys : System
  /-- A call has passed the library a client it had destroyed. -/
  undefined : Bool

/-- A step of a deployment. -/
inductive Deployment.Op where
  /-- `CustomKvEngine(config)`. -/
  | construct (config : CustomKvEngineConfig)
  | reconnect (engine : Nat)
  /-- `~CustomKvEngine()`. -/
  | destroy (engine : Nat)
  | createReadWriteTransaction (engine : Nat)
  | createReadonlyTransaction (engine : Nat)
  /-- `~CustomTransaction()`. -/
  | destroyReadWrite (id : Nat)
  /-- `~CustomReadOnlyTransaction()`. -/
  | destroyReadonly (id : Nat)
  /-- A call on a transaction that exists, or a tick of a clock. -/
  | act (action : Action)

namespace Deployment

/-- No engine yet; the transaction ids of `sys` are all free. -/
def init (env : Env) (connect : ConnectEnv) (host : Nat → Nat) (clocks : Nat → Int) :
    Deployment :=
  ⟨.init connect, fun _ => none, 0, fun _ => none, 0, fun _ => none, 0, .init env host clocks,
    false⟩

/-- Engine `n`, while its `CustomKvEngine` object exists. -/
def engine? (d : Deployment) (n : Nat) : Option SharedImpl :=
  (d.engines n).filter fun p => Owner.engine ∈ p.owners

/-- `CustomKvEngine(config)`: `make_shared<CustomKvEngineImpl>(config)` connects, and
`setSharedThis(impl_)` makes the impl own itself. -/
def construct (d : Deployment) (config : CustomKvEngineConfig) : Deployment :=
  let (impl, clients) := CustomKvEngineImpl.create config d.clients
  { d with
    clients
    engines := Function.update d.engines d.nextEngine (some ⟨impl, [.engine, .sharedThis], false⟩)
    nextEngine := d.nextEngine + 1 }

def reconnect (d : Deployment) (n : Nat) : Deployment :=
  match d.engine? n with
  | some p =>
    let (_, impl, clients) := CustomKvEngineImpl.reconnect (p.impl, d.clients)
    { d with clients, engines := Function.update d.engines n (some { p with impl }) }
  | none => d

/-- The `shared_ptr` to engine `n`'s impl owned by `o` goes away. -/
def release (d : Deployment) (n : Nat) (o : Owner) : Deployment :=
  match d.engines n with
  | some p =>
    let (p, clients) := p.release o d.clients
    { d with clients, engines := Function.update d.engines n (some p) }
  | none => d

/-- `~CustomKvEngine()`: its `impl_` goes away. -/
def destroy (d : Deployment) (n : Nat) : Deployment :=
  match d.engine? n with
  | some _ => d.release n .engine
  | none => d

def createReadWriteTransaction (d : Deployment) (n : Nat) : Deployment :=
  match d.engine? n with
  | some p =>
    match p.impl.createReadWriteTransaction with
    | some t =>
      { d with
        engines := Function.update d.engines n
          (some { p with owners := p.owners ++ [.readWrite d.nextRw] })
        rwMade := Function.update d.rwMade d.nextRw
          (some ⟨n, p.impl.clientHandle, d.clients.table.events.length, true⟩)
        nextRw := d.nextRw + 1
        sys := { d.sys with rw := Function.update d.sys.rw d.nextRw t } }
    | none => d
  | none => d

def createReadonlyTransaction (d : Deployment) (n : Nat) : Deployment :=
  match d.engine? n with
  | some p =>
    match p.impl.createReadonlyTransaction with
    | some t =>
      { d with
        engines := Function.update d.engines n
          (some { p with owners := p.owners ++ [.readOnly d.nextRo] })
        roMade := Function.update d.roMade d.nextRo
          (some ⟨n, p.impl.clientHandle, d.clients.table.events.length, true⟩)
        nextRo := d.nextRo + 1
        sys := { d.sys with ro := Function.update d.sys.ro d.nextRo t } }
    | none => d
  | none => d

/-- `~CustomTransaction()` runs, then the transaction's `engine_` goes away. -/
def destroyReadWrite (d : Deployment) (i : Nat) : Deployment :=
  match d.rwMade i with
  | some m =>
    if m.alive then
      let (_, t, world) := CustomTransaction.destroy (d.sys.rw i, d.sys.world)
      { d with
        rwMade := Function.update d.rwMade i (some { m with alive := false })
        sys := { d.sys with world, rw := Function.update d.sys.rw i t } }.release m.engine
        (.readWrite i)
    else d
  | none => d

/-- `~CustomReadOnlyTransaction()` runs, then the transaction's `engine_` goes away. -/
def destroyReadonly (d : Deployment) (i : Nat) : Deployment :=
  match d.roMade i with
  | some m =>
    if m.alive then
      let (_, t, world) := CustomReadOnlyTransaction.destroy (d.sys.ro i, d.sys.world)
      { d with
        roMade := Function.update d.roMade i (some { m with alive := false })
        sys := { d.sys with world, ro := Function.update d.sys.ro i t } }.release m.engine
        (.readOnly i)
    else d
  | none => d

/-- Whether an action is a call on a transaction that exists, or a tick. -/
def allows (d : Deployment) : Action → Bool
  | .rw i _ => (d.rwMade i).any (·.alive)
  | .ro i _ => (d.roMade i).any (·.alive)
  | .tick _ _ => true

/-- The transaction an action calls. -/
def madeOf (d : Deployment) : Action → Option Made
  | .rw i _ => d.rwMade i
  | .ro i _ => d.roMade i
  | .tick _ _ => none

/-- Whether the step of `a` passes the library the client pointer of its transaction when that
client has been destroyed since the transaction copied it. -/
def usesDestroyedClient (d : Deployment) (a : Action) : Bool :=
  ((d.sys.step a).world.calls.drop d.sys.world.calls.length).any Request.passesClient &&
    (d.madeOf a).any fun m =>
      m.client.any fun c => decide (d.clients.table.DestroyedSince m.since c)

def act (d : Deployment) (a : Action) : Deployment :=
  if d.allows a then
    if d.usesDestroyedClient a then { d with undefined := true } else { d with sys := d.sys.step a }
  else d

def step (d : Deployment) : Op → Deployment
  | .construct config => d.construct config
  | .reconnect n => d.reconnect n
  | .destroy n => d.destroy n
  | .createReadWriteTransaction n => d.createReadWriteTransaction n
  | .createReadonlyTransaction n => d.createReadonlyTransaction n
  | .destroyReadWrite i => d.destroyReadWrite i
  | .destroyReadonly i => d.destroyReadonly i
  | .act a => d.act a

/-- A run stops at undefined behaviour. -/
def run (d : Deployment) (ops : List Op) : Deployment :=
  ops.foldl (fun d op => if d.undefined then d else d.step op) d

@[simp] theorem run_nil (d : Deployment) : d.run [] = d := rfl

theorem run_cons (d : Deployment) (op : Op) (ops : List Op) :
    d.run (op :: ops) = (if d.undefined then d else d.step op).run ops := rfl

/-- The states a run from no engine reaches, in any environment. -/
def Reachable (d : Deployment) : Prop :=
  ∃ env connect host clocks ops, d = (init env connect host clocks).run ops

end Deployment

end CustomKv
