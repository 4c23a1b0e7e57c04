import CustomKv.Server.Server
import CustomKv.Coroutine

/-!
# The client library and its futures

The wrapper talks to the server through the C API of `kvstore_client.h`. Every asynchronous
call returns a `KvFutureHandle`; the wrapper awaits it with `waitForFuture` and then reads the
reply out of it. What the library does besides carrying a request to the server is decided by
the environment `Env`: the value `kv_future_poll` returns for each future, whether a request
fails before it reaches the store, and what `kv_pair_array_free` leaves in the array it frees.

The `World` is the server with the client library in front of it. It also records every request
in the order it was issued (`calls`), so that statements can speak of what the wrapper sent.
-/

namespace CustomKv

/-- The choices the client library and the network make. -/
structure Env where
  /-- What `kv_future_poll` returns for the future of the `n`-th request: `1` ready, `-1`
  failed, anything else not ready yet. -/
  poll : Nat → Int
  /-- The `n`-th request fails with this error, without reaching the store. -/
  fault : Nat → Option (KvErrorCode × Option String)
  /-- The array `kv_pair_array_free` leaves behind. -/
  pairArrayFree : KvPairArray → KvPairArray

/-- A library that never fails, whose futures are ready when polled, and whose
`kv_pair_array_free` leaves the array as it was. -/
def Env.healthy : Env := ⟨fun _ => 1, fun _ => none, id⟩

/-- No poll fails and every request reaches the server. -/
def Env.Healthy (env : Env) : Prop := (∀ n, env.poll n ≠ -1) ∧ ∀ n, env.fault n = none

theorem Env.healthy_healthy : Env.healthy.Healthy :=
  ⟨fun _ => by simp [Env.healthy], fun _ => rfl⟩

structure World where
  server : KvServer
  env : Env
  /-- The number of requests issued so far; the `n`-th request's future has id `n`. -/
  issued : Nat
  /-- Every request issued, in order. -/
  calls : List Request
  /-- `std::chrono::steady_clock::now()` in microseconds, on the host that runs the call. -/
  clock : Int

def World.init (env : Env) (clock : Int) : World := ⟨.init, env, 0, [], clock⟩

/-- A future: the id of its request and the reply it holds. -/
structure KvFuture where
  id : Nat
  reply : Reply

/-- Issue a request: the server handles it unless the environment fails it. -/
def World.call (r : Request) (w : World) : KvFuture × World :=
  let (reply, server) := match w.env.fault w.issued with
    | some (code, message) => (r.failure code message, w.server)
    | none => w.server.handle r
  (⟨w.issued, reply⟩, { w with server, issued := w.issued + 1, calls := w.calls ++ [r] })

@[simp] theorem World.call_calls (r : Request) (w : World) :
    (w.call r).2.calls = w.calls ++ [r] := rfl

@[simp] theorem World.call_env (r : Request) (w : World) : (w.call r).2.env = w.env := rfl

@[simp] theorem World.call_clock (r : Request) (w : World) : (w.call r).2.clock = w.clock := rfl

@[simp] theorem World.call_id (r : Request) (w : World) : (w.call r).1.id = w.issued := rfl

/-- Without a fault, a request is the server's to handle. -/
theorem World.call_of_fault_none {r : Request} {w : World} (h : w.env.fault w.issued = none) :
    w.call r = (⟨w.issued, (w.server.handle r).1⟩,
      { w with server := (w.server.handle r).2, issued := w.issued + 1,
               calls := w.calls ++ [r] }) := by
  simp [World.call, h]

/-- A request the environment fails gets the failure reply and leaves the server as it was. -/
theorem World.call_of_fault {r : Request} {w : World} {code : KvErrorCode}
    {message : Option String} (h : w.env.fault w.issued = some (code, message)) :
    w.call r = (⟨w.issued, r.failure code message⟩,
      { w with issued := w.issued + 1, calls := w.calls ++ [r] }) := by
  simp [World.call, h]

/-- Issue requests in order. -/
def World.callAll (w : World) (rs : List Request) : World := rs.foldl (fun w r => (w.call r).2) w

@[simp] theorem World.callAll_nil (w : World) : w.callAll [] = w := rfl

@[simp] theorem World.callAll_cons (w : World) (r : Request) (rs : List Request) :
    w.callAll (r :: rs) = (w.call r).2.callAll rs := rfl

theorem World.call_healthy {w : World} (h : w.env.Healthy) (r : Request) :
    w.call r = (⟨w.issued, (w.server.handle r).1⟩,
      { w with server := (w.server.handle r).2, issued := w.issued + 1,
               calls := w.calls ++ [r] }) :=
  World.call_of_fault_none (h.2 _)

/-! ## The C API -/

section
variable {σ : Type}

/-- An asynchronous call of the C API. -/
def call (r : Request) : Co (σ × World) KvFuture := Co.world (World.call r)

/-- A synchronous call of the C API, which returns an `int` at once. -/
def callSync (r : Request) : Co (σ × World) (Option KvErrorCode) :=
  Co.world fun w =>
    let (f, w) := w.call r
    (match f.reply with
      | .code c => c
      | _ => some (.other (-1)), w)

def kvFuturePoll (f : KvFuture) : Co (σ × World) Int := Co.world fun w => (w.env.poll f.id, w)

def kvPairArrayFree (a : KvPairArray) : Co (σ × World) KvPairArray :=
  Co.world fun w => (w.env.pairArrayFree a, w)

/-- `std::chrono::steady_clock::now()`, in microseconds. -/
def steadyClockNow : Co (σ × World) Int := Co.world fun w => (w.clock, w)

/-- `waitForFuture` of `CustomTransaction.cc`: a failed poll throws; a future that is not ready
yet posts a baton from its callback once it is. -/
def waitForFuture (f : KvFuture) : Co (σ × World) Unit := do
  let ready ← kvFuturePoll f
  if ready = 1 then return
  if ready = -1 then throw "Future polling failed"
  return

@[simp] theorem call_apply (r : Request) (s : σ × World) :
    (call r : Co (σ × World) KvFuture) s = (.ret (s.2.call r).1, (s.1, (s.2.call r).2)) := rfl

@[simp] theorem steadyClockNow_apply (s : σ × World) :
    (steadyClockNow : Co (σ × World) Int) s = (.ret s.2.clock, s) := rfl

@[simp] theorem kvPairArrayFree_apply (a : KvPairArray) (s : σ × World) :
    (kvPairArrayFree a : Co (σ × World) KvPairArray) s = (.ret (s.2.env.pairArrayFree a), s) :=
  rfl

/-- `waitForFuture` throws exactly when the poll fails, and changes nothing. -/
@[simp] theorem waitForFuture_apply (f : KvFuture) (s : σ × World) :
    waitForFuture f s =
      if s.2.env.poll f.id = -1 then (.thrown "Future polling failed", s) else (.ret (), s) := by
  by_cases h₁ : s.2.env.poll f.id = 1
  · simp only [waitForFuture, kvFuturePoll, Int.reduceNeg, Co.bind_apply, Co.world_apply, h₁,
      Prod.mk.eta, ↓reduceIte, Co.pure_apply, reduceCtorEq]
  · by_cases h₂ : s.2.env.poll f.id = -1 <;> simp only [waitForFuture, kvFuturePoll, Int.reduceNeg,
      Co.bind_apply, Co.world_apply, h₂, Prod.mk.eta, reduceCtorEq, ↓reduceIte, h₁, Co.pure_apply]

end

def kvFutureGetTransaction (f : KvFuture) : Nat :=
  match f.reply with
  | .transaction h => h
  | _ => 0

def kvFutureGetReadTransaction (f : KvFuture) : Nat :=
  match f.reply with
  | .readTransaction h => h
  | _ => 0

def kvFutureGetValueResult (f : KvFuture) : KvResult × KvBinaryData :=
  match f.reply with
  | .value r v => (r, v)
  | _ => (.fail (.other (-1)) none, ⟨none⟩)

def kvFutureGetKvArrayResult (f : KvFuture) : KvResult × KvPairArray :=
  match f.reply with
  | .kvArray r a => (r, a)
  | _ => (.fail (.other (-1)) none, .ofPairs [])

def kvFutureGetVoidResult (f : KvFuture) : KvResult :=
  match f.reply with
  | .void r => r
  | _ => .fail (.other (-1)) none

/-- The value a point read hands back: the bytes when the read succeeded and `value.data` is not
null, else `std::nullopt`. -/
def readValue (result : KvResult) (value : KvBinaryData) : Option Bytes :=
  match result.success, value.data with
  | true, some v => some v
  | _, _ => none

@[simp] theorem readValue_ok (v : Option Bytes) : readValue .ok ⟨v⟩ = v := by
  cases v <;> rfl

@[simp] theorem readValue_fail (code : KvErrorCode) (message : Option String) (v : KvBinaryData) :
    readValue (.fail code message) v = none := rfl

/-- `static_cast<size_t>` of an `int32_t`. -/
def sizeT (n : Int) : Nat := (n % Int.pow 2 64).toNat

/-- The pairs the wrapper copies out of a `KvPairArray`: `pairs[i]` for `i < count`. -/
def KvPairArray.keyValues (a : KvPairArray) : List KeyValue :=
  (a.pairs.take a.count).map fun p => ⟨p.1, p.2⟩

/-- `begin` of a range as the wrapper passes it: `(key, or_equal = !inclusive, offset = 0)`. -/
def beginSelector (b : KeySelector) : FdbSelector := ⟨b.key, if b.inclusive then 0 else 1, 0⟩

/-- `end` of a range as the wrapper passes it: `(key, or_equal = inclusive, offset = 0)`. -/
def endSelector (e : KeySelector) : FdbSelector := ⟨e.key, if e.inclusive then 1 else 0, 0⟩

end CustomKv
