import Mathlib.Data.List.Nodup
import CustomKv.Coroutine

/-!
# Clients of the KV library

`CustomKvEngineImpl` connects through the part of `kvstore_client.h` that makes clients:
`kv_init()`, `kv_client_create(endpoint)`, `kv_client_ping(client, msg, len)` and
`kv_client_destroy(client)`. A client is a pointer the library hands out, which the engine and its
transactions keep as a raw `void*`. The library may give a new client the address of one it has
destroyed, so a copy of a pointer kept past `kv_client_destroy` can come to point at a client made
later. A `ClientTable` keeps, in order, every client made and every client destroyed, by address;
what each call returns, and the address of each new client, is the library's choice, given by
`ConnectEnv`.
-/

namespace CustomKv

/-- What the library did with a client address. -/
inductive ClientEvent where
  /-- `kv_client_create` returned a client at this address. -/
  | create (address : Nat)
  /-- `kv_client_destroy` was passed this address. -/
  | destroy (address : Nat)
deriving DecidableEq, Repr

/-- The address an event is about. -/
def ClientEvent.address : ClientEvent → Nat
  | .create a | .destroy a => a

/-- The addresses of the clients alive after an event. -/
def ClientEvent.apply (live : List Nat) : ClientEvent → List Nat
  | .create a => live ++ [a]
  | .destroy a => live.erase a

/-- The choices the client library makes when an engine connects. -/
structure ConnectEnv where
  /-- What the `n`-th `kv_init()` returns; `0` is success. -/
  init : Nat → Int
  /-- Whether the `n`-th `kv_client_create` returns a client for this endpoint, or null. -/
  create : Nat → String → Bool
  /-- The address of the client the `n`-th `kv_client_create` makes, given the addresses of the
  clients alive: any other address, that of a destroyed client included. -/
  address : Nat → (live : List Nat) → { a : Nat // a ∉ live }
  /-- Whether the `n`-th `kv_client_ping` returns a future, or null. -/
  ping : Nat → Bool

/-- Every client the library has made and every client passed to `kv_client_destroy`, in
order. -/
structure ClientTable where
  events : List ClientEvent
deriving DecidableEq, Repr

namespace ClientTable

/-- The addresses of the clients made and not destroyed. -/
def live (t : ClientTable) : List Nat := t.events.foldl ClientEvent.apply []

/-- A client at this address has been made and not destroyed. -/
def Live (t : ClientTable) (a : Nat) : Prop := a ∈ t.live

instance decidableLive (t : ClientTable) (a : Nat) : Decidable (t.Live a) :=
  inferInstanceAs (Decidable (a ∈ t.live))

/-- A new client at address `a`. -/
def add (t : ClientTable) (a : Nat) : ClientTable := ⟨t.events ++ [.create a]⟩

def destroy (t : ClientTable) (a : Nat) : ClientTable := ⟨t.events ++ [.destroy a]⟩

/-- The address `a` has been passed to `kv_client_destroy` since the history had `since` events:
a pointer to `a` copied then dangles, whatever the library has put at `a` since. -/
def DestroyedSince (t : ClientTable) (since a : Nat) : Prop := .destroy a ∈ t.events.drop since

instance decidableDestroyedSince (t : ClientTable) (since a : Nat) :
    Decidable (t.DestroyedSince since a) :=
  inferInstanceAs (Decidable (_ ∈ _))

/-- Each `kv_client_destroy` was passed the address of a client alive at that moment: no client
is destroyed twice, or before it was made. -/
def FreesLive (es : List ClientEvent) : Prop :=
  ∀ pre a post, es = pre ++ .destroy a :: post → (⟨pre⟩ : ClientTable).Live a

/-- No two live clients share an address, and `kv_client_destroy` has been called only on live
clients. -/
structure WF (t : ClientTable) : Prop where
  nodup : t.live.Nodup
  frees : FreesLive t.events

variable {t : ClientTable} {a c : Nat}

@[simp] theorem live_add (t : ClientTable) (a : Nat) : (t.add a).live = t.live ++ [a] :=
  List.foldl_append ..

@[simp] theorem live_destroy (t : ClientTable) (a : Nat) :
    (t.destroy a).live = t.live.erase a :=
  List.foldl_append ..

theorem live_add_self (t : ClientTable) (a : Nat) : (t.add a).Live a := by
  simp [Live]

theorem Live.add (h : t.Live c) (a : Nat) : (t.add a).Live c := by
  simp only [Live, live_add, List.mem_append]
  exact .inl h

theorem Live.destroy (h : t.Live c) (hne : c ≠ a) : (t.destroy a).Live c := by
  simpa only [Live, live_destroy, List.mem_erase_of_ne hne] using h

/-- In a history that has grown, an address destroyed since an event was destroyed since it
before, or in what was added. -/
theorem destroyedSince_append {t' : ClientTable} {post : List ClientEvent}
    (h : t'.events = t.events ++ post) {since : Nat} (hs : since ≤ t.events.length) :
    t'.DestroyedSince since a ↔ t.DestroyedSince since a ∨ .destroy a ∈ post := by
  rw [DestroyedSince, DestroyedSince, h, List.drop_append_of_le_length hs, List.mem_append]

/-- A history only grows at its end, by an event that frees a live client if it frees one. -/
theorem freesLive_append {es : List ClientEvent} {e : ClientEvent} (h : FreesLive es)
    (he : ∀ a, e = .destroy a → (⟨es⟩ : ClientTable).Live a) : FreesLive (es ++ [e]) := by
  intro pre a post heq
  obtain rfl | ⟨post, x, rfl⟩ := List.eq_nil_or_concat post
  · obtain ⟨rfl, hx⟩ := List.append_inj' heq rfl
    exact he a (List.singleton_inj.mp hx)
  · rw [List.concat_eq_append, ← List.cons_append, ← List.append_assoc] at heq
    exact h pre a post (List.append_inj' heq rfl).1

theorem WF.add (ht : t.WF) (ha : ¬ t.Live a) : (t.add a).WF where
  nodup := by
    rw [live_add]
    exact ht.nodup.append (List.nodup_singleton a) (List.disjoint_singleton.mpr ha)
  frees := freesLive_append ht.frees nofun

/-- Destroying a live client keeps the table well formed. -/
theorem WF.destroy (ht : t.WF) (ha : t.Live a) : (t.destroy a).WF where
  nodup := by
    rw [live_destroy]
    exact ht.nodup.erase a
  frees := freesLive_append ht.frees fun _ h => ClientEvent.destroy.inj h ▸ ha

end ClientTable

structure Clients where
  env : ConnectEnv
  /-- The number of `kv_init` calls so far. -/
  inits : Nat
  /-- The number of `kv_client_create` calls so far. -/
  creates : Nat
  /-- The `kv_client_ping` calls: the client and the message. -/
  pinged : List (Nat × String)
  table : ClientTable

def Clients.init (env : ConnectEnv) : Clients := ⟨env, 0, 0, [], ⟨[]⟩⟩

theorem Clients.init_wf (env : ConnectEnv) : (Clients.init env).table.WF :=
  ⟨List.nodup_nil, fun pre _ _ h => by cases pre <;> cases h⟩

/-- The address the next `kv_client_create` gives a client, if it makes one. -/
def Clients.nextAddress (l : Clients) : Nat := (l.env.address l.creates l.table.live).1

theorem Clients.nextAddress_not_live (l : Clients) : ¬ l.table.Live l.nextAddress :=
  (l.env.address l.creates l.table.live).2

/-! ## The calls -/

section
variable {σ : Type}

def kvInit : Co (σ × Clients) Int :=
  Co.world fun l => (l.env.init l.inits, { l with inits := l.inits + 1 })

def kvClientCreate (endpoint : String) : Co (σ × Clients) (Option Nat) :=
  Co.world fun l =>
    if l.env.create l.creates endpoint then
      (some l.nextAddress,
        { l with creates := l.creates + 1, table := l.table.add l.nextAddress })
    else (none, { l with creates := l.creates + 1 })

/-- `kv_client_ping`: whether the future it returns is not null. -/
def kvClientPing (client : Nat) (message : String) : Co (σ × Clients) Bool :=
  Co.world fun l =>
    (l.env.ping l.pinged.length, { l with pinged := l.pinged ++ [(client, message)] })

def kvClientDestroy (client : Nat) : Co (σ × Clients) Unit :=
  Co.world fun l => ((), { l with table := l.table.destroy client })

end

end CustomKv
