import CustomKv.Engine.Deployment
import CustomKv.Invariant
import CustomKv.TransactionLemmas

/-!
# What every run of engines keeps

`Deployment.Inv` holds from `init` and is kept by every step, whatever the client library and
the server do. Each engine is healthy exactly when it holds a client, and that client is live;
no two engines hold one client; every impl owns itself and has never been destroyed; every
transaction keeps the client its engine holds or one destroyed since; and the transaction ids
not used yet are free in `sys`. On `sys` each step is zero or one step of `System`, so every run
of engines is a run of the transaction system.
-/

namespace CustomKv

theorem SharedImpl.release_of_sharedThis {p : SharedImpl} {o : Owner}
    (h : Owner.sharedThis ∈ p.owners) (ho : o ≠ .sharedThis) (l : Clients) :
    p.release o l = ({ p with owners := p.owners.erase o }, l) := by
  have : p.owners.erase o ≠ [] := List.ne_nil_of_mem ((List.mem_erase_of_ne ho.symm).mpr h)
  simp [release, this]

namespace CustomKvEngineImpl

variable {e : CustomKvEngineImpl} {l : Clients}

/-- `reconnect` from an engine that keeps its invariant: `cleanup` destroys its client and leaves
a table `t₀` in which every other client is as live as before, and `initialize` connects from
`t₀`. -/
theorem reconnect_connected (hi : e.Inv l.table) (ht : l.table.WF) :
    ∃ t₀ : ClientTable, t₀.events = l.table.events ++ (e.clientHandle.map .destroy).toList ∧
      (∀ c, l.table.Live c → e.clientHandle ≠ some c → t₀.Live c) ∧
      Connected { e with clientHandle := none, healthy := false } t₀ (reconnect (e, l)).2.1
        (reconnect (e, l)).2.2.table := by
  rw [reconnect_apply, cleanup_apply]
  cases h : e.clientHandle with
  | none =>
    exact ⟨l.table, (List.append_nil _).symm, fun _ hc _ => hc,
      initializeEngine_connected (l := l) rfl ht⟩
  | some c₀ =>
    exact ⟨l.table.destroy c₀, rfl, fun c hc hne => hc.destroy fun he => hne (he ▸ rfl),
      initializeEngine_connected (l := { l with table := l.table.destroy c₀ }) rfl
        (ht.destroy (hi.live c₀ h))⟩

end CustomKvEngineImpl

namespace Deployment

variable {d : Deployment} {n i : Nat} {p : SharedImpl}

@[simp] theorem engine?_eq_some : d.engine? n = some p ↔ d.engines n = some p ∧
    Owner.engine ∈ p.owners := by
  simp [engine?]

theorem update_eq_some {f : Nat → Option SharedImpl} {q p : SharedImpl} {n' : Nat} :
    Function.update f n (some q) n' = some p ↔ n' = n ∧ q = p ∨ n' ≠ n ∧ f n' = some p := by
  by_cases h : n' = n
  · subst h; simp
  · simp [Function.update_noteq h, h]

/-- The impl of each engine made so far. -/
def impl? (d : Deployment) (n : Nat) : Option CustomKvEngineImpl := (d.engines n).map (·.impl)

/-- A transaction keeps the pointer to the client its engine holds, or a pointer passed to
`kv_client_destroy` since the transaction was made. -/
def Keeps (d : Deployment) (m : Made) : Prop :=
  ∃ e c, d.impl? m.engine = some e ∧ m.client = some c ∧
    m.since ≤ d.clients.table.events.length ∧
    (e.clientHandle = some c ∨ d.clients.table.DestroyedSince m.since c)

/-- **The invariant of every run of engines.** -/
structure Inv (d : Deployment) : Prop where
  wf : d.clients.table.WF
  engines_none : ∀ n, d.nextEngine ≤ n → d.engines n = none
  impl : ∀ n e, d.impl? n = some e → e.Inv d.clients.table
  distinct : ∀ n n' e e' c, d.impl? n = some e → d.impl? n' = some e' →
    e.clientHandle = some c → e'.clientHandle = some c → n = n'
  sharedThis : ∀ n p, d.engines n = some p → Owner.sharedThis ∈ p.owners ∧ p.destroyed = false
  rwMade : ∀ i m, d.rwMade i = some m → d.Keeps m
  roMade : ∀ i m, d.roMade i = some m → d.Keeps m
  rwFresh : ∀ i, d.nextRw ≤ i → d.rwMade i = none ∧ d.sys.rw i = .create true
  roFresh : ∀ i, d.nextRo ≤ i → d.roMade i = none ∧ d.sys.ro i = .create true

theorem Inv.init (env : Env) (connect : ConnectEnv) (host : Nat → Nat) (clocks : Nat → Int) :
    (init env connect host clocks).Inv where
  wf := Clients.init_wf connect
  engines_none _ _ := rfl
  impl _ _ := nofun
  distinct _ _ _ _ _ := nofun
  sharedThis _ _ := nofun
  rwMade _ _ := nofun
  roMade _ _ := nofun
  rwFresh _ _ := ⟨rfl, rfl⟩
  roFresh _ _ := ⟨rfl, rfl⟩

theorem Inv.lt_of_impl? (hd : d.Inv) {e : CustomKvEngineImpl} (h : d.impl? n = some e) :
    n < d.nextEngine :=
  Nat.lt_of_not_le fun hn => by simp [impl?, hd.engines_none n hn] at h

/-- `Keeps` reads only the impls and the client table. -/
theorem keeps_eq {d' : Deployment} (himpl : d'.impl? = d.impl?)
    (ht : d'.clients.table = d.clients.table) : d'.Keeps = d.Keeps := by
  funext m
  simp only [Keeps, himpl, ht]

/-! ## Steps that keep every impl -/

/-- Engine `n`'s owners change, its impl does not. -/
theorem impl?_setOwners (hp : d.engines n = some p) (os : List Owner) :
    ({ d with engines := Function.update d.engines n (some { p with owners := os }) } :
      Deployment).impl? = d.impl? := by
  funext n'
  by_cases hn : n' = n
  · subst hn; simp [impl?, hp]
  · simp [impl?, Function.update_noteq hn]

/-- A new owner list for engine `n` that still holds the impl's own pointer keeps the
invariant. -/
theorem Inv.setOwners (hd : d.Inv) (hp : d.engines n = some p) (os : List Owner)
    (hs : Owner.sharedThis ∈ os) :
    { d with engines := Function.update d.engines n (some { p with owners := os }) }.Inv := by
  have himpl := impl?_setOwners hp os
  have hkeeps := keeps_eq himpl rfl
  refine ⟨hd.wf, fun n' hn' => ?_, fun n' e h => hd.impl n' e (himpl ▸ h),
    fun n₁ n₂ e₁ e₂ c h₁ h₂ => hd.distinct n₁ n₂ e₁ e₂ c (himpl ▸ h₁) (himpl ▸ h₂),
    fun n' p' h => ?_, fun i m h => hkeeps ▸ hd.rwMade i m h,
    fun i m h => hkeeps ▸ hd.roMade i m h, hd.rwFresh, hd.roFresh⟩
  · have : n' ≠ n := fun h => by
      subst h; simp [hd.engines_none _ hn'] at hp
    simpa [Function.update_noteq this] using hd.engines_none n' hn'
  · rcases update_eq_some.mp h with ⟨rfl, rfl⟩ | ⟨-, h⟩
    · exact ⟨hs, (hd.sharedThis _ _ hp).2⟩
    · exact hd.sharedThis n' p' h

theorem release_of_inv (hd : d.Inv) (hp : d.engines n = some p) {o : Owner}
    (ho : o ≠ .sharedThis) :
    d.release n o =
      { d with
        engines := Function.update d.engines n (some { p with owners := p.owners.erase o }) } :=
  by simp [release, hp, SharedImpl.release_of_sharedThis (hd.sharedThis n p hp).1 ho]

theorem Inv.release (hd : d.Inv) (n : Nat) {o : Owner} (ho : o ≠ .sharedThis) :
    (d.release n o).Inv := by
  cases hp : d.engines n with
  | none => simpa [Deployment.release, hp] using hd
  | some p =>
    rw [release_of_inv hd hp ho]
    exact hd.setOwners hp _ ((List.mem_erase_of_ne (Ne.symm ho)).mpr (hd.sharedThis n p hp).1)

theorem Inv.destroy (hd : d.Inv) (n : Nat) : (d.destroy n).Inv := by
  unfold Deployment.destroy
  split
  · exact hd.release n nofun
  · exact hd

theorem createReadWriteTransaction_of_healthy (h : d.engine? n = some p) {c : Nat}
    (hh : p.impl.healthy = true) (hc : p.impl.clientHandle = some c) :
    d.createReadWriteTransaction n = { d with
      engines := Function.update d.engines n
        (some { p with owners := p.owners ++ [.readWrite d.nextRw] })
      rwMade := Function.update d.rwMade d.nextRw
        (some ⟨n, some c, d.clients.table.events.length, true⟩)
      nextRw := d.nextRw + 1
      sys := { d.sys with rw := Function.update d.sys.rw d.nextRw (.create true) } } := by
  simp [createReadWriteTransaction, h, CustomKvEngineImpl.createReadWriteTransaction,
    CustomKvEngineImpl.createTransaction, hh, hc]

theorem Inv.createReadWriteTransaction (hd : d.Inv) (n : Nat) :
    (d.createReadWriteTransaction n).Inv := by
  cases h : d.engine? n with
  | none => simpa [Deployment.createReadWriteTransaction, h] using hd
  | some p =>
    obtain ⟨hp, -⟩ := engine?_eq_some.mp h
    have hi := hd.impl n p.impl (by simp [impl?, hp])
    cases hh : p.impl.healthy
    · simpa [Deployment.createReadWriteTransaction, h,
        CustomKvEngineImpl.createReadWriteTransaction,
        CustomKvEngineImpl.createTransaction, hh] using hd
    obtain ⟨c, hc⟩ := Option.isSome_iff_exists.mp (hi.healthy_eq ▸ hh)
    rw [createReadWriteTransaction_of_healthy h hh hc]
    have hs := hd.setOwners hp (p.owners ++ [.readWrite d.nextRw])
      (List.mem_append_left _ (hd.sharedThis n p hp).1)
    refine { hs with rwMade := fun i m hm => ?_, rwFresh := fun i hi => ?_ }
    · dsimp only at hm
      by_cases hi : i = d.nextRw
      · subst hi
        simp only [Function.update_same, Option.some.injEq] at hm
        subst hm
        exact ⟨p.impl, c, by simp [impl?], rfl, le_rfl, .inl hc⟩
      · exact hs.rwMade i m (by simpa [Function.update_noteq hi] using hm)
    · dsimp only at hi ⊢
      have hne : i ≠ d.nextRw := by omega
      simpa [Function.update_noteq hne] using hd.rwFresh i (by omega)

theorem createReadonlyTransaction_of_healthy (h : d.engine? n = some p) {c : Nat}
    (hh : p.impl.healthy = true) (hc : p.impl.clientHandle = some c) :
    d.createReadonlyTransaction n = { d with
      engines := Function.update d.engines n
        (some { p with owners := p.owners ++ [.readOnly d.nextRo] })
      roMade := Function.update d.roMade d.nextRo
        (some ⟨n, some c, d.clients.table.events.length, true⟩)
      nextRo := d.nextRo + 1
      sys := { d.sys with ro := Function.update d.sys.ro d.nextRo (.create true) } } := by
  simp [createReadonlyTransaction, h, CustomKvEngineImpl.createReadonlyTransaction,
    CustomKvEngineImpl.createTransaction, hh, hc]

theorem Inv.createReadonlyTransaction (hd : d.Inv) (n : Nat) :
    (d.createReadonlyTransaction n).Inv := by
  cases h : d.engine? n with
  | none => simpa [Deployment.createReadonlyTransaction, h] using hd
  | some p =>
    obtain ⟨hp, -⟩ := engine?_eq_some.mp h
    have hi := hd.impl n p.impl (by simp [impl?, hp])
    cases hh : p.impl.healthy
    · simpa [Deployment.createReadonlyTransaction, h, CustomKvEngineImpl.createReadonlyTransaction,
        CustomKvEngineImpl.createTransaction, hh] using hd
    obtain ⟨c, hc⟩ := Option.isSome_iff_exists.mp (hi.healthy_eq ▸ hh)
    rw [createReadonlyTransaction_of_healthy h hh hc]
    have hs := hd.setOwners hp (p.owners ++ [.readOnly d.nextRo])
      (List.mem_append_left _ (hd.sharedThis n p hp).1)
    refine { hs with roMade := fun i m hm => ?_, roFresh := fun i hi => ?_ }
    · dsimp only at hm
      by_cases hi : i = d.nextRo
      · subst hi
        simp only [Function.update_same, Option.some.injEq] at hm
        subst hm
        exact ⟨p.impl, c, by simp [impl?], rfl, le_rfl, .inl hc⟩
      · exact hs.roMade i m (by simpa [Function.update_noteq hi] using hm)
    · dsimp only at hi ⊢
      have hne : i ≠ d.nextRo := by omega
      simpa [Function.update_noteq hne] using hd.roFresh i (by omega)

/-- A destroyed read-write transaction is marked so; what it keeps does not change. -/
theorem Inv.killReadWrite (hd : d.Inv) {m : Made} (hm : d.rwMade i = some m) :
    { d with rwMade := Function.update d.rwMade i (some { m with alive := false }) }.Inv := by
  refine { hd with rwMade := fun j m' h => ?_, rwFresh := fun j hj => ?_ }
  · dsimp only at h
    by_cases hj : j = i
    · subst hj
      simp only [Function.update_same, Option.some.injEq] at h
      subst h
      exact hd.rwMade _ m hm
    · exact hd.rwMade j m' (by simpa [Function.update_noteq hj] using h)
  · dsimp only at hj ⊢
    have : j ≠ i := fun h => by subst h; simp [(hd.rwFresh _ hj).1] at hm
    simpa [Function.update_noteq this] using hd.rwFresh j hj

theorem Inv.killReadonly (hd : d.Inv) {m : Made} (hm : d.roMade i = some m) :
    { d with roMade := Function.update d.roMade i (some { m with alive := false }) }.Inv := by
  refine { hd with roMade := fun j m' h => ?_, roFresh := fun j hj => ?_ }
  · dsimp only at h
    by_cases hj : j = i
    · subst hj
      simp only [Function.update_same, Option.some.injEq] at h
      subst h
      exact hd.roMade _ m hm
    · exact hd.roMade j m' (by simpa [Function.update_noteq hj] using h)
  · dsimp only at hj ⊢
    have : j ≠ i := fun h => by subst h; simp [(hd.roFresh _ hj).1] at hm
    simpa [Function.update_noteq this] using hd.roFresh j hj

/-- The destructor of a read-write transaction changes nothing; then its `engine_` goes. -/
theorem destroyReadWrite_of_alive {m : Made} (hm : d.rwMade i = some m) (ha : m.alive = true) :
    d.destroyReadWrite i =
      { d with rwMade := Function.update d.rwMade i (some { m with alive := false }) }.release
        m.engine (.readWrite i) := by
  simp [destroyReadWrite, hm, ha]

theorem destroyReadonly_of_alive {m : Made} (hm : d.roMade i = some m) (ha : m.alive = true) :
    d.destroyReadonly i =
      { d with roMade := Function.update d.roMade i (some { m with alive := false }) }.release
        m.engine (.readOnly i) := by
  simp [destroyReadonly, hm, ha]

theorem Inv.destroyReadWrite (hd : d.Inv) (i : Nat) : (d.destroyReadWrite i).Inv := by
  cases hm : d.rwMade i with
  | none => simpa [Deployment.destroyReadWrite, hm] using hd
  | some m =>
    cases ha : m.alive
    · simpa [Deployment.destroyReadWrite, hm, ha] using hd
    · rw [destroyReadWrite_of_alive hm ha]
      exact (hd.killReadWrite hm).release _ nofun

theorem Inv.destroyReadonly (hd : d.Inv) (i : Nat) : (d.destroyReadonly i).Inv := by
  cases hm : d.roMade i with
  | none => simpa [Deployment.destroyReadonly, hm] using hd
  | some m =>
    cases ha : m.alive
    · simpa [Deployment.destroyReadonly, hm, ha] using hd
    · rw [destroyReadonly_of_alive hm ha]
      exact (hd.killReadonly hm).release _ nofun

theorem Inv.act (hd : d.Inv) (a : Action) : (d.act a).Inv := by
  unfold Deployment.act
  split
  swap
  · exact hd
  rename_i ha
  split
  · exact { hd with }
  have hrw : ∀ i, d.nextRw ≤ i → (d.sys.step a).rw i = .create true := fun i hi => by
    cases a with
    | rw j c =>
      have hj : i ≠ j := fun h => by subst h; simp [allows, (hd.rwFresh i hi).1] at ha
      simpa [Function.update_noteq hj] using (hd.rwFresh i hi).2
    | ro | tick => simpa using (hd.rwFresh i hi).2
  have hro : ∀ i, d.nextRo ≤ i → (d.sys.step a).ro i = .create true := fun i hi => by
    cases a with
    | ro j c =>
      have hj : i ≠ j := fun h => by subst h; simp [allows, (hd.roFresh i hi).1] at ha
      simpa [Function.update_noteq hj] using (hd.roFresh i hi).2
    | rw | tick => simpa using (hd.roFresh i hi).2
  exact { hd with
    rwFresh := fun i hi => ⟨(hd.rwFresh i hi).1, hrw i hi⟩
    roFresh := fun i hi => ⟨(hd.roFresh i hi).1, hro i hi⟩ }

/-! ## Steps that connect an engine -/

theorem impl?_update {d' : Deployment} {q : SharedImpl}
    (h : d'.engines = Function.update d.engines n (some q)) {n' : Nat} {e : CustomKvEngineImpl} :
    d'.impl? n' = some e ↔ n' = n ∧ q.impl = e ∨ n' ≠ n ∧ d.impl? n' = some e := by
  by_cases hn : n' = n
  · subst hn; simp only [impl?, h, Function.update_same, Option.map_some', Option.some.injEq,
      true_and, ne_eq, not_true_eq_false, Option.map_eq_some', false_and, or_false]
  · simp only [impl?, h, ne_eq, hn, not_false_eq_true, Function.update_noteq, Option.map_eq_some',
      false_and, true_and, false_or]

/-- Engine `n` gets an impl that `initialize` has connected from a table `t₀` in which every
other engine's client is live, and whose history is that of `d` followed by the destruction of
engine `n`'s client: the invariant is kept. -/
theorem Inv.connect (hd : d.Inv) {d' : Deployment} {e₀ : CustomKvEngineImpl} {t₀ : ClientTable}
    {q : SharedImpl} (hC : e₀.Connected t₀ q.impl d'.clients.table)
    (hlive : ∀ n' e c, n' ≠ n → d.impl? n' = some e → e.clientHandle = some c → t₀.Live c)
    (hgrow : ∃ post, t₀.events = d.clients.table.events ++ post ∧
      ∀ c e, d.impl? n = some e → e.clientHandle = some c → .destroy c ∈ post)
    (hq : Owner.sharedThis ∈ q.owners ∧ q.destroyed = false)
    (heng : d'.engines = Function.update d.engines n (some q))
    (hnext : ∀ n', d'.nextEngine ≤ n' → n' ≠ n ∧ d.nextEngine ≤ n')
    (hrw : d'.rwMade = d.rwMade) (hro : d'.roMade = d.roMade) (hnrw : d'.nextRw = d.nextRw)
    (hnro : d'.nextRo = d.nextRo) (hsys : d'.sys = d.sys) : d'.Inv := by
  obtain ⟨post, h₀, hpost⟩ := hgrow
  obtain ⟨post', h', -⟩ := hC.grows
  have hev : d'.clients.table.events = d.clients.table.events ++ (post ++ post') := by
    rw [h', h₀, List.append_assoc]
  have hkeeps : ∀ m, d.Keeps m → d'.Keeps m := by
    rintro m ⟨e, c, he, hc, hs, hk⟩
    have hs' : m.since ≤ d'.clients.table.events.length :=
      hs.trans (hev ▸ (List.prefix_append _ _).length_le)
    have hsince := ClientTable.destroyedSince_append (a := c) hev hs
    by_cases hn : m.engine = n
    · refine ⟨q.impl, c, (impl?_update heng).mpr (.inl ⟨hn, rfl⟩), hc, hs', .inr ?_⟩
      rcases hk with hk | hk
      · exact hsince.mpr (.inr (List.mem_append_left _ (hpost c e (hn ▸ he) hk)))
      · exact hsince.mpr (.inl hk)
    · exact ⟨e, c, (impl?_update heng).mpr (.inr ⟨hn, he⟩), hc, hs',
        hk.imp id fun h => hsince.mpr (.inl h)⟩
  refine ⟨hC.wf, fun n' h => ?_, fun n' e h => ?_, fun n₁ n₂ e₁ e₂ c h₁ h₂ hc₁ hc₂ => ?_,
    fun n' p' h => ?_, fun i m h => hkeeps m (hd.rwMade i m (hrw ▸ h)),
    fun i m h => hkeeps m (hd.roMade i m (hro ▸ h)), hrw ▸ hnrw ▸ hsys ▸ hd.rwFresh,
    hro ▸ hnro ▸ hsys ▸ hd.roFresh⟩
  · obtain ⟨hn, hle⟩ := hnext n' h
    rw [heng, Function.update_noteq hn]
    exact hd.engines_none n' hle
  · rcases (impl?_update heng).mp h with ⟨-, rfl⟩ | ⟨hn, h⟩
    · exact hC.inv
    · exact ⟨(hd.impl n' e h).healthy_eq, fun c hc => hC.live c (hlive n' e c hn h hc)⟩
  · -- the client connected to is at an address no live client had: no other engine holds it
    have hnew : ∀ n' e, n' ≠ n → d.impl? n' = some e → e.clientHandle = some c →
        q.impl.clientHandle ≠ some c := fun n' e hn h hc hq => hC.fresh c hq (hlive n' e c hn h hc)
    rcases (impl?_update heng).mp h₁ with ⟨rfl, rfl⟩ | ⟨hn₁, h₁⟩ <;>
      rcases (impl?_update heng).mp h₂ with ⟨rfl, rfl⟩ | ⟨hn₂, h₂⟩
    · rfl
    · exact absurd hc₁ (hnew n₂ e₂ hn₂ h₂ hc₂)
    · exact absurd hc₂ (hnew n₁ e₁ hn₁ h₁ hc₁)
    · exact hd.distinct n₁ n₂ e₁ e₂ c h₁ h₂ hc₁ hc₂
  · rw [heng] at h
    rcases update_eq_some.mp h with ⟨-, rfl⟩ | ⟨-, h⟩
    · exact hq
    · exact hd.sharedThis n' p' h

theorem construct_eq (config : CustomKvEngineConfig) :
    d.construct config = { d with
      clients := (CustomKvEngineImpl.create config d.clients).2
      engines := Function.update d.engines d.nextEngine
        (some ⟨(CustomKvEngineImpl.create config d.clients).1, [.engine, .sharedThis], false⟩)
      nextEngine := d.nextEngine + 1 } := rfl

theorem reconnect_of_engine? (h : d.engine? n = some p) :
    d.reconnect n = { d with
      clients := (CustomKvEngineImpl.reconnect (p.impl, d.clients)).2.2
      engines := Function.update d.engines n
        (some { p with impl := (CustomKvEngineImpl.reconnect (p.impl, d.clients)).2.1 }) } := by
  simp only [reconnect, h]

theorem Inv.construct (hd : d.Inv) (config : CustomKvEngineConfig) : (d.construct config).Inv := by
  rw [construct_eq]
  exact hd.connect (n := d.nextEngine) (CustomKvEngineImpl.initializeEngine_connected rfl hd.wf)
    (fun _ e c _ h hc => (hd.impl _ e h).live c hc)
    ⟨[], (List.append_nil _).symm, fun _ _ he => by simp [impl?, hd.engines_none _ le_rfl] at he⟩
    ⟨by simp, rfl⟩ rfl (fun n' h => ⟨by simp at h; omega, by simp at h; omega⟩) rfl rfl rfl rfl rfl

theorem Inv.reconnect (hd : d.Inv) (n : Nat) : (d.reconnect n).Inv := by
  cases h : d.engine? n with
  | none => simpa [Deployment.reconnect, h] using hd
  | some p =>
    obtain ⟨hp, -⟩ := engine?_eq_some.mp h
    have hpi : d.impl? n = some p.impl := by simp [impl?, hp]
    obtain ⟨t₀, hev, hlive, hC⟩ :=
      CustomKvEngineImpl.reconnect_connected (hd.impl n p.impl hpi) hd.wf
    rw [reconnect_of_engine? h]
    refine hd.connect (n := n)
      (q := { p with impl := (CustomKvEngineImpl.reconnect (p.impl, d.clients)).2.1 }) hC
      (fun n' e c hn he hc => hlive c ((hd.impl n' e he).live c hc)
        fun hc' => hn (hd.distinct n' n e p.impl c he hpi hc hc'))
      ⟨_, hev, fun c e he hc => by simp [← Option.some.inj (hpi.symm.trans he) ▸ hc]⟩
      (hd.sharedThis n p hp) rfl (fun n' h => ⟨?_, h⟩) rfl rfl rfl rfl rfl
    · rintro rfl
      simp [hd.engines_none _ h] at hp

theorem Inv.step (hd : d.Inv) : ∀ op, (d.step op).Inv
  | .construct config => hd.construct config
  | .reconnect n => hd.reconnect n
  | .destroy n => hd.destroy n
  | .createReadWriteTransaction n => hd.createReadWriteTransaction n
  | .createReadonlyTransaction n => hd.createReadonlyTransaction n
  | .destroyReadWrite i => hd.destroyReadWrite i
  | .destroyReadonly i => hd.destroyReadonly i
  | .act a => hd.act a

theorem Inv.run (hd : d.Inv) (ops : List Op) : (d.run ops).Inv := by
  induction ops generalizing d with
  | nil => exact hd
  | cons op ops ih =>
    rw [run_cons]
    split
    · exact ih hd
    · exact ih (hd.step op)

theorem Reachable.inv (h : d.Reachable) : d.Inv := by
  obtain ⟨env, connect, host, clocks, ops, rfl⟩ := h
  exact (Inv.init env connect host clocks).run ops

/-! ## Runs of engines are runs of the transaction system -/

@[simp] theorem release_sys (d : Deployment) (n : Nat) (o : Owner) :
    (d.release n o).sys = d.sys := by
  unfold Deployment.release
  split <;> rfl

/-- Making a transaction puts at a free id the transaction `System` already has there. -/
theorem Inv.createReadWriteTransaction_sys (hd : d.Inv) (n : Nat) :
    (d.createReadWriteTransaction n).sys = d.sys := by
  cases h : d.engine? n with
  | none => simp [Deployment.createReadWriteTransaction, h]
  | some p =>
    obtain ⟨hp, -⟩ := engine?_eq_some.mp h
    have hi := hd.impl n p.impl (by simp [impl?, hp])
    cases hh : p.impl.healthy
    · simp [Deployment.createReadWriteTransaction, h, CustomKvEngineImpl.createReadWriteTransaction,
        CustomKvEngineImpl.createTransaction, hh]
    obtain ⟨c, hc⟩ := Option.isSome_iff_exists.mp (hi.healthy_eq ▸ hh)
    rw [createReadWriteTransaction_of_healthy h hh hc, ← (hd.rwFresh _ le_rfl).2,
      Function.update_eq_self]

theorem Inv.createReadonlyTransaction_sys (hd : d.Inv) (n : Nat) :
    (d.createReadonlyTransaction n).sys = d.sys := by
  cases h : d.engine? n with
  | none => simp [Deployment.createReadonlyTransaction, h]
  | some p =>
    obtain ⟨hp, -⟩ := engine?_eq_some.mp h
    have hi := hd.impl n p.impl (by simp [impl?, hp])
    cases hh : p.impl.healthy
    · simp [Deployment.createReadonlyTransaction, h, CustomKvEngineImpl.createReadonlyTransaction,
        CustomKvEngineImpl.createTransaction, hh]
    obtain ⟨c, hc⟩ := Option.isSome_iff_exists.mp (hi.healthy_eq ▸ hh)
    rw [createReadonlyTransaction_of_healthy h hh hc, ← (hd.roFresh _ le_rfl).2,
      Function.update_eq_self]

/-- **A step of engines is at most one step of `System`**: making, destroying and reconnecting
engines, and making and destroying transactions, leave the transactions and the server as they
are; a call on a transaction that exists is the same step of `System`. -/
theorem Inv.sys_step (hd : d.Inv) : ∀ op, ∃ as, (d.step op).sys = d.sys.run as
  | .construct _ => ⟨[], rfl⟩
  | .reconnect n => ⟨[], show (d.reconnect n).sys = d.sys by
    cases h : d.engine? n
    · simp [Deployment.reconnect, h]
    · rw [reconnect_of_engine? h]⟩
  | .destroy n => ⟨[], show (d.destroy n).sys = d.sys by
    unfold Deployment.destroy
    split <;> simp⟩
  | .createReadWriteTransaction n => ⟨[], hd.createReadWriteTransaction_sys n⟩
  | .createReadonlyTransaction n => ⟨[], hd.createReadonlyTransaction_sys n⟩
  | .destroyReadWrite i => ⟨[], show (d.destroyReadWrite i).sys = d.sys by
    unfold Deployment.destroyReadWrite
    split
    · split <;> simp
    · rfl⟩
  | .destroyReadonly i => ⟨[], show (d.destroyReadonly i).sys = d.sys by
    unfold Deployment.destroyReadonly
    split
    · split <;> simp
    · rfl⟩
  | .act a => by
    show ∃ as, (d.act a).sys = d.sys.run as
    unfold Deployment.act
    split
    · split
      · exact ⟨[], rfl⟩
      · exact ⟨[a], rfl⟩
    · exact ⟨[], rfl⟩

theorem Inv.sys_run (hd : d.Inv) (ops : List Op) : ∃ as, (d.run ops).sys = d.sys.run as := by
  induction ops generalizing d with
  | nil => exact ⟨[], rfl⟩
  | cons op ops ih =>
    rw [run_cons]
    split
    · exact ih hd
    · obtain ⟨as, has⟩ := hd.sys_step op
      obtain ⟨bs, hbs⟩ := ih (hd.step op)
      exact ⟨as ++ bs, by rw [hbs, has, System.run_append]⟩

end Deployment

end CustomKv
