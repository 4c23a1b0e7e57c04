import CustomKv.ReadOnly
import CustomKv.ReadWrite

/-!
# Many transactions against one server

Clients of any number of `CustomKvEngine`s, in any processes on any hosts, share one KV server.
A `System` holds the world, every read-write and read-only transaction by id, and the steady
clock of every host: `std::chrono::steady_clock` is the host's monotonic clock, which all its
processes share. Each read-write transaction runs on one host, whose clock its `commit` reads. A
step runs one call of one transaction to its end, or advances the clock of a host; a run is any
interleaving of such steps. The system keeps the trace of every step with
its outcome.
-/

namespace CustomKv

/-- A call of a caller on a read-write transaction. -/
inductive RwCall where
  | setReadVersion (version : Int)
  | snapshotGet (key : Bytes)
  | get (key : Bytes)
  | snapshotGetRange (b e : KeySelector) (limit : Int)
  | getRange (b e : KeySelector) (limit : Int)
  | cancel
  | reset
  | addReadConflict (key : Bytes)
  | addReadConflictRange (b e : Bytes)
  | set (key value : Bytes)
  | clear (key : Bytes)
  | setVersionstampedKey (key : Bytes) (offset : UInt32) (value : Bytes)
  | setVersionstampedValue (key value : Bytes) (offset : UInt32)
  | commit
  | getCommittedVersion
deriving DecidableEq, Repr

/-- A call of a caller on a read-only transaction. -/
inductive RoCall where
  | setReadVersion (version : Int)
  | snapshotGet (key : Bytes)
  | get (key : Bytes)
  | snapshotGetRange (b e : KeySelector) (limit : Int)
  | getRange (b e : KeySelector) (limit : Int)
  | cancel
  | reset
deriving DecidableEq, Repr

/-- What a call hands back. -/
inductive Answer where
  | done
  | unit (r : Result Unit)
  | value (r : Result (Option Bytes))
  | range (r : Result GetRangeResult)
  | version (v : Int)
deriving DecidableEq, Repr

def RwCall.run : RwCall → CustomTransaction.CoTask Answer
  | .setReadVersion v => (fun _ => .done) <$> CustomTransaction.setReadVersion v
  | .snapshotGet k => .value <$> CustomTransaction.snapshotGet k
  | .get k => .value <$> CustomTransaction.get k
  | .snapshotGetRange b e l => .range <$> CustomTransaction.snapshotGetRange b e l
  | .getRange b e l => .range <$> CustomTransaction.getRange b e l
  | .cancel => .unit <$> CustomTransaction.cancel
  | .reset => (fun _ => .done) <$> CustomTransaction.reset
  | .addReadConflict k => .unit <$> CustomTransaction.addReadConflict k
  | .addReadConflictRange b e => .unit <$> CustomTransaction.addReadConflictRange b e
  | .set k v => .unit <$> CustomTransaction.set k v
  | .clear k => .unit <$> CustomTransaction.clear k
  | .setVersionstampedKey k o v => .unit <$> CustomTransaction.setVersionstampedKey k o v
  | .setVersionstampedValue k v o => .unit <$> CustomTransaction.setVersionstampedValue k v o
  | .commit => .unit <$> CustomTransaction.commit
  | .getCommittedVersion => fun s =>
    (.ret (.version (CustomTransaction.getCommittedVersion s.1)), s)

def RoCall.run : RoCall → CustomReadOnlyTransaction.CoTask Answer
  | .setReadVersion v => (fun _ => .done) <$> CustomReadOnlyTransaction.setReadVersion v
  | .snapshotGet k => .value <$> CustomReadOnlyTransaction.snapshotGet k
  | .get k => .value <$> CustomReadOnlyTransaction.get k
  | .snapshotGetRange b e l => .range <$> CustomReadOnlyTransaction.snapshotGetRange b e l
  | .getRange b e l => .range <$> CustomReadOnlyTransaction.getRange b e l
  | .cancel => .unit <$> CustomReadOnlyTransaction.cancel
  | .reset => (fun _ => .done) <$> CustomReadOnlyTransaction.reset

/-- One caller's calls on one read-write transaction, in order, each with its outcome; a call that
throws does not stop the caller. -/
def RwCall.runAll : List RwCall → CustomTransaction × World →
    List (Outcome Answer) × (CustomTransaction × World)
  | [], s => ([], s)
  | c :: cs, s =>
    let (o, s) := c.run s
    let (os, s) := RwCall.runAll cs s
    (o :: os, s)

@[simp] theorem RwCall.runAll_nil (s : CustomTransaction × World) : RwCall.runAll [] s = ([], s) :=
  rfl

@[simp] theorem RwCall.runAll_cons (c : RwCall) (cs : List RwCall)
    (s : CustomTransaction × World) :
    RwCall.runAll (c :: cs) s =
      ((c.run s).1 :: (RwCall.runAll cs (c.run s).2).1, (RwCall.runAll cs (c.run s).2).2) := rfl

/-- One caller's calls on one read-only transaction, in order, each with its outcome. -/
def RoCall.runAll : List RoCall → CustomReadOnlyTransaction × World →
    List (Outcome Answer) × (CustomReadOnlyTransaction × World)
  | [], s => ([], s)
  | c :: cs, s =>
    let (o, s) := c.run s
    let (os, s) := RoCall.runAll cs s
    (o :: os, s)

@[simp] theorem RoCall.runAll_nil (s : CustomReadOnlyTransaction × World) :
    RoCall.runAll [] s = ([], s) := rfl

@[simp] theorem RoCall.runAll_cons (c : RoCall) (cs : List RoCall)
    (s : CustomReadOnlyTransaction × World) :
    RoCall.runAll (c :: cs) s =
      ((c.run s).1 :: (RoCall.runAll cs (c.run s).2).1, (RoCall.runAll cs (c.run s).2).2) := rfl

/-- A step of the system. -/
inductive Action where
  | rw (id : Nat) (call : RwCall)
  | ro (id : Nat) (call : RoCall)
  /-- The steady clock of a host advances. -/
  | tick (host : Nat) (micros : Nat)
deriving DecidableEq, Repr

/-- A step with the outcome its call had; a tick has none. -/
structure Event where
  action : Action
  outcome : Option (Outcome Answer)

structure System where
  world : World
  rw : Nat → CustomTransaction
  ro : Nat → CustomReadOnlyTransaction
  /-- The host each read-write transaction runs on. -/
  host : Nat → Nat
  /-- The steady clock of each host, in microseconds. -/
  clocks : Nat → Int
  trace : List Event

namespace System

/-- Engines that are up: every transaction has its client handle, and none has been used. -/
def init (env : Env) (host : Nat → Nat) (clocks : Nat → Int) : System :=
  ⟨World.init env 0, fun _ => CustomTransaction.create true,
    fun _ => CustomReadOnlyTransaction.create true, host, clocks, []⟩

def step (s : System) : Action → System
  | .rw i c =>
    let (o, t, w) := c.run (s.rw i, { s.world with clock := s.clocks (s.host i) })
    { s with world := w, rw := Function.update s.rw i t,
             trace := s.trace ++ [⟨.rw i c, some o⟩] }
  | .ro i c =>
    let (o, t, w) := c.run (s.ro i, s.world)
    { s with world := w, ro := Function.update s.ro i t,
             trace := s.trace ++ [⟨.ro i c, some o⟩] }
  | .tick p d =>
    { s with clocks := Function.update s.clocks p (s.clocks p + d),
             trace := s.trace ++ [⟨.tick p d, none⟩] }

def run (s : System) (as : List Action) : System := as.foldl step s

@[simp] theorem run_nil (s : System) : s.run [] = s := rfl

@[simp] theorem run_cons (s : System) (a : Action) (as : List Action) :
    s.run (a :: as) = (s.step a).run as := rfl

theorem run_append (s : System) (as bs : List Action) :
    s.run (as ++ bs) = (s.run as).run bs := List.foldl_append ..

/-- The outcome of the last step. -/
def lastOutcome (s : System) : Option (Outcome Answer) := s.trace.getLast?.bind (·.outcome)

/-- The world a read-write transaction's call runs in: its host's clock is the one it reads. -/
def rwWorld (s : System) (i : Nat) : World := { s.world with clock := s.clocks (s.host i) }

@[simp] theorem rwWorld_server (s : System) (i : Nat) : (s.rwWorld i).server = s.world.server :=
  rfl

@[simp] theorem rwWorld_env (s : System) (i : Nat) : (s.rwWorld i).env = s.world.env := rfl

@[simp] theorem step_rw (s : System) (i : Nat) (c : RwCall) :
    s.step (.rw i c) =
      { s with
        world := (c.run (s.rw i, s.rwWorld i)).2.2
        rw := Function.update s.rw i (c.run (s.rw i, s.rwWorld i)).2.1
        trace := s.trace ++ [⟨.rw i c, some (c.run (s.rw i, s.rwWorld i)).1⟩] } := rfl

@[simp] theorem step_ro (s : System) (i : Nat) (c : RoCall) :
    s.step (.ro i c) =
      { s with
        world := (c.run (s.ro i, s.world)).2.2
        ro := Function.update s.ro i (c.run (s.ro i, s.world)).2.1
        trace := s.trace ++ [⟨.ro i c, some (c.run (s.ro i, s.world)).1⟩] } := rfl

@[simp] theorem step_tick (s : System) (p d : Nat) :
    s.step (.tick p d) =
      { s with
        clocks := Function.update s.clocks p (s.clocks p + d)
        trace := s.trace ++ [⟨.tick p d, none⟩] } := rfl

@[simp] theorem lastOutcome_step_rw (s : System) (i : Nat) (c : RwCall) :
    (s.step (.rw i c)).lastOutcome = some (c.run (s.rw i, s.rwWorld i)).1 := by
  simp [lastOutcome]

theorem world_step_rw (s : System) (i : Nat) (c : RwCall) :
    (s.step (.rw i c)).world = (c.run (s.rw i, s.rwWorld i)).2.2 := rfl

@[simp] theorem lastOutcome_step_ro (s : System) (i : Nat) (c : RoCall) :
    (s.step (.ro i c)).lastOutcome = some (c.run (s.ro i, s.world)).1 := by
  simp [lastOutcome]

/-- A step appends one entry to the trace, the last outcome. -/
theorem trace_step (s : System) (a : Action) :
    (s.step a).trace = s.trace ++ [⟨a, (s.step a).lastOutcome⟩] := by
  cases a <;> simp [lastOutcome]

@[simp] theorem step_host (s : System) (a : Action) : (s.step a).host = s.host := by
  cases a <;> rfl

theorem run_host (s : System) (as : List Action) : (s.run as).host = s.host := by
  induction as generalizing s <;> simp_all

end System

end CustomKv
