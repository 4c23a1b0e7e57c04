import CustomKv.Server.Selector

/-!
# The transactional KV server

The Rust server behind `kvstore_client.h` is not part of the sources; this module models it as
the wrapper's comments and the client API describe it. It is a multi-version store with
optimistic concurrency: the committed history is a list of write sets, the `n`-th of which
(from `1`) has version `n`; a read-write transaction reads the version that was latest when it
began, overlaid with its own pending sets and clears; its point and range reads record read
conflicts; and its commit fails with a conflict exactly when a commit after its read version
wrote a key that a recorded read covers. Only what the wrapper sends is checked: nothing else
reaches the server.

At commit the server gives each mutation of the transaction the 10-byte versionstamp
`{commit_version (8, big-endian), intra_txn_seq (2)}` and overwrites the last 10 bytes of the
buffer of a versionstamped key or value with it.
-/

namespace CustomKv

/-- Modelled from the spec: a mutation of a read-write transaction, kept by the server until the
transaction commits. -/
inductive Mutation where
  | set (key value : Bytes)
  | clear (key : Bytes)
  | setVersionstampedKey (key value : Bytes)
  | setVersionstampedValue (key value : Bytes)
deriving DecidableEq, Repr

/-- Modelled from the spec: what a read records for conflict detection, a key for `get` and the
range `[begin, end)` for `get_range`. -/
inductive ReadConflict where
  | point (key : Bytes)
  | range (b e : Bytes)
deriving DecidableEq, Repr

def ReadConflict.covers : ReadConflict → Bytes → Bool
  | .point k, x => decide (x = k)
  | .range b e, x => decide (b ≤ x ∧ x < e)

/-- Modelled from the spec: the server's state of an open read-write transaction. -/
structure ServerTxn where
  readVersion : Nat
  reads : List ReadConflict
  mutations : List Mutation
deriving DecidableEq, Repr

/-- The error codes `kvstore_client.h` reports (`KV_ERROR_*`). The macros' values are not under
`src/`; the wrapper's `switch` needs the three it names distinct, and the model keeps them so. -/
inductive KvErrorCode where
  | transactionConflict
  | transactionTimeout
  | transactionNotFound
  | other (code : Int)
deriving DecidableEq, Repr

/-- The text `fmt::format` prints for a code; for the named macros the model prints the name. -/
def KvErrorCode.text : KvErrorCode → String
  | .transactionConflict => "KV_ERROR_TRANSACTION_CONFLICT"
  | .transactionTimeout => "KV_ERROR_TRANSACTION_TIMEOUT"
  | .transactionNotFound => "KV_ERROR_TRANSACTION_NOT_FOUND"
  | .other code => toString code

/-- `KvResult`: success, or an error code with an optional message. -/
structure KvResult where
  success : Bool
  errorCode : KvErrorCode
  errorMessage : Option String
deriving DecidableEq, Repr

def KvResult.ok : KvResult := ⟨true, .other 0, none⟩

def KvResult.fail (code : KvErrorCode) (message : Option String) : KvResult :=
  ⟨false, code, message⟩

@[simp] theorem KvResult.ok_success : KvResult.ok.success = true := rfl

@[simp] theorem KvResult.fail_success (code : KvErrorCode) (message : Option String) :
    (KvResult.fail code message).success = false := rfl

/-- `KvBinaryData`: the bytes of a value, or a null `data` pointer. -/
structure KvBinaryData where
  data : Option Bytes
deriving DecidableEq, Repr

/-- `KvPairArray`: the pairs of a range read and their `count`. -/
structure KvPairArray where
  pairs : List (Bytes × Bytes)
  count : Nat
deriving DecidableEq, Repr

def KvPairArray.ofPairs (pairs : List (Bytes × Bytes)) : KvPairArray := ⟨pairs, pairs.length⟩

/-- A call of the C API that reaches the server. Handles are positive; `0` is never given out. -/
inductive Request where
  | transactionBegin (timeout : Nat)
  | transactionGet (h : Nat) (key : Bytes)
  | transactionGetRange (h : Nat) (b e : FdbSelector) (limit : Int)
  | transactionSet (h : Nat) (key value : Bytes)
  | transactionDelete (h : Nat) (key : Bytes)
  | transactionSetVersionstampedKey (h : Nat) (key value : Bytes)
  | transactionSetVersionstampedValue (h : Nat) (key value : Bytes)
  | transactionCommit (h : Nat)
  | transactionAbort (h : Nat)
  | readTransactionBegin (version : Int)
  | readTransactionGet (h : Nat) (key : Bytes)
  | readTransactionGetRange (h : Nat) (b e : FdbSelector) (limit : Int)
  | readTransactionDestroy (h : Nat)
deriving DecidableEq, Repr

/-- What a request gets back: the contents of its future, or the `int` of a synchronous call
(`none` for `KV_FUNCTION_SUCCESS`). A handle of `0` is a null pointer. -/
inductive Reply where
  | transaction (h : Nat)
  | readTransaction (h : Nat)
  | value (result : KvResult) (value : KvBinaryData)
  | kvArray (result : KvResult) (pairs : KvPairArray)
  | void (result : KvResult)
  | code (result : Option KvErrorCode)
deriving DecidableEq, Repr

/-- The reply of a request that failed with `code`, without reaching the store. -/
def Request.failure (code : KvErrorCode) (message : Option String) : Request → Reply
  | .transactionBegin _ => .transaction 0
  | .readTransactionBegin _ => .readTransaction 0
  | .transactionGet .. | .readTransactionGet .. => .value (.fail code message) ⟨none⟩
  | .transactionGetRange .. | .readTransactionGetRange .. =>
    .kvArray (.fail code message) (.ofPairs [])
  | .transactionSetVersionstampedKey .. | .transactionSetVersionstampedValue .. => .code code
  | _ => .void (.fail code message)

/-! ## Versionstamps -/

/-- The `w` low bytes of `n`, most significant first. -/
def bigEndian : Nat → Nat → Bytes
  | 0, _ => []
  | w + 1, n => bigEndian w (n / 256) ++ [UInt8.ofNat (n % 256)]

@[simp] theorem length_bigEndian (w n : Nat) : (bigEndian w n).length = w := by
  induction w generalizing n <;> simp_all [bigEndian]

/-- Modelled from the spec: the versionstamp of the mutation at `seq` in the commit `version`. -/
def versionstamp (version seq : Nat) : Bytes := bigEndian 8 version ++ bigEndian 2 seq

@[simp] theorem length_versionstamp (version seq : Nat) :
    (versionstamp version seq).length = 10 := by
  simp [versionstamp]

/-- Modelled from the spec: the server overwrites the last 10 bytes of a buffer with a stamp. -/
def stampBuffer (buf stamp : Bytes) : Bytes := buf.take (buf.length - 10) ++ stamp

/-- The write a mutation makes at commit, with the stamp it is given. -/
def Mutation.write (stamp : Bytes) : Mutation → Bytes × Option Bytes
  | .set k v => (k, some v)
  | .clear k => (k, none)
  | .setVersionstampedKey k v => (stampBuffer k stamp, some v)
  | .setVersionstampedValue k v => (k, some (stampBuffer v stamp))

/-- The writes of a commit at `version`, the mutation at position `seq` stamped with `seq`. -/
def commitWrites (version : Nat) : Nat → List Mutation → List (Bytes × Option Bytes)
  | _, [] => []
  | seq, m :: ms => m.write (versionstamp version seq) :: commitWrites version (seq + 1) ms

/-- A set or clear is visible to the transaction's own reads; a versionstamped mutation, whose
key or value is only known at commit, is not. -/
def Mutation.ownWrite : Mutation → Option (Bytes × Option Bytes)
  | .set k v => some (k, some v)
  | .clear k => some (k, none)
  | _ => none

/-! ## The server -/

/-- Modelled from the spec: the committed history and the open transactions. -/
structure KvServer where
  /-- The write sets of the committed transactions, oldest first; the `n`-th has version `n`. -/
  commits : List (List (Bytes × Option Bytes))
  txns : Nat → Option ServerTxn
  /-- The version each open read transaction reads. -/
  readTxns : Nat → Option Nat
  /-- The last handle given out. -/
  lastHandle : Nat

namespace KvServer

def init : KvServer := ⟨[], fun _ => none, fun _ => none, 0⟩

def latest (s : KvServer) : Nat := s.commits.length

/-- The version a read transaction begun with `version` reads: the latest for `0`, else that
version if it is committed already, else the latest. -/
def readVersionAt (s : KvServer) (version : Int) : Nat :=
  if version = 0 then s.latest else min version.toNat s.latest

/-- The store as of version `v`: the first `v` commits applied in order. -/
def snapshot (s : KvServer) (v : Nat) : Store :=
  (s.commits.take v).foldl Store.writeAll Store.empty

/-- What a transaction reads: its snapshot, overlaid with its own sets and clears. -/
def view (s : KvServer) (t : ServerTxn) : Store :=
  (s.snapshot t.readVersion).writeAll (t.mutations.filterMap Mutation.ownWrite)

/-- A commit after the transaction's read version wrote a key that one of its reads covers. -/
def conflicts (s : KvServer) (t : ServerTxn) : Bool :=
  (s.commits.drop t.readVersion).any fun ws => ws.any fun w => t.reads.any (·.covers w.1)

def setTxn (s : KvServer) (h : Nat) (t : Option ServerTxn) : KvServer :=
  { s with txns := Function.update s.txns h t }

def setReadTxn (s : KvServer) (h : Nat) (v : Option Nat) : KvServer :=
  { s with readTxns := Function.update s.readTxns h v }

@[simp] theorem setTxn_txns (s : KvServer) (h : Nat) (t : Option ServerTxn) :
    (s.setTxn h t).txns = Function.update s.txns h t := rfl

@[simp] theorem setTxn_readTxns (s : KvServer) (h : Nat) (t : Option ServerTxn) :
    (s.setTxn h t).readTxns = s.readTxns := rfl

@[simp] theorem setTxn_commits (s : KvServer) (h : Nat) (t : Option ServerTxn) :
    (s.setTxn h t).commits = s.commits := rfl

@[simp] theorem setTxn_lastHandle (s : KvServer) (h : Nat) (t : Option ServerTxn) :
    (s.setTxn h t).lastHandle = s.lastHandle := rfl

@[simp] theorem setReadTxn_txns (s : KvServer) (h : Nat) (v : Option Nat) :
    (s.setReadTxn h v).txns = s.txns := rfl

@[simp] theorem setReadTxn_readTxns (s : KvServer) (h : Nat) (v : Option Nat) :
    (s.setReadTxn h v).readTxns = Function.update s.readTxns h v := rfl

@[simp] theorem setReadTxn_commits (s : KvServer) (h : Nat) (v : Option Nat) :
    (s.setReadTxn h v).commits = s.commits := rfl

@[simp] theorem setReadTxn_lastHandle (s : KvServer) (h : Nat) (v : Option Nat) :
    (s.setReadTxn h v).lastHandle = s.lastHandle := rfl

/-- The reply to a request of an unknown transaction. -/
def notFound (r : Request) : Reply := r.failure .transactionNotFound none

/-- Append a mutation to an open transaction. -/
def mutate (s : KvServer) (r : Request) (h : Nat) (m : Mutation) (ok : Reply) : Reply × KvServer :=
  match s.txns h with
  | none => (notFound r, s)
  | some t => (ok, s.setTxn h (some { t with mutations := t.mutations ++ [m] }))

/-- Modelled from the spec: the server's handling of one request. -/
def handle (s : KvServer) (r : Request) : Reply × KvServer :=
  match r with
  | .transactionBegin _ =>
    let h := s.lastHandle + 1
    (.transaction h, { s.setTxn h (some ⟨s.latest, [], []⟩) with lastHandle := h })
  | .transactionGet h k =>
    match s.txns h with
    | none => (notFound r, s)
    | some t => (.value .ok ⟨(s.view t).get k⟩,
        s.setTxn h (some { t with reads := t.reads ++ [.point k] }))
  | .transactionGetRange h b e limit =>
    match s.txns h with
    | none => (notFound r, s)
    | some t => (.kvArray .ok (.ofPairs ((s.view t).rangeRead b e limit)),
        s.setTxn h (some { t with reads := t.reads ++ [.range b.key e.key] }))
  | .transactionSet h k v => s.mutate r h (.set k v) (.void .ok)
  | .transactionDelete h k => s.mutate r h (.clear k) (.void .ok)
  | .transactionSetVersionstampedKey h k v => s.mutate r h (.setVersionstampedKey k v) (.code none)
  | .transactionSetVersionstampedValue h k v =>
    s.mutate r h (.setVersionstampedValue k v) (.code none)
  | .transactionCommit h =>
    match s.txns h with
    | none => (notFound r, s)
    | some t =>
      if s.conflicts t then (.void (.fail .transactionConflict none), s.setTxn h none)
      else (.void .ok, { s.setTxn h none with
        commits := s.commits ++ [commitWrites (s.latest + 1) 0 t.mutations] })
  | .transactionAbort h => (.void .ok, s.setTxn h none)
  | .readTransactionBegin v =>
    let h := s.lastHandle + 1
    (.readTransaction h,
      { s.setReadTxn h (some (s.readVersionAt v)) with lastHandle := h })
  | .readTransactionGet h k =>
    match s.readTxns h with
    | none => (notFound r, s)
    | some v => (.value .ok ⟨(s.snapshot v).get k⟩, s)
  | .readTransactionGetRange h b e limit =>
    match s.readTxns h with
    | none => (notFound r, s)
    | some v => (.kvArray .ok (.ofPairs ((s.snapshot v).rangeRead b e limit)), s)
  | .readTransactionDestroy h => (.void .ok, s.setReadTxn h none)

/-- Handle requests in order. -/
def handleAll (s : KvServer) (rs : List Request) : KvServer :=
  rs.foldl (fun s r => (s.handle r).2) s

@[simp] theorem handleAll_nil (s : KvServer) : s.handleAll [] = s := rfl

@[simp] theorem handleAll_cons (s : KvServer) (r : Request) (rs : List Request) :
    s.handleAll (r :: rs) = (s.handle r).2.handleAll rs := rfl

theorem handleAll_append (s : KvServer) (rs rs' : List Request) :
    s.handleAll (rs ++ rs') = (s.handleAll rs).handleAll rs' := List.foldl_append ..

/-! ## What a request can change -/

/-- Handles are given out in order from `1`: there is no transaction at `0` or above the last
handle given out. -/
def WF (s : KvServer) : Prop := s.txns 0 = none ∧ ∀ h, s.lastHandle < h → s.txns h = none

theorem init_wf : init.WF := ⟨rfl, fun _ _ => rfl⟩

theorem WF.setTxn_none {s : KvServer} (hs : s.WF) (h : Nat) : (s.setTxn h none).WF := by
  refine ⟨?_, fun h' hh => ?_⟩ <;>
    simp only [setTxn_txns, setTxn_lastHandle, Function.update_apply] <;> split
  exacts [rfl, hs.1, rfl, hs.2 _ hh]

end KvServer

end CustomKv
