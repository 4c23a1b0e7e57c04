import CustomKv.Client

/-!
# `CustomTransaction`

The read-write transaction of `CustomTransaction.cc`. It opens its server transaction lazily
(`ensureTransaction`) at the first operation that needs it, and keeps the handle until `cancel`
aborts it; the destructor calls `cancel` but never awaits the task it returns. `snapshotGet`
does not use that handle: it opens a read transaction of its own at
`read_version_.value_or(0)`. `snapshotGetRange` delegates to the conflict-tracked `getRange`.
`addReadConflict` and `addReadConflictRange` send nothing. `commit` sets `committed_` before it
contacts the server, and once it has succeeded stores `steady_clock::now()` as the committed
version. The transaction id and the engine pointer are used for logging only and are left out.
-/

namespace CustomKv

structure CustomTransaction where
  readVersion : Option Int
  cancelled : Bool
  /-- `reset_`: `reset()` was called. -/
  isReset : Bool
  committed : Bool
  committedVersion : Int
  /-- `client_handle_` is not null. -/
  clientHandle : Bool
  /-- `transaction_handle_`; `0` is a null pointer. -/
  transactionHandle : Nat
deriving DecidableEq, Repr

namespace CustomTransaction

/-- A transaction as `createReadWriteTransaction` makes it. -/
def create (clientHandle : Bool) : CustomTransaction :=
  ⟨none, false, false, false, -1, clientHandle, 0⟩

/-- The guard of every operation but `commit`: `cancelled_ || reset_ || committed_`. -/
def finished (t : CustomTransaction) : Bool := t.cancelled || t.isReset || t.committed

abbrev CoTask (α : Type) := Co (CustomTransaction × World) α

def ensureTransaction : CoTask (Result Unit) := do
  let t ← Co.self
  if t.transactionHandle ≠ 0 then return .ok ()
  if !t.clientHandle then return makeError .kIOError "Client handle not available"
  let future ← call (.transactionBegin 30)
  waitForFuture future
  let h := kvFutureGetTransaction future
  Co.modifySelf fun t => { t with transactionHandle := h }
  if h = 0 then return makeError .kIOError "Failed to get transaction handle"
  return .ok ()

def setReadVersion (version : Int) : CoTask Unit :=
  Co.modifySelf fun t => { t with readVersion := some version }

def snapshotGet (key : Bytes) : CoTask (Result (Option Bytes)) := do
  let t ← Co.self
  if t.finished then return makeError .kInvalidArg "Transaction is finished"
  if !t.clientHandle then return makeError .kIOError "Client handle not available"
  let txFuture ← call (.readTransactionBegin (t.readVersion.getD 0))
  waitForFuture txFuture
  let readTx := kvFutureGetReadTransaction txFuture
  if readTx = 0 then return makeError .kIOError "Failed to get read transaction handle"
  let future ← call (.readTransactionGet readTx key)
  waitForFuture future
  let (result, value) := kvFutureGetValueResult future
  let _ ← call (.readTransactionDestroy readTx)
  return .ok (readValue result value)

/-- The prologue of every operation that needs the server transaction: the guard
`cancelled_ || reset_ || committed_`, then `ensureTransaction`. -/
def withTransaction {α : Type} (body : CoTask (Result α)) : CoTask (Result α) := do
  if (← Co.self).finished then return makeError .kInvalidArg "Transaction is finished"
  match ← ensureTransaction with
  | .error e => return .error e
  | .ok () => body

def get (key : Bytes) : CoTask (Result (Option Bytes)) := withTransaction do
  let future ← call (.transactionGet (← Co.self).transactionHandle key)
  waitForFuture future
  let (result, value) := kvFutureGetValueResult future
  return .ok (readValue result value)

def getRange (b e : KeySelector) (limit : Int) : CoTask (Result GetRangeResult) :=
  withTransaction do
  let future ← call (.transactionGetRange (← Co.self).transactionHandle (beginSelector b)
    (endSelector e) limit)
  waitForFuture future
  let (result, pairArray) := kvFutureGetKvArrayResult future
  if result.success then
    let kvs := pairArray.keyValues
    let pairArray ← kvPairArrayFree pairArray
    let hasMore := pairArray.count ≠ 0 && pairArray.count = sizeT limit
    return .ok ⟨kvs, hasMore⟩
  else
    let errorMsg := result.errorMessage.getD "Unknown error"
    return makeError .kIOError ("Get range operation failed: " ++ errorMsg)

/-- "For simplicity, just delegate to getRange". -/
def snapshotGetRange (b e : KeySelector) (limit : Int) : CoTask (Result GetRangeResult) :=
  getRange b e limit

def cancel : CoTask (Result Unit) := do
  if !(← Co.self).cancelled then
    Co.modifySelf fun t => { t with cancelled := true }
    let h := (← Co.self).transactionHandle
    if h ≠ 0 then
      let future ← call (.transactionAbort h)
      tryCatch (waitForFuture future) fun _ => pure ()
      Co.modifySelf fun t => { t with transactionHandle := 0 }
  return .ok ()

/-- Sets the flags back, keeps `transaction_handle_`, and sets `reset_` for good. -/
def reset : CoTask Unit :=
  Co.modifySelf fun t =>
    { t with
      isReset := true
      cancelled := false
      committed := false
      committedVersion := -1
      readVersion := none }

/-- `~CustomTransaction`: "Auto-cancel on destruction if not committed". `cancel()` only makes a
lazy task, which the destructor drops without awaiting it: the body of `cancel` never runs, and
making the task throws nothing for the `try` to catch. -/
def destroy : CoTask Unit := do
  let t ← Co.self
  if !t.cancelled && !t.isReset && !t.committed then
    let _cancelTask : CoTask (Result Unit) := cancel
    pure ()

/-- A placeholder: no read conflict reaches the server. -/
def addReadConflict (_key : Bytes) : CoTask (Result Unit) := do
  if (← Co.self).finished then return makeError .kInvalidArg "Transaction is finished"
  return .ok ()

/-- A placeholder: no read conflict reaches the server. -/
def addReadConflictRange (_b _e : Bytes) : CoTask (Result Unit) := do
  if (← Co.self).finished then return makeError .kInvalidArg "Transaction is finished"
  return .ok ()

/-- `set` and `clear`: send one request on the transaction handle and report a failed reply as
a `kIOError` whose message starts with `what`. -/
def mutate (request : Nat → Request) (what : String) : CoTask (Result Unit) := withTransaction do
  let future ← call (request (← Co.self).transactionHandle)
  waitForFuture future
  let result := kvFutureGetVoidResult future
  if !result.success then
    let errorMsg := result.errorMessage.getD "Unknown error"
    return makeError .kIOError (what ++ errorMsg)
  return .ok ()

def set (key value : Bytes) : CoTask (Result Unit) :=
  mutate (fun h => .transactionSet h key value) "Set operation failed: "

def clear (key : Bytes) : CoTask (Result Unit) :=
  mutate (fun h => .transactionDelete h key) "Delete operation failed: "

/-- The text of an apostrophe in a message. -/
def quote : String := "\x27"

/-- The offset is ignored: the key is sent as it is, and the server stamps its last 10 bytes. -/
def setVersionstampedKey (key : Bytes) (_offset : UInt32) (value : Bytes) :
    CoTask (Result Unit) := withTransaction do
  if key.isEmpty then
    return makeError .kInvalidArg "SetVersionstampedKey: key prefix cannot be empty"
  let result ←
    callSync (.transactionSetVersionstampedKey (← Co.self).transactionHandle key value)
  match result with
  | none => return .ok ()
  | some code =>
    let message := "Set versionstamped key operation failed: result=" ++ code.text ++
      ", key_prefix=" ++ quote ++ key.toText ++ quote ++ ", value=" ++ quote ++
      value.toText ++ quote
    return makeError .kIOError message

/-- The offset is ignored: the value is sent with 10 zero bytes appended, which the server
overwrites with the stamp. -/
def setVersionstampedValue (key value : Bytes) (_offset : UInt32) : CoTask (Result Unit) :=
  withTransaction do
  if key.isEmpty then
    return makeError .kInvalidArg "SetVersionstampedValue: key cannot be empty"
  let valueBuffer := value ++ List.replicate 10 0
  let result ← callSync
    (.transactionSetVersionstampedValue (← Co.self).transactionHandle key valueBuffer)
  match result with
  | none => return .ok ()
  | some code =>
    let message := "Set versionstamped value operation failed: result=" ++ code.text ++
      ", key=" ++ quote ++ key.toText ++ quote ++ ", value_prefix=" ++ quote ++
      value.toText ++ quote
    return makeError .kIOError message

/-- The status code `commit` reports for an error code of the server. -/
def commitErrorCode : KvErrorCode → StatusCode
  | .transactionConflict => .kConflict
  | .transactionTimeout => .kTimeout
  | .transactionNotFound => .kInvalidArg
  | .other _ => .kIOError

def commit : CoTask (Result Unit) := do
  let t ← Co.self
  if t.cancelled || t.isReset then
    return makeError .kInvalidArg "Transaction is cancelled or reset"
  -- `committed_.compare_exchange_strong(false, true)` fails: "Already committed"
  if t.committed then return .ok ()
  Co.modifySelf fun t => { t with committed := true }
  match ← ensureTransaction with
  | .error e => return .error e
  | .ok () =>
    let future ← call (.transactionCommit (← Co.self).transactionHandle)
    waitForFuture future
    let result := kvFutureGetVoidResult future
    if !result.success then
      return makeError (commitErrorCode result.errorCode) (result.errorMessage.getD "Commit failed")
    let now ← steadyClockNow
    Co.modifySelf fun t => { t with committedVersion := now }
    return .ok ()

def getCommittedVersion (t : CustomTransaction) : Int := t.committedVersion

end CustomTransaction

end CustomKv
