import CustomKv.Client

/-!
# `CustomReadOnlyTransaction`

The read-only transaction of `CustomTransaction.cc`. Each `snapshotGet` and `snapshotGetRange`
opens a read transaction of its own with `kv_read_transaction_begin(client_handle_,
read_version_.value_or(0))`, reads, and destroys it; `get` and `getRange` are placeholders that
return an empty answer; `cancel` and `reset` only set flags. The transaction id and the engine
pointer are used for logging only and are left out.
-/

namespace CustomKv

structure CustomReadOnlyTransaction where
  readVersion : Option Int
  cancelled : Bool
  /-- `reset_`: `reset()` was called. -/
  isReset : Bool
  /-- `client_handle_` is not null. -/
  clientHandle : Bool
deriving DecidableEq, Repr

namespace CustomReadOnlyTransaction

/-- A transaction as `createReadonlyTransaction` makes it. -/
def create (clientHandle : Bool) : CustomReadOnlyTransaction :=
  ⟨none, false, false, clientHandle⟩

abbrev CoTask (α : Type) := Co (CustomReadOnlyTransaction × World) α

def setReadVersion (version : Int) : CoTask Unit :=
  Co.modifySelf fun t => { t with readVersion := some version }

def snapshotGet (key : Bytes) : CoTask (Result (Option Bytes)) := do
  let t ← Co.self
  if t.cancelled || t.isReset then
    return makeError .kInvalidArg "Transaction is cancelled or reset"
  if !t.clientHandle then return makeError .kIOError "Client handle not available"
  let txFuture ← call (.readTransactionBegin (t.readVersion.getD 0))
  waitForFuture txFuture
  let readTx := kvFutureGetReadTransaction txFuture
  if readTx = 0 then return makeError .kIOError "Failed to get read transaction handle"
  let future ← call (.readTransactionGet readTx key)
  waitForFuture future
  let (result, value) := kvFutureGetValueResult future
  let _ ← call (.readTransactionDestroy readTx)
  return .ok (readValue result value)

/-- A placeholder: no read reaches the server. -/
def get (_key : Bytes) : CoTask (Result (Option Bytes)) := do
  let t ← Co.self
  if t.cancelled || t.isReset then
    return makeError .kInvalidArg "Transaction is cancelled or reset"
  return .ok none

def snapshotGetRange (b e : KeySelector) (limit : Int) : CoTask (Result GetRangeResult) := do
  let t ← Co.self
  if t.cancelled || t.isReset then
    return makeError .kInvalidArg "Transaction is cancelled or reset"
  if !t.clientHandle then return makeError .kIOError "Client handle not available"
  let txFuture ← call (.readTransactionBegin (t.readVersion.getD 0))
  waitForFuture txFuture
  let readTx := kvFutureGetReadTransaction txFuture
  if readTx = 0 then return makeError .kIOError "Failed to get read transaction handle"
  let future ← call (.readTransactionGetRange readTx (beginSelector b) (endSelector e) limit)
  waitForFuture future
  let (result, pairArray) := kvFutureGetKvArrayResult future
  if result.success then
    let kvs := pairArray.keyValues
    let pairArray ← kvPairArrayFree pairArray
    let hasMore := pairArray.count = sizeT limit
    let _ ← call (.readTransactionDestroy readTx)
    return .ok ⟨kvs, hasMore⟩
  else
    let errorMsg := result.errorMessage.getD "Unknown error"
    let _ ← call (.readTransactionDestroy readTx)
    return makeError .kIOError ("Snapshot get range operation failed: " ++ errorMsg)

/-- A placeholder: no read reaches the server. -/
def getRange (_b _e : KeySelector) (_limit : Int) : CoTask (Result GetRangeResult) := do
  let t ← Co.self
  if t.cancelled || t.isReset then
    return makeError .kInvalidArg "Transaction is cancelled or reset"
  return .ok ⟨[], false⟩

def cancel : CoTask (Result Unit) := do
  if !(← Co.self).cancelled then Co.modifySelf fun t => { t with cancelled := true }
  return .ok ()

def reset : CoTask Unit :=
  Co.modifySelf fun t => { t with isReset := true, cancelled := false, readVersion := none }

/-- `~CustomReadOnlyTransaction`: the same auto-cancel on a transaction neither cancelled nor
reset, whose task is dropped without being awaited. -/
def destroy : CoTask Unit := do
  let t ← Co.self
  if !t.cancelled && !t.isReset then
    let _cancelTask : CoTask (Result Unit) := cancel
    pure ()

end CustomReadOnlyTransaction

end CustomKv
