import Mathlib.Data.List.Lex

/-!
# Bytes, status codes and the result types of the transaction interface

Keys and values are byte strings (`std::string_view` in `ITransaction.h`), ordered
lexicographically byte by byte; `UInt8` gets the linear order of its bit vector, so the list
order of Mathlib is the order of the KV store. A `Result` is `hf3fs::Result`: a value or a
`Status` carrying a status code and a message.
-/

namespace CustomKv

instance instLinearOrderUInt8 : LinearOrder UInt8 where
  le_refl := UInt8.le_refl
  le_trans _ _ _ := UInt8.le_trans
  le_antisymm _ _ h₁ h₂ := UInt8.eq_of_toBitVec_eq (BitVec.le_antisymm h₁ h₂)
  le_total := UInt8.le_total
  lt_iff_le_not_le _ _ := ⟨fun h => ⟨UInt8.not_lt.mp (UInt8.lt_asymm h), UInt8.not_le.mpr h⟩,
    fun h => UInt8.not_le.mp h.2⟩
  decidableLE := inferInstance

/-- A key or a value: a binary-safe byte string. -/
abbrev Bytes := List UInt8

/-- The text of a byte string, one character per byte, as `fmt::format` prints it. -/
def Bytes.toText (b : Bytes) : String := String.mk (b.map fun c => Char.ofNat c.toNat)

/-- The status codes the wrapper returns: `StatusCode::kInvalidArg`, `StatusCode::kIOError`,
`TransactionCode::kConflict` and `RPCCode::kTimeout`. -/
inductive StatusCode where
  | kInvalidArg
  | kIOError
  | kConflict
  | kTimeout
deriving DecidableEq, Repr

structure Status where
  code : StatusCode
  message : String
deriving DecidableEq, Repr

instance instDecidableEqExcept {ε α : Type} [DecidableEq ε] [DecidableEq α] :
    DecidableEq (Except ε α)
  | .error a, .error b => decidable_of_iff (a = b) (by simp)
  | .ok a, .ok b => decidable_of_iff (a = b) (by simp)
  | .error _, .ok _ => isFalse (by simp)
  | .ok _, .error _ => isFalse (by simp)

/-- `hf3fs::Result<T>`. -/
abbrev Result (α : Type) := Except Status α

def makeError {α : Type} (code : StatusCode) (message : String) : Result α :=
  .error ⟨code, message⟩

/-- `KeySelector` of `ITransaction.h`: a key and whether the bound includes it. -/
structure KeySelector where
  key : Bytes
  inclusive : Bool
deriving DecidableEq, Repr

structure KeyValue where
  key : Bytes
  value : Bytes
deriving DecidableEq, Repr

/-- `IReadOnlyTransaction::GetRangeResult`. -/
structure GetRangeResult where
  kvs : List KeyValue
  hasMore : Bool
deriving DecidableEq, Repr

end CustomKv
