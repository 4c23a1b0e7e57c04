import CustomKv.Basic

/-!
# Coroutines of the wrapper

Every operation of the wrapper is a `CoTryTask`: a folly coroutine that returns a `Result`, and
that may also end by an exception (`waitForFuture` throws `std::runtime_error`). An exception
propagates to the caller that awaits the task, and whatever the coroutine changed before it
threw stays changed. `Co σ α` is such a computation over a state `σ`: it returns a value or the
`what()` text of an exception, together with the state it leaves.
-/

namespace CustomKv

/-- How a coroutine ends: it returns, or an exception escapes it. -/
inductive Outcome (α : Type) where
  | ret (a : α)
  | thrown (what : String)
deriving DecidableEq, Repr

def Co (σ α : Type) := σ → Outcome α × σ

def Outcome.map {α β : Type} (f : α → β) : Outcome α → Outcome β
  | .ret a => .ret (f a)
  | .thrown e => .thrown e

@[simp] theorem Outcome.map_ret {α β : Type} (f : α → β) (a : α) :
    (Outcome.ret a).map f = .ret (f a) := rfl

@[simp] theorem Outcome.map_thrown {α β : Type} (f : α → β) (e : String) :
    (Outcome.thrown e : Outcome α).map f = .thrown e := rfl

namespace Co

variable {σ ω α β : Type}

protected def bind (x : Co σ α) (f : α → Co σ β) : Co σ β := fun s =>
  match x s with
  | (.ret a, s) => f a s
  | (.thrown e, s) => (.thrown e, s)

instance : Monad (Co σ) where
  pure a s := (.ret a, s)
  bind := Co.bind

instance : MonadStateOf σ (Co σ) where
  get s := (.ret s, s)
  set s _ := (.ret (), s)
  modifyGet f s := let (a, s) := f s; (.ret a, s)

instance : MonadExceptOf String (Co σ) where
  throw e s := (.thrown e, s)
  tryCatch x h s := match x s with
    | (.thrown e, s) => h e s
    | r => r

@[simp] theorem bind_apply (x : Co σ α) (f : α → Co σ β) (s : σ) :
    (x >>= f) s = match x s with
      | (.ret a, s) => f a s
      | (.thrown e, s) => (.thrown e, s) := rfl

@[simp] theorem pure_apply (a : α) (s : σ) : (pure a : Co σ α) s = (.ret a, s) := rfl

@[simp] theorem map_apply (f : α → β) (x : Co σ α) (s : σ) :
    (f <$> x) s = match x s with
      | (.ret a, s) => (.ret (f a), s)
      | (.thrown e, s) => (.thrown e, s) := rfl

@[simp] theorem map_apply_fst (f : α → β) (x : Co σ α) (s : σ) :
    ((f <$> x) s).1 = (x s).1.map f := by
  simp only [map_apply]
  split <;> simp_all

@[simp] theorem map_apply_snd (f : α → β) (x : Co σ α) (s : σ) :
    ((f <$> x) s).2 = (x s).2 := by
  simp only [map_apply]
  split <;> simp_all

@[simp] theorem throw_apply (e : String) (s : σ) : (throw e : Co σ α) s = (.thrown e, s) := rfl

@[simp] theorem tryCatch_apply (x : Co σ α) (h : String → Co σ α) (s : σ) :
    (tryCatch x h : Co σ α) s = match x s with
      | (.thrown e, s) => h e s
      | r => r := rfl

@[simp] theorem ite_apply (c : Prop) [Decidable c] (x y : Co σ α) (s : σ) :
    (if c then x else y) s = if c then x s else y s := by
  split <;> rfl

/-! ## The two halves of a coroutine's state

A coroutine of the wrapper runs over its own transaction object and the shared world. -/

/-- The transaction object (`*this`). -/
def self : Co (σ × ω) σ := fun s => (.ret s.1, s)

def modifySelf (f : σ → σ) : Co (σ × ω) Unit := fun s => (.ret (), (f s.1, s.2))

/-- Run a step of the world that returns a value. -/
def world (f : ω → α × ω) : Co (σ × ω) α := fun s =>
  let (a, w) := f s.2; (.ret a, (s.1, w))

@[simp] theorem self_apply (s : σ × ω) : (self : Co (σ × ω) σ) s = (.ret s.1, s) := rfl

@[simp] theorem modifySelf_apply (f : σ → σ) (s : σ × ω) :
    modifySelf f s = (.ret (), (f s.1, s.2)) := rfl

@[simp] theorem world_apply (f : ω → α × ω) (s : σ × ω) :
    (world f : Co (σ × ω) α) s = (.ret (f s.2).1, (s.1, (f s.2).2)) := rfl

end Co

end CustomKv
