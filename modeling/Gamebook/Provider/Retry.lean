import Gamebook.Number.Power
import Gamebook.Number.Scalar
import Gamebook.Provider.Failure

/-!
# Attempts and delays

A call is attempted until it succeeds, until a failure is not worth another
attempt, or until the attempts are used up; the last failure is the result. Between
two attempts lies a delay that grows by a factor from attempt to attempt up to a
bound, and may be varied at random around its value. Delays that are not positive
are not waited for.
-/

namespace Gamebook

/-- How often to attempt, and how long to wait in between. -/
structure RetryPolicy where
  maxAttempts : Int := 3
  initial : Scalar := .float (Binary64.ofDecimal false 5 1 (-1))
  factor : Scalar := .float (Binary64.ofDecimal false 2 1 0)
  bound : Scalar := .float (Binary64.ofDecimal false 30 2 0)
  jitter : Scalar := .float Binary64.zeroNumber
  deriving DecidableEq, Repr

/-- Why a policy is refused, or has no delay for an attempt. -/
inductive RetryFault
  | noAttempts
  | negativeValue
  | shrinkingFactor
  | noSuchAttempt
  | number (fault : NumberFault)
  deriving DecidableEq, Repr

/-- The fault as a sentence. -/
def RetryFault.message : RetryFault → String
  | .noAttempts => "max_attempts must be at least 1"
  | .negativeValue => "backoff values must be non-negative"
  | .shrinkingFactor => "backoff_multiplier must be >= 1"
  | .noSuchAttempt => "attempt must be >= 1"
  | .number fault => fault.message

/-- The class of a fault of arithmetic. -/
def NumberFault.failureClass : NumberFault → FailureClass
  | .beyondFloat | .infiniteWhole | .powerRange => .overflow
  | .undefinedWhole | .digitsToWrite | .digitsToRead _ | .notNumeral _ => .badValue

/-- The fault as a failure. -/
def RetryFault.failure (fault : RetryFault) : Failure :=
  match fault with
  | .number cause => ⟨cause.failureClass, cause.message⟩
  | other => ⟨.badValue, other.message⟩

/-- The smaller of two scalars, the first when they are equal or cannot be compared. -/
def Scalar.smaller (x y : Scalar) : Scalar := if isLess y x then y else x

/-- A scalar to a power counted by a natural number: exactly when it is whole, otherwise with
the exponent as a floating-point number. The powers of one need no work. -/
def Scalar.power (x : Scalar) (n : Nat) : Except NumberFault Scalar :=
  match x.asNumber with
  | .inl m => .ok (.int (if m = 1 then 1 else Int.pow m n))
  | .inr x =>
    match Binary64.ofInt n with
    | .error fault => .error fault
    | .ok exponent =>
      match exponent.truncate with
      | .error fault => .error fault
      | .ok n => (x.power n.toNat).map .float

namespace RetryPolicy

/-- A policy that makes sense, or what is wrong with it. -/
def check (policy : RetryPolicy) : Except RetryFault RetryPolicy :=
  let isNegative (x : Scalar) : Bool := x.isLess (.int 0)
  if policy.maxAttempts < 1 then .error .noAttempts
  else if isNegative policy.initial || isNegative policy.bound || isNegative policy.jitter then
    .error .negativeValue
  else if policy.factor.isLess (.int 1) then .error .shrinkingFactor
  else .ok policy

/-- The delay after an attempt before it is varied. -/
def plainDelay (policy : RetryPolicy) (attempt : Nat) : Except NumberFault Scalar :=
  match policy.factor.power (attempt - 1) with
  | .error fault => .error fault
  | .ok growth => (policy.initial.mul growth).map (·.smaller policy.bound)

/-- A delay moved by a random share of the jitter, from all below to all above, and never
negative. -/
def vary (policy : RetryPolicy) (delay draw : Scalar) : Except NumberFault Scalar := do
  let doubled ← draw.mul (.int 2)
  let share ← doubled.sub (.int 1)
  let scaled ← share.mul delay
  let shift ← scaled.mul policy.jitter
  let moved ← delay.add shift
  .ok (if Scalar.isLess (.float Binary64.zeroNumber) moved then moved
    else .float Binary64.zeroNumber)

/-- Whether a delay is varied: there is jitter and something to vary. -/
def varies (policy : RetryPolicy) (delay : Scalar) : Bool :=
  !(policy.jitter.isLess (.int 0) || policy.jitter.isEqual (.int 0)) && !delay.isEqual (.int 0)

/-- The next random number, and those after it; the middle one when none is left. -/
def nextDraw : List Scalar → Scalar × List Scalar
  | draw :: rest => (draw, rest)
  | [] => (.float (Binary64.ofDecimal false 5 1 (-1)), [])

/-- The delay after a failed attempt, counted from one, and the random numbers left. -/
def delay (policy : RetryPolicy) (draws : List Scalar) (attempt : Int) :
    Except RetryFault (Scalar × List Scalar) :=
  if attempt < 1 then .error .noSuchAttempt
  else
    match policy.plainDelay attempt.toNat with
    | .error fault => .error (.number fault)
    | .ok delay =>
      if policy.varies delay then
        let (draw, rest) := nextDraw draws
        match policy.vary delay draw with
        | .ok moved => .ok (moved, rest)
        | .error fault => .error (.number fault)
      else .ok (delay, draws)

end RetryPolicy

/-- What came of some attempts: the result, the state of the outside, how many attempts were
made and the delays that were waited for. -/
structure Attempts (σ α : Type) where
  result : Except Failure α
  state : σ
  count : Nat
  delays : List Scalar

/-- The attempts after one that failed and a delay. -/
def Attempts.after {σ α : Type} (delay : Scalar) (later : Attempts σ α) : Attempts σ α :=
  { later with
    count := later.count + 1
    delays := if Scalar.isLess (.int 0) delay then delay :: later.delays else later.delays }

/-- Attempts an operation when so many attempts remain after this one. -/
def attemptFrom {σ α : Type} (policy : RetryPolicy) (classifier : Classifier)
    (operation : σ → Except Failure α × σ) (draws : List Scalar) (attempt : Nat) :
    Nat → σ → Attempts σ α
  | remaining, state =>
    match operation state with
    | (.ok result, next) => ⟨.ok result, next, 1, []⟩
    | (.error failure, next) =>
      if (classifier.classify failure.cls).isRetryable then
        match remaining with
        | 0 => ⟨.error failure, next, 1, []⟩
        | remaining + 1 =>
          match policy.delay draws attempt with
          | .error fault => ⟨.error fault.failure, next, 1, []⟩
          | .ok (delay, draws) =>
            (attemptFrom policy classifier operation draws (attempt + 1) remaining next).after delay
      else ⟨.error failure, next, 1, []⟩

/-- Attempts an operation as a policy says. -/
def attempt {σ α : Type} (policy : RetryPolicy) (classifier : Classifier)
    (operation : σ → Except Failure α × σ) (draws : List Scalar) (state : σ) : Attempts σ α :=
  attemptFrom policy classifier operation draws 1 (policy.maxAttempts - 1).toNat state

end Gamebook
