import StorageAgent.Decimal
import StorageAgent.Error.Failure
import StorageAgent.Log.Line

/-!
# The host

What the client needs of the machine it runs on: a clock, chance, a log, and
mutual exclusion. The host is a record of computations in a monad `m`, so a
state of recorded values can be a host as well as the real machine.

Delays are computed with the operations of the class `Seconds`, in the order in
which they are written, so the same definitions can be read over doubles and over
exact numbers.
-/
namespace StorageAgent

/-! ## Seconds -/

/-- Numbers that can stand for seconds. -/
class Seconds (τ : Type) where
  /-- The number nearest to a fraction. -/
  ofRatio : Int → Nat → τ
  add : τ → τ → τ
  sub : τ → τ → τ
  mul : τ → τ → τ
  neg : τ → τ
  lt : τ → τ → Bool
  le : τ → τ → Bool
  /-- An integral power. It fails on overflow, and on a negative power of zero. -/
  power : τ → Int → Except FaultKind τ
  /-- A number with a fixed number of decimal places. -/
  fixed : Nat → τ → String
  /-- At least the number of steps of the second size that the first is long; zero if it is not
  positive or not finite. -/
  steps : τ → τ → Nat

namespace Seconds

variable {τ : Type} [Seconds τ]

def zero : τ := ofRatio 0 1

/-- The smaller of two numbers, the first unless the second is less. -/
def least (a b : τ) : τ := if lt b a then b else a

def atLeastZero (a : τ) : τ := if lt a zero then zero else a

end Seconds

/-- The greatest integer whose double is finite. -/
def doubleLimit : Nat := Nat.pow 2 1024 - Nat.pow 2 970

/-- The exponent of a double that is a power of two. -/
def Decimal.exponent? (x : Float) : Option Int :=
  match Decimal.parts x with
  | .finite false m e => if m = Decimal.twoPow m.log2 then some (e + m.log2) else none
  | _ => none

/-- A power of two as a double. Below the least double all is zero. -/
def Decimal.powerOfTwo (n : Int) : Except FaultKind Float :=
  if 1024 ≤ n then .error .overflow
  else if n < -1074 then .ok 0
  else .ok (Decimal.nearest false (Decimal.twoPow n.toNat) (Decimal.twoPow (-n).toNat))

/-- The integral power of a double. The powers of a power of two are exact. -/
def Decimal.power (base : Float) (n : Int) : Except FaultKind Float :=
  if doubleLimit ≤ n.natAbs then .error .overflow
  else
    match Decimal.exponent? base with
    -- the delays of the standard settings are powers of two
    | some e => Decimal.powerOfTwo (e * n)
    | none =>
      if base == 0 && decide (n < 0) then .error .zeroDivision
      else
        let result := Float.pow base (Decimal.nearest (decide (n < 0)) n.natAbs 1)
        if Decimal.isFinite base && result.isInf then .error .overflow else .ok result

/-- The number of steps of a size in a length, rounded up, and one more for rounding. -/
def Decimal.steps (length step : Float) : Nat :=
  match Decimal.parts length, Decimal.parts step with
  | .finite false m e, .finite false n f =>
    if n = 0 then 0
    else
      let up := e - f
      m * Decimal.twoPow up.toNat / (n * Decimal.twoPow (-up).toNat) + 1
  | _, _ => 0

instance : Seconds Float where
  ofRatio num den := Decimal.nearest (decide (num < 0)) num.natAbs den
  add a b := a + b
  sub a b := a - b
  mul a b := a * b
  neg a := -a
  lt a b := decide (a < b)
  le a b := decide (a ≤ b)
  power := Decimal.power
  fixed := Decimal.fixed
  steps := Decimal.steps

/-! ## Machines -/

/-- What a machine has room for. -/
structure Capacity where
  /-- How many lists and objects a JSON reader can have open at once, by the size of its stack. -/
  nesting : Nat
  /-- No byte string is as long as this. -/
  memory : Nat

/-- A stack of a thousand calls, and 32 GiB. -/
def Capacity.standard : Capacity := ⟨985, 34359738368⟩

/-- A machine that the client can run on, with times in `τ`. -/
structure Host (m : Type → Type) (τ : Type) where
  /-- The time since some fixed moment. -/
  now : m τ
  /-- Waits. -/
  sleep : τ → m Unit
  /-- A random number from 0 up to 1. -/
  draw : m τ
  /-- Reports. -/
  log : Log.Line → m Unit
  /-- Says which operation the reports that follow are about. -/
  setContext : Option Log.Context → m Unit
  /-- Waits until no other operation of the client runs, and keeps others from running. -/
  acquire : m Unit
  /-- Lets other operations run again. -/
  release : m Unit
  /-- What a loop fails with that has used up its rounds. -/
  exhausted : m Failure

end StorageAgent
