import StorageAgent.Host

/-!
# Backoff

Transport errors are met by trying again, at most `maxAttempts` times in all.
Before attempt `n + 1` lies a delay of `initial * base ^ n`, at most `cap`, moved
by a random part of at most `jitterFactor` of itself to either side.

Nothing but a transport error is retried.
-/
namespace StorageAgent

/-- How often to try, and how long to wait in between. -/
structure Backoff (τ : Type) where
  maxAttempts : Int
  initial : τ
  cap : τ
  base : τ
  jitter : Bool
  jitterFactor : τ

namespace Backoff

variable {τ : Type} [Seconds τ]

def standard : Backoff τ where
  maxAttempts := 3
  initial := Seconds.ofRatio 1 2
  cap := Seconds.ofRatio 10 1
  base := Seconds.ofRatio 2 1
  jitter := true
  jitterFactor := Seconds.ofRatio 1 10

/-- The delay after attempt `n`, counted from 0, before jitter. -/
def plainDelay (b : Backoff τ) (n : Int) : Except FaultKind τ := do
  let p ← Seconds.power b.base n
  -- the cap is put on the product, so the power has to be a number of its own
  return Seconds.least (Seconds.mul b.initial p) b.cap

/-- A delay moved by the random number `u` from 0 up to 1. -/
def jittered (b : Backoff τ) (delay u : τ) : τ :=
  let range := Seconds.mul delay b.jitterFactor
  let low := Seconds.neg range
  Seconds.add delay (Seconds.add low (Seconds.mul (Seconds.sub range low) u))

/-- The delay after attempt `n`. Chance is asked only if there is jitter. -/
def delay {m : Type → Type} [Monad m] (host : Host m τ) (b : Backoff τ) (n : Int) :
    ExceptT Failure m τ := do
  match b.plainDelay n with
  | .error kind => throw (Failure.of kind)
  | .ok d =>
    if b.jitter then
      let u ← host.draw
      return Seconds.atLeastZero (b.jittered d u)
    else return Seconds.atLeastZero d

def retryReport (b : Backoff τ) (description : String) (n : Nat) (fault : TransportFault) (d : τ) :
    String :=
  s!"{description}: attempt {n + 1}/{b.maxAttempts} failed: {fault.message}. Retrying in {Seconds.fixed 1 d}s"

/-- Runs an operation until it ends in anything but a transport error, or `left` attempts are used
up. The next attempt has number `n`. -/
def attempts {m : Type → Type} [Monad m] {α : Type} (host : Host m τ) (b : Backoff τ)
    (description : String) (operation : ExceptT Failure m α) : Nat → Nat → ExceptT Failure m α
  | 0, _ => throw (.client (.transport (.noAttempt description)))
  | left + 1, n => ExceptT.mk do
    match ← operation.run with
    | .error (.client (.transport fault)) =>
      -- there is no delay after the last attempt
      if left = 0 then return .error (.client (.transport fault))
      else
        let again : ExceptT Failure m α := do
          let d ← b.delay host n
          host.log ⟨.warning, .backoff, b.retryReport description n fault d⟩
          host.sleep d
          attempts host b description operation left (n + 1)
        again.run
    | result => return result

def retry {m : Type → Type} [Monad m] {α : Type} (host : Host m τ) (b : Backoff τ)
    (description : String) (operation : ExceptT Failure m α) : ExceptT Failure m α :=
  attempts host b description operation b.maxAttempts.toNat 0

end Backoff
end StorageAgent
