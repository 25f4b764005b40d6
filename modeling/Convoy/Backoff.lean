import Convoy.Data.Decode
import Convoy.Decimal.Binary

/-!
# Backoff

Delays that double from one attempt to the next, up to a bound, and jitter that is drawn at random.
Durations are whole nanoseconds; delays are whole milliseconds.
-/
namespace Convoy

open Data

abbrev Nanoseconds := Nat

namespace Nanoseconds

def perSecond : Nat := 1000000000

def perMillisecond : Nat := 1000000

/-- The quotient rounded to the nearest natural, a half to the even one. -/
def divideToEven (numerator denominator : Nat) : Nat :=
  let whole := numerator / denominator
  let twice := 2 * (numerator % denominator)
  if twice < denominator ∨ twice = denominator ∧ whole % 2 = 0 then whole else whole + 1

/-- The duration nearest to a number of seconds; absent for a negative number and for one of
`2 ^ 64` or more. -/
def ofSeconds? (seconds : Float) : Option Nanoseconds :=
  match Decimal.Binary.ofFloat seconds with
  | .finite negative significand exponent =>
    if negative ∧ significand ≠ 0 then none
    else
      let nanoseconds :=
        if 0 ≤ exponent then significand * Nat.pow 2 exponent.toNat * perSecond
        else divideToEven (significand * perSecond) (Nat.pow 2 (-exponent).toNat)
      if nanoseconds < UInt64.size * perSecond then some nanoseconds else none
  | _ => none

def seconds (duration : Nanoseconds) : Float :=
  Float.ofNat (duration / perSecond) + Float.ofNat (duration % perSecond) / 1e9

def milliseconds (duration : Nanoseconds) : Nat :=
  duration / perMillisecond

def write (duration : Nanoseconds) : Datum := .float duration.seconds

def read : Reader Nanoseconds := fun datum => do
  match ofSeconds? (← readFloat datum) with
  | some duration => pure duration
  | none => throw (.outOfRange "duration")

end Nanoseconds

/-- The nearest number that 53 binary digits can hold, a half rounded to the even one. -/
def roundTo53 (n : Nat) : Nat :=
  let extra := n.log2 + 1 - 53
  Nanoseconds.divideToEven n (Nat.pow 2 extra) * Nat.pow 2 extra

/-- The occasions on which something is drawn at random. Each has a number that no other occasion of
its kind has. -/
inductive Draw where
  /-- The jitter of the delay before a relaunch, by how many identities were issued before it. -/
  | relaunch (number : Nat)
  /-- The refuse time of an acceptance, by how much passed through the router before it. -/
  | refusal (number : Nat)
  /-- The jitter of the pause after a lost session, by how much passed through the router before. -/
  | pause (number : Nat)

/-- What is drawn on every occasion: a share between none and all of what there is to draw from. -/
abbrev Draws := Draw → Float

/-- Every draw leads to the middle. -/
def Draws.middle : Draws := fun _ => 0.5

structure Backoff where
  base : Nanoseconds
  max : Nanoseconds
  jitter : Float

namespace Backoff

def immediate : Backoff where
  base := 0
  max := 0
  jitter := 0.0

/-- Between subscriptions: one second at first, fifteen at most. -/
def reconnect : Backoff where
  base := Nanoseconds.perSecond
  max := 15 * Nanoseconds.perSecond
  jitter := 0.0

/-- The largest delay in milliseconds. -/
def longest : Nat := UInt64.size - 1

/-- The time in milliseconds before an attempt, counted from zero, as long as no jitter moves it: it
doubles thirty times at most, up to the bound. -/
def capped (backoff : Backoff) (attempt : Nat) : Nat :=
  min (roundTo53 backoff.base.milliseconds * Nat.pow 2 (min attempt 30))
    (roundTo53 backoff.max.milliseconds)

def isJittery (backoff : Backoff) : Bool :=
  0.0 < backoff.jitter

/-- How far jitter may move a delay, either way, in milliseconds: a share of the delay, all of it at
most. -/
def swing (backoff : Backoff) (attempt : Nat) : Float :=
  Float.ofNat (backoff.capped attempt) * if 1.0 < backoff.jitter then 1.0 else backoff.jitter

/-- The delay in milliseconds before an attempt. Jitter moves it by what is drawn: no share takes the
whole swing off it, all of it adds the whole swing. Whatever the bound, no base means no delay. -/
def delay (backoff : Backoff) (attempt : Nat) (share : Float) : Nat :=
  if backoff.base = 0 then 0
  else if backoff.isJittery then
    let swing := backoff.swing attempt
    (Float.ofNat (backoff.capped attempt) + (share * (swing + swing) - swing)).toUInt64.toNat
  else min (backoff.capped attempt) longest

def fieldNames : List String := ["base", "max", "jitter"]

def write (backoff : Backoff) : Datum :=
  record
    [field "base" backoff.base.write,
     field "max" backoff.max.write,
     field "jitter" (.float backoff.jitter)]

def read : Reader Backoff :=
  readRecord fieldNames fun fields => do
    return { base := ← fields.required "base" Nanoseconds.read
             max := ← fields.required "max" Nanoseconds.read
             jitter := ← fields.defaulted "jitter" readFloat (pure 0.0) }

end Backoff
end Convoy
