import Metering.Amount

/-!
# Instruments

Four kinds of accumulator: counters only grow, gauges move both ways, timers accumulate durations
and summaries accumulate magnitudes. An update that makes no sense for the instrument (a negative
count, an infinite magnitude, an update of another kind) leaves it as it is.
-/

namespace Metering

/-- The kind of an instrument. -/
inductive Kind where
  | counter
  | gauge
  | timer
  | summary
  deriving DecidableEq, Repr

namespace Kind

/-- The name of the kind in messages. -/
def name : Kind → String
  | counter => "counter"
  | gauge => "gauge"
  | timer => "timer"
  | summary => "summary"

/-- The capitalised name of the kind. -/
def title : Kind → String
  | counter => "Counter"
  | gauge => "Gauge"
  | timer => "Timer"
  | summary => "Summary"

def all : List Kind := [counter, gauge, timer, summary]

def ofName? (s : String) : Option Kind :=
  all.find? fun k => k.name == s

end Kind

/-- Durations in nanoseconds: how many, their sum modulo `2 ^ 64`, and the longest. -/
structure Timer where
  count : UInt64 := 0
  total : UInt64 := 0
  longest : UInt64 := 0
  deriving DecidableEq, Repr

namespace Timer

/--
A duration as a 64-bit number of nanoseconds. One that is too long counts as the longest that
fits.
-/
def saturate (nanos : Nat) : UInt64 :=
  UInt64.ofNat (min nanos (UInt64.size - 1))

/-- Records a duration given in nanoseconds. -/
def record (t : Timer) (nanos : Nat) : Timer :=
  let elapsed := saturate nanos
  { count := t.count + 1
    total := t.total + elapsed
    longest := if t.longest < elapsed then elapsed else t.longest }

/-- The average duration, rounded down. The divisor has 32 bits and stays at its limit. -/
def mean (t : Timer) : UInt64 :=
  if t.count = 0 then 0 else t.total / min t.count 0xFFFFFFFF

end Timer

/-- Magnitudes: how many, their sum, and the largest of zero and all of them. -/
structure Summary (α : Type) where
  count : UInt64
  total : α
  largest : α
  deriving Repr

namespace Summary

variable {α : Type} [Amount α]

/-- The summary of no magnitudes. -/
def empty : Summary α := ⟨0, 0, 0⟩

/-- Records a magnitude. One that is not finite is ignored. -/
def record (s : Summary α) (amount : α) : Summary α :=
  if Amount.isFinite amount then
    { count := s.count + 1
      total := s.total + amount
      largest := Amount.larger s.largest amount }
  else s

/-- The average magnitude, zero if there is none. -/
def mean (s : Summary α) : α :=
  if s.count = 0 then 0 else s.total / Amount.ofCount s.count

end Summary

/-- An accumulator of one of the four kinds. -/
inductive Instrument (α : Type) where
  | counter (value : α)
  | gauge (value : α)
  | timer (state : Timer)
  | summary (state : Summary α)
  deriving Repr

/-- What can happen to an instrument. -/
inductive Change (α : Type) where
  /-- Nothing: the instrument is only looked up, or created. -/
  | touch
  /-- A counter grows. -/
  | count (amount : α)
  /-- A gauge moves. -/
  | shift (amount : α)
  /-- A gauge is overridden. -/
  | assign (value : α)
  /-- A timer records a duration in nanoseconds. -/
  | elapse (nanos : Nat)
  /-- A summary records a magnitude. -/
  | observe (amount : α)
  deriving Repr

namespace Instrument

variable {α : Type}

def kind : Instrument α → Kind
  | counter _ => .counter
  | gauge _ => .gauge
  | timer _ => .timer
  | summary _ => .summary

variable [Amount α]

/-- A new instrument of a kind. -/
def fresh : Kind → Instrument α
  | .counter => counter 0
  | .gauge => gauge 0
  | .timer => timer {}
  | .summary => summary Summary.empty

/-- The instrument after a change. -/
def apply : Change α → Instrument α → Instrument α
  | .count amount, counter value =>
    if Amount.isFinite amount && !Amount.isNegative amount then counter (value + amount)
    else counter value
  | .shift amount, gauge value => gauge (value + amount)
  | .assign value, gauge _ => gauge value
  | .elapse nanos, timer state => timer (state.record nanos)
  | .observe amount, summary state => summary (state.record amount)
  | _, instrument => instrument

/-- The value of a gauge. Other kinds have none and count as zero. -/
def level : Instrument α → α
  | gauge value => value
  | _ => 0

/-- A new instrument is of the kind that was asked for. -/
@[simp] theorem kind_fresh (k : Kind) : (fresh k : Instrument α).kind = k := by
  cases k <;> rfl

/-- No change turns an instrument into one of another kind. -/
@[simp] theorem kind_apply (change : Change α) (i : Instrument α) :
    (i.apply change).kind = i.kind := by
  cases change <;> cases i <;> simp only [apply] <;> try rfl
  split <;> rfl

end Instrument

namespace Change

variable {α : Type} [Amount α]

/-- A counter grows by one. -/
def countOne : Change α := count 1

/-- A gauge rises by one. -/
def up : Change α := shift 1

/-- A gauge falls by one. -/
def down : Change α := shift (-1)

end Change

end Metering
