import FixedWidth.Failure
import FixedWidth.Layout

/-!
# Sinks

A sink takes bytes, perhaps only so many in a call and only so many in all, and its calls may be
interrupted.  `Sink.write` calls until everything is taken or the sink refuses, so that a caller
sees nothing of the single calls: what has been taken is always a first part of what was written.
-/

namespace FixedWidth

/-- How a sink answers when it takes no more. -/
inductive AtLimit where
  | fails (cause : StreamFault)
  | takesNothing
deriving DecidableEq

structure Sink where
  taken : Array UInt8 := #[]
  /-- the bytes that the sink takes in all -/
  limit : Option Nat := none
  atLimit : AtLimit := .fails .diskFull
  /-- the bytes that the sink takes in a call -/
  perCall : Option Nat := none
  /-- whether every other call is interrupted, beginning with the first -/
  interrupts : Bool := false
  calls : Nat := 0
deriving DecidableEq

namespace Sink

inductive Reply where
  | took (n : Nat)
  | interrupted
  | refused (cause : StreamFault)
deriving DecidableEq

/-- The lesser of a number and a bound, if there is one. -/
def upTo (n : Nat) : Option Nat → Nat
  | some bound => min n bound
  | none => n

/-- The bytes that the sink still takes. -/
def room (k : Sink) : Option Nat :=
  k.limit.map (· - k.taken.size)

def isFull (k : Sink) : Bool := k.room == some 0

def isBusy (k : Sink) : Bool := k.interrupts && k.calls % 2 == 0

def call (k : Sink) (bytes : List UInt8) : Reply × Sink :=
  if k.isBusy then (.interrupted, { k with calls := k.calls + 1 })
  else if k.isFull then
    match k.atLimit with
    | .fails cause => (.refused cause, { k with calls := k.calls + 1 })
    | .takesNothing => (.took 0, { k with calls := k.calls + 1 })
  else
    let n := upTo (upTo bytes.length k.perCall) k.room
    (.took n, { k with taken := k.taken ++ bytes.take n, calls := k.calls + 1 })

theorem calls_call (k : Sink) (bytes : List UInt8) : (k.call bytes).2.calls = k.calls + 1 := by
  unfold call
  split
  · rfl
  · split
    · split <;> rfl
    · rfl

theorem isBusy_of_call {k next : Sink} {bytes : List UInt8}
    (h : k.call bytes = (.interrupted, next)) : k.isBusy = true := by
  unfold call at h
  split at h
  · assumption
  · split at h
    · split at h <;> cases h
    · cases h

/-- Writes all the bytes, by as many calls as it takes. -/
def write (k : Sink) (bytes : List UInt8) : Option StreamFault × Sink :=
  match bytes with
  | [] => (none, k)
  | b :: bytes =>
    match _h : k.call (b :: bytes) with
    | (.interrupted, next) => next.write (b :: bytes)
    | (.refused cause, next) => (some cause, next)
    | (.took 0, next) => (some .nothingTaken, next)
    | (.took (n + 1), next) => next.write (bytes.drop n)
termination_by 2 * bytes.length + (1 - k.calls % 2)
decreasing_by
  · have hcalls := calls_call k (b :: bytes)
    rw [_h] at hcalls
    have hbusy := isBusy_of_call _h
    simp only [isBusy, Bool.and_eq_true, beq_iff_eq] at hbusy
    simp only [] at hcalls
    omega
  · simp only [List.length_drop, List.length_cons]
    omega

/-- Writes marks until one of them fails. -/
def draw (k : Sink) : List Mark → Option Failure × Sink
  | [] => (none, k)
  | m :: marks =>
    match m.text? with
    | none => (some .tooWide, k)
    | some s =>
      match k.write s.toUTF8.data.toList with
      | (some cause, k) => (some (.stream cause), k)
      | (none, k) => k.draw marks

end Sink

end FixedWidth
