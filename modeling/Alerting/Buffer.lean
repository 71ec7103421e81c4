/-!
# Buffers

Values gather in one queue per key until everything is taken out at once. The buffer
counts its values beside the queues: adding a value is two steps, a push and a count,
and between the two the count is one behind. Taking everything out is two steps as well,
and between the two the count still stands where it stood.
-/

namespace Alerting

universe u v

/-- Queues of values, one per key, and their count. -/
structure Buffer (κ : Type u) (ν : Type v) where
  /-- The queues, in the order in which their keys first came. -/
  queues : List (κ × List ν)
  size : Nat
  deriving DecidableEq

namespace Buffer

variable {κ : Type u} {ν : Type v}

def empty : Buffer κ ν := ⟨[], 0⟩

instance : Inhabited (Buffer κ ν) := ⟨empty⟩

def isEmpty (buffer : Buffer κ ν) : Bool := buffer.size == 0

variable [DecidableEq κ]

/-- Appends a value to the queue of its key, which comes into being with its first value. -/
def enqueue (key : κ) (value : ν) : List (κ × List ν) → List (κ × List ν)
  | [] => [(key, [value])]
  | (candidate, queue) :: rest =>
    if candidate = key then (candidate, queue ++ [value]) :: rest
    else (candidate, queue) :: enqueue key value rest

/-- The first step of adding a value. -/
def push (buffer : Buffer κ ν) (key : κ) (value : ν) : Buffer κ ν :=
  { buffer with queues := enqueue key value buffer.queues }

/-- The second step of adding a value. -/
def count (buffer : Buffer κ ν) : Buffer κ ν := { buffer with size := buffer.size + 1 }

/-- Adds a value under a key. -/
def add (buffer : Buffer κ ν) (key : κ) (value : ν) : Buffer κ ν :=
  (buffer.push key value).count

/-- The queue of a key. -/
def queue (buffer : Buffer κ ν) (key : κ) : List ν := (buffer.queues.lookup key).getD []

/-- The first step of taking everything out, with the queues that are taken. -/
def take (buffer : Buffer κ ν) : List (κ × List ν) × Buffer κ ν :=
  (buffer.queues, { buffer with queues := [] })

/-- The second step of taking everything out. -/
def reset (buffer : Buffer κ ν) : Buffer κ ν := { buffer with size := 0 }

/-- Takes out everything and leaves the buffer empty. -/
def flush (buffer : Buffer κ ν) : List (κ × List ν) × Buffer κ ν :=
  let (queues, taken) := buffer.take
  (queues, taken.reset)

end Buffer

end Alerting
