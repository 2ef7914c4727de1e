import Metering.Hub

/-!
# Pools

A task waits in the queue of a pool until it is rejected or begins, and then uses a resource until
it ends. Where the pool has a known size, the part of it that is in use follows every change.
-/

namespace Metering

/-- A named pool. A size of zero means that it is not known. -/
structure Pool where
  scope : Scope
  type : String
  name : String
  size : UInt32
  deriving DecidableEq, Repr

namespace Pool

/-- The time that tasks wait. -/
def queueDelay : Template where
  kind := .timer
  name := "vertx_pool_queue_delay"
  description := "Queue time for a resource"
  keys := [Label.poolType, Label.poolName]

/-- Waiting tasks. -/
def queueSize : Template where
  kind := .gauge
  name := "vertx_pool_queue_size"
  description := "Number of elements waiting for a resource"
  keys := [Label.poolType, Label.poolName]

/-- The time that resources are used. -/
def usage : Template where
  kind := .timer
  name := "vertx_pool_usage"
  description := "Time using a resource"
  keys := [Label.poolType, Label.poolName]

/-- Resources in use. -/
def inUse : Template where
  kind := .gauge
  name := "vertx_pool_in_use"
  description := "Number of resources used"
  keys := [Label.poolType, Label.poolName]

/-- The part of the pool that is in use. -/
def ratio : Template where
  kind := .gauge
  name := "vertx_pool_ratio"
  description := "Pool usage ratio, only present if maximum pool size could be determined"
  keys := [Label.poolType, Label.poolName, Label.maxPoolSize]

/-- Finished tasks. -/
def completed : Template where
  kind := .counter
  name := "vertx_pool_completed"
  description := "Number of elements done with the resource"
  keys := [Label.poolType, Label.poolName]

section Events

variable {α : Type} [Amount α] (pool : Pool)

/-- The label values of the pool. -/
def values : List String := [pool.type, pool.name]

/-- The change of a meter of this pool. -/
def touch (template : Template) (change : Change α) : Touch α :=
  pool.scope.touch template pool.values change

/-- The timing of this pool that begins now. -/
def sample (template : Template) : Sample :=
  Sample.of pool.scope template pool.values

/-- The part of the pool that is in use follows the number of resources in use. -/
def ratioFollows (level : α) : List (Touch α) :=
  if pool.size = 0 then []
  else
    let size := String.ofList (Number.natText pool.size.toNat)
    [pool.scope.touch ratio (pool.values ++ [size])
      (.assign (level / Amount.ofCount pool.size.toUInt64))]

/-- Changes the number of resources in use, and the part of the pool after it. -/
def shiftInUse (change : Change α) (h : Hub α) : Hub α :=
  let h := h.touch (pool.touch inUse change)
  let (m, h) := h.get ⟨pool.scope, inUse⟩ pool.values
  h.perform (pool.ratioFollows (h.level m))

/-- A task is submitted. -/
def submitted (h : Hub α) : Sample × Hub α :=
  let sample := pool.sample queueDelay
  (sample, h.perform [pool.touch queueSize .up, sample.start])

/-- A task is rejected after some time. -/
def rejected (task : Sample) (nanos : Nat) (h : Hub α) : Hub α :=
  h.perform [pool.touch queueSize .down, task.finish nanos]

/-- A task begins to use a resource after some time. -/
def begun (task : Sample) (nanos : Nat) (h : Hub α) : Sample × Hub α :=
  let h := h.perform [pool.touch queueSize .down, task.finish nanos]
  let h := pool.shiftInUse .up h
  let sample := pool.sample usage
  (sample, h.touch sample.start)

/-- A task ends after some time of use. -/
def ended (sample : Sample) (nanos : Nat) (h : Hub α) : Hub α :=
  let h := pool.shiftInUse .down h
  h.perform [sample.finish nanos, pool.touch completed .countOne]

end Events

end Pool

end Metering
