import Mathlib.Data.List.Basic

/-!
Owns `ObjectQueue`: objects leave in the order in which they were put. Every
operation runs under the queue's lock, so one operation is one step; a taker of
an empty queue waits.
-/

namespace TrafficInspector

abbrev ObjectQueue (Object : Type) := List Object

namespace ObjectQueue

variable {Object : Type}

def putObject (queue : ObjectQueue Object) (obj : Object) : ObjectQueue Object :=
  queue ++ [obj]

/-- `getObject`; `none` while the caller has to wait. -/
def getObject : ObjectQueue Object → Option (Object × ObjectQueue Object)
  | [] => none
  | obj :: queue => some (obj, queue)

theorem getObject_eq_some {queue rest : ObjectQueue Object} {obj : Object} :
    getObject queue = some (obj, rest) ↔ queue = obj :: rest := by
  cases queue with
  | nil => simp [getObject]
  | cons first queue => simp [getObject]

end ObjectQueue

end TrafficInspector
