import HomeHub.Broadcast
import HomeHub.Service.Service
import HomeHub.Store

/-!
Where the effects of a service go: the store that keeps its record, and the slot from which its
values are relayed. Either may be missing, and what goes there is then lost.
-/

namespace HomeHub

structure Outlets where
  store : Option Store
  slot : Option BroadcastSlot

namespace Outlets

/-- Carries out one effect. -/
def apply (o : Outlets) : Service.Effect → Outlets
  | .record record => { o with store := o.store.map fun s => s.update record }
  | .publish value => { o with slot := o.slot.map fun slot => (slot.publish value).2 }

/-- Carries out effects in order. -/
def applyAll (o : Outlets) (effects : List Service.Effect) : Outlets := effects.foldl apply o

end Outlets

end HomeHub
