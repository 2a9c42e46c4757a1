import TieredStore.Record.Calls
import TieredStore.Stack.Layers

/-!
# Stacks of record stores

How each call to a stack of record stores is made of calls to its layers.
-/

namespace TieredStore

namespace Stack

/-- A record call to a stack, by calls to its layers. -/
def throughRecordLayers (layers : List Nat) :
    (call : RecordCall) → Program (At Nat RecordCall) (Interface.Reply call)
  | .lifecycle op => fanOut (.ofCall (RecordCall.lifecycle op)) layers
  | .get oid => firstHit (Records.record? oid) layers
  | .apply update => fanOut (Records.apply update) layers
  | .remove oid => fanOut (Records.remove oid) layers
  | .keys => firstNonEmpty Records.keys layers
  | .query q => firstNonEmpty (Records.query q) layers

end Stack

end TieredStore
