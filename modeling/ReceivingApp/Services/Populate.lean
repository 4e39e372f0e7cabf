import ReceivingApp.Core.Ports

open Interaction

namespace ReceivingApp

-- The source is asked for the purchase order only if the repository has none of its rows.
def populatePo (fetchOrder : String → Except PyExc (List LineItem)) (now poNumber : String) :
    ServiceM Unit := do
  let existing ← .perform (.getPurchaseOrder poNumber)
  if existing = [] then
    let items ← .ofExcept (fetchOrder poNumber)
    .perform (.upsertItems now items)

end ReceivingApp
