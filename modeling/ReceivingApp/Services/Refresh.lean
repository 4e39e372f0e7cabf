import ReceivingApp.Core.Ports

open Interaction

namespace ReceivingApp

inductive RefreshResult
  | success
  | cancelled
  | emptyAbort
  deriving DecidableEq, Repr

-- The first argument is the source's answer to `fetch_all_open_orders`.
def refreshAll (fetched : Except PyExc (List LineItem)) (now : String) (confirmed : Bool) :
    ServiceM RefreshResult := do
  if !confirmed then
    return .cancelled
  let items ← .ofExcept fetched
  if items = [] then
    return .emptyAbort
  let _before ← .perform .countPoItems
  .perform (.replacePoItems now items)
  let _after ← .perform .countPoItems
  return .success

end ReceivingApp
