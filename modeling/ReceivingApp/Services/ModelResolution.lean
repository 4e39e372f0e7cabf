import ReceivingApp.Core.ModelResolution
import ReceivingApp.Core.Ports

open Interaction

namespace ReceivingApp

def resolveModelBarcode (py : PyStd) (rawBarcode poNumber : String) :
    ServiceM ModelScanResult := do
  let learnedModel ← .perform (.lookupBarcodeMapping rawBarcode)
  let candidates ← .perform (.unclaimedForPo poNumber)
  return resolveScan py rawBarcode (fromkeys (candidates.map (·.modelNumber))) learnedModel

def checkModelOnPo (py : PyStd) (model poNumber : String) : ServiceM Bool := do
  let candidates ← .perform (.unclaimedForPo poNumber)
  return candidates.any (fun c => exactModelMatch py model c.modelNumber)

end ReceivingApp
