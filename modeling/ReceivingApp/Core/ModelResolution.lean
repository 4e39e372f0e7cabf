import ReceivingApp.Core.Matching

namespace ReceivingApp

inductive ScanVerdict
  | auto
  | propose
  | needsModel
  deriving DecidableEq, Repr

structure ModelScanResult where
  verdict : ScanVerdict
  model   : Option String
  deriving DecidableEq, Repr

def resolveScan (py : PyStd) (rawBarcode : String) (poModels : List String)
    (learnedModel : Option String) : ModelScanResult :=
  match learnedModel with
  | some learned => ⟨.auto, some learned⟩
  | none =>
    match resolveExact py rawBarcode poModels with
    | some exact => ⟨.auto, some exact⟩
    | none =>
      let walk := resolveModel py rawBarcode poModels
      match walk.status with
      | .auto       => ⟨.auto, walk.model⟩
      | .propose    => ⟨.propose, walk.model⟩
      | .needsInput => ⟨.needsModel, none⟩

end ReceivingApp
