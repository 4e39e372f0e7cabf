import ReceivingApp.Core.Python

namespace ReceivingApp

variable {py : PyStd}

-- The lower-cased string without hyphens and without spaces.
def normalizeKey (py : PyStd) (s : String) : String :=
  String.ofList (((py.lower s).toList.filter (· ≠ '-')).filter (· ≠ ' '))

def exactModelMatch (py : PyStd) (a b : String) : Bool :=
  let na := normalizeKey py a
  let nb := normalizeKey py b
  na ≠ "" ∧ nb ≠ "" ∧ na = nb

def resolveExact (py : PyStd) (barcode : String) (candidates : List String) : Option String :=
  match candidates.filter (exactModelMatch py barcode) with
  | [c] => some c
  | _   => none

-- ### The forward-only walk

namespace Matching

inductive MatchStatus
  | auto
  | propose
  | needsInput
  deriving DecidableEq, Repr

structure MatchResult where
  status     : MatchStatus
  model      : Option String
  candidates : List String
  deriving DecidableEq, Repr

-- The walk over what remains of the model and of the barcode.
def walk : List Char → List Char → Bool
  | [], _           => true
  | _ :: _, []      => false
  | m :: ms, b :: bs => if b = m then walk ms bs else walk (m :: ms) bs

end Matching

def modelMatchesBarcode (py : PyStd) (model barcode : String) : Bool :=
  if model = "" ∨ barcode = "" then false
  else Matching.walk (py.lower model).toList (py.lower barcode).toList

-- ### The loops of the walk

namespace Matching

-- `s[i]` for an index from zero on
def subscript (s : List Char) (i : Nat) : Except PyExc Char :=
  match s[i]? with
  | some c => .ok c
  | none   => .error ⟨.indexError, "string index out of range"⟩

-- The inner loop: scan forward for the next needed character.
def scanForward (barcodeLower : List Char) (modelChar : Char) (barcodePos : Nat) :
    Except PyExc Nat :=
  if barcodePos < barcodeLower.length then do
    if (← subscript barcodeLower barcodePos) ≠ modelChar then
      scanForward barcodeLower modelChar (barcodePos + 1)
    else
      return barcodePos
  else
    return barcodePos
termination_by barcodeLower.length - barcodePos

-- The outer loop, over the characters of the model.
def walkFrom (barcodeLower : List Char) : List Char → Nat → Except PyExc Bool
  | [], _ => return true
  | modelChar :: modelLower, barcodePos => do
    let barcodePos ← scanForward barcodeLower modelChar barcodePos
    if barcodePos ≥ barcodeLower.length then
      return false
    else
      walkFrom barcodeLower modelLower (barcodePos + 1)

end Matching

-- The walk with its cursor, where a subscript out of range raises.
def modelMatchesBarcodeLoop (py : PyStd) (model barcode : String) : Except PyExc Bool :=
  if model = "" ∨ barcode = "" then
    return false
  else
    Matching.walkFrom (py.lower barcode).toList (py.lower model).toList 0

-- ### Resolution

open Matching in
def resolveModel (py : PyStd) (barcode : String) (poModels : List String) : MatchResult :=
  match poModels.filter (fun m => normalizeKey py m = normalizeKey py barcode) with
  | [m]           => ⟨.auto, some m, []⟩
  | m :: m' :: ms => ⟨.needsInput, none, m :: m' :: ms⟩
  | [] =>
    match poModels.filter (fun m => modelMatchesBarcode py m barcode) with
    | [m]    => ⟨.propose, some m, []⟩
    | walked => ⟨.needsInput, none, walked⟩

-- ### The exact match

theorem exactModelMatch_iff {a b : String} :
    exactModelMatch py a b ↔ normalizeKey py a ≠ "" ∧ normalizeKey py a = normalizeKey py b := by
  simp only [exactModelMatch, decide_eq_true_eq]
  constructor
  · exact fun ⟨h, _, he⟩ => ⟨h, he⟩
  · exact fun ⟨h, he⟩ => ⟨h, he ▸ h, he⟩

-- One member of a list without repetitions remains exactly if it is the only one that passes.
theorem filter_eq_singleton_iff {α : Type} {p : α → Bool} {l : List α} {x : α} (hn : l.Nodup) :
    l.filter p = [x] ↔ (x ∈ l ∧ p x) ∧ ∀ y ∈ l, p y → y = x := by
  constructor
  case mp =>
    intro h
    have hm : ∀ y, y ∈ l ∧ p y ↔ y = x := fun y => by
      rw [← List.mem_filter, h, List.mem_singleton]
    exact ⟨(hm x).mpr rfl, fun y h₁ h₂ => (hm y).mp ⟨h₁, h₂⟩⟩
  case mpr =>
    intro ⟨hx, hu⟩
    have hf := hn.filter p
    generalize hl : l.filter p = l' at hf
    have hmem {y} : y ∈ l' ↔ y = x := by
      rw [← hl, List.mem_filter]
      exact ⟨fun h => hu y h.1 h.2, fun h => h ▸ hx⟩
    rcases l' with _ | ⟨y, _ | ⟨z, t⟩⟩
    case nil       => exact absurd (hmem.mpr rfl) List.not_mem_nil
    case cons.nil  => rw [hmem.mp (List.mem_singleton_self y)]
    case cons.cons =>
      have hy := hmem.mp (List.mem_cons_self (a := y))
      have hz := hmem.mp (List.mem_cons_of_mem y (List.mem_cons_self (a := z)))
      exact absurd (List.mem_cons.mpr (.inl (hy.trans hz.symm))) (List.nodup_cons.mp hf).1

theorem resolveExact_eq_some_iff {barcode m : String} {candidates : List String} :
    resolveExact py barcode candidates = some m ↔
      candidates.filter (exactModelMatch py barcode) = [m] := by
  simp only [resolveExact]
  split <;> simp_all

-- On a list without repetitions, exactly one of its members has to match.
theorem resolveExact_eq_some_iff_of_nodup {barcode m : String} {candidates : List String}
    (hn : candidates.Nodup) :
    resolveExact py barcode candidates = some m ↔
      (m ∈ candidates ∧ exactModelMatch py barcode m) ∧
        ∀ m' ∈ candidates, exactModelMatch py barcode m' → m' = m := by
  rw [resolveExact_eq_some_iff, filter_eq_singleton_iff hn]

end ReceivingApp
