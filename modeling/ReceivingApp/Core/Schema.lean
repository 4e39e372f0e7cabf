import Mathlib.Algebra.Group.Int.Defs
import Mathlib.Algebra.Group.Nat.Defs
import ReceivingApp.Core.Python

namespace ReceivingApp

inductive MatchStatus
  | received
  | noMatch
  | needsAttention
  | alreadyScanned
  deriving DecidableEq, Repr

namespace MatchStatus

def value : MatchStatus → String
  | received       => "received"
  | noMatch        => "no_match"
  | needsAttention => "needs_attention"
  | alreadyScanned => "already_scanned"

-- The members of `_VALID_MATCH_STATUSES`.
def ofValue? (s : String) : Option MatchStatus :=
  [received, noMatch, needsAttention, alreadyScanned].find? (·.value = s)

@[simp]
theorem ofValue?_value (m : MatchStatus) : ofValue? m.value = some m := by
  cases m <;> rfl

end MatchStatus

-- `x < 0`
def PyFloat.isNeg : PyFloat → Bool
  | fin q  => q < 0
  | negInf => true
  | inf    => false
  | nan    => false

def dims : List String := ["w", "d", "h"]

-- The numbers `validate_record` lets through as a dimension.
def dimOk : Option PyVal → Bool
  | some (.int n)   => 0 ≤ n
  | some (.float x) => !x.isNeg
  | _               => false

def sizeOk (ps : Dict) : Bool :=
  dims.all (fun dim => dimOk (ps.get? dim))

-- A record is only ever built by `fromDict`, so what that function checks can be read off the type.
@[ext]
structure ReceivingRecord where
  truck           : String
  stop            : String
  salesOrder      : String
  modelNumber     : String
  productCategory : String
  productSize     : Dict
  quantity        : Int
  receivingId     : String
  timestamp       : String
  matchStatus     : MatchStatus
  purchaseOrder   : String
  inventoryId     : String
  serial          : String
  brand           : String
  vendor          : String
  tags            : String
  receivingId_not_blank : isBlank receivingId = false
  quantity_pos          : 1 ≤ quantity
  productSize_ok        : sizeOk productSize

def strFields : List String := [
  "truck", "stop", "sales_order", "model_number", "product_category", "receiving_id", "timestamp",
  "match_status", "purchase_order", "inventory_id"
]

def optionalStrFields : List String := ["serial", "brand", "vendor", "tags"]

-- ### validate_record

def strFieldProblems (data : Dict) (field : String) : List String :=
  match data.get? field with
  | none | some .none => [s!"{field}: missing required field"]
  | some (.str s) =>
    if field = "receiving_id" ∧ isBlank s then
      ["receiving_id: must be non-empty"]
    else if field = "match_status" ∧ MatchStatus.ofValue? s = none then
      [s!"match_status: '{s}' is not one of " ++
        "['already_scanned', 'needs_attention', 'no_match', 'received']"]
    else []
  | some v => [s!"{field}: expected str, got {v.typeName}"]

def optionalStrFieldProblems (data : Dict) (field : String) : List String :=
  match data.get? field with
  | none | some .none | some (.str _) => []
  | some v => [s!"{field}: expected str or None, got {v.typeName}"]

def timestampProblems (py : PyStd) (data : Dict) : List String :=
  match data.get? "timestamp" with
  | some (.str ts) =>
    if isBlank ts ∨ py.isIsoFormat ts then [] else [s!"timestamp: '{ts}' is not valid ISO-8601"]
  | _ => []

def quantityProblems (data : Dict) : List String :=
  match data.get? "quantity" with
  | none | some .none => ["quantity: missing required field"]
  | some (.int qty) =>
    if qty < 1 then [s!"quantity: must be a positive integer, got {qty}"] else []
  | some v => [s!"quantity: expected positive int, got {v.typeName}"]

def dimProblems (py : PyStd) (ps : Dict) (dim : String) : List String :=
  match ps.get? dim with
  | none            => [s!"product_size: missing key '{dim}'"]
  | some (.int n)   => if n < 0 then [s!"product_size[{dim}]: must be >= 0, got {n}"] else []
  | some (.float x) =>
    if x.isNeg then [s!"product_size[{dim}]: must be >= 0, got {py.floatFormat x}"] else []
  | some v => [s!"product_size[{dim}]: expected numeric, got {v.typeName}"]

def productSizeProblems (py : PyStd) (data : Dict) : List String :=
  match data.get? "product_size" with
  | none | some .none => ["product_size: missing required field"]
  | some (.dict ps)   => dims.flatMap (dimProblems py ps)
  | some v            => [s!"product_size: expected dict with w/d/h, got {v.typeName}"]

def validateRecord (py : PyStd) (data : Dict) : List String :=
  strFields.flatMap (strFieldProblems data) ++
  optionalStrFields.flatMap (optionalStrFieldProblems data) ++
  timestampProblems py data ++
  quantityProblems data ++
  productSizeProblems py data

section Validate

variable {py : PyStd} {data : Dict}

theorem validateRecord_eq_nil_iff :
    validateRecord py data = [] ↔
      (∀ f ∈ strFields, strFieldProblems data f = []) ∧
      (∀ f ∈ optionalStrFields, optionalStrFieldProblems data f = []) ∧
      timestampProblems py data = [] ∧ quantityProblems data = [] ∧
      productSizeProblems py data = [] := by
  simp [validateRecord]

theorem strFieldProblems_eq_nil_iff {f : String} :
    strFieldProblems data f = [] ↔ ∃ s, data.get? f = some (.str s) ∧
      (f = "receiving_id" → isBlank s = false) ∧
      (f = "match_status" → MatchStatus.ofValue? s ≠ none) := by
  simp only [strFieldProblems]
  split
  case h_3 s h =>
    split
    case isTrue h₁ => simp_all
    case isFalse h₁ =>
      split
      case isTrue h₂  => simp_all
      case isFalse h₂ =>
        refine iff_of_true rfl ⟨s, h, fun hf => ?_, fun hf hs => h₂ ⟨hf, hs⟩⟩
        simpa [hf] using h₁
  all_goals simp_all

theorem optionalStrFieldProblems_eq_nil_iff {f : String} :
    optionalStrFieldProblems data f = [] ↔
      data.get? f = none ∨ data.get? f = some .none ∨ ∃ s, data.get? f = some (.str s) := by
  simp only [optionalStrFieldProblems]
  split <;> simp_all

theorem timestampProblems_eq_nil_iff :
    timestampProblems py data = [] ↔
      ∀ ts, data.get? "timestamp" = some (.str ts) → isBlank ts ∨ py.isIsoFormat ts := by
  simp only [timestampProblems]
  split
  case h_1 ts h => cases hb : isBlank ts <;> simp_all
  case h_2      => simp_all

theorem quantityProblems_eq_nil_iff :
    quantityProblems data = [] ↔ ∃ n : Int, data.get? "quantity" = some (.int n) ∧ 1 ≤ n := by
  simp only [quantityProblems]
  split
  case h_3 n h => simp [h]
  all_goals simp_all

theorem dimProblems_eq_nil_iff {ps : Dict} {dim : String} :
    dimProblems py ps dim = [] ↔ dimOk (ps.get? dim) := by
  cases h : ps.get? dim
  case none => simp [dimProblems, dimOk, h]
  case some v => cases v <;> simp [dimProblems, dimOk, h]

theorem productSizeProblems_eq_nil_iff :
    productSizeProblems py data = [] ↔
      ∃ ps, data.get? "product_size" = some (.dict ps) ∧ sizeOk ps := by
  simp only [productSizeProblems]
  split
  case h_3 ps h => simp [h, sizeOk, dimProblems_eq_nil_iff]
  all_goals simp_all

end Validate

-- ### from_dict

def migrate (data : Dict) : Dict :=
  optionalStrFields.foldl (fun data field =>
    if (data.get? field).isNone then data ++ [(field, .str "")] else data) data

-- What is there stays as it is, and of the optional fields those that are absent become empty.
theorem get?_migrate_eq (data : Dict) (key : String) :
    (migrate data).get? key =
      (data.get? key).or (if key ∈ optionalStrFields then some (.str "") else none) := by
  suffices hs : ∀ fs : List String,
      Dict.get? (fs.foldl (fun (data : Dict) f =>
        if (data.get? f).isNone then data ++ [(f, PyVal.str "")] else data) data) key =
      (data.get? key).or (if key ∈ fs then some (.str "") else none) from hs optionalStrFields
  intro fs
  induction fs generalizing data
  case nil => simp
  case cons f fs hi =>
    rw [List.foldl_cons, hi]
    cases hf : data.get? f
    case some v => by_cases hk : key = f <;> simp [hf, hk]
    case none =>
      have ha : Dict.get? (data ++ [(f, PyVal.str "")]) key =
          (data.get? key).or (if key = f then some (.str "") else none) := by
        by_cases hk : key = f
        all_goals simp [Dict.get?, List.lookup_append, List.lookup_cons, hk, beq_eq_false_iff_ne.mpr]
      by_cases hk : key = f
      case pos =>
        subst hk
        simp [ha, hf]
      case neg => simp [ha, hk]

theorem get?_migrate {data : Dict} {field : String} (h : field ∉ optionalStrFields) :
    (migrate data).get? field = data.get? field := by
  rw [get?_migrate_eq, if_neg h, Option.or_none]

-- The field of a validated dict. Values of another type do not pass `validateRecord`.
def strOf (data : Dict) (field : String) : String :=
  match data.get? field with
  | some (.str s) => s
  | _             => ""

def intOf (data : Dict) (field : String) : Int :=
  match data.get? field with
  | some (.int n) => n
  | _             => 0

def dictOf (data : Dict) (field : String) : Dict :=
  match data.get? field with
  | some (.dict d) => d
  | _              => []

def statusOf (data : Dict) (field : String) : MatchStatus :=
  (MatchStatus.ofValue? (strOf data field)).getD .noMatch

def fromDict (py : PyStd) (data : Dict) : Except PyExc ReceivingRecord :=
  let data := migrate data
  if h : validateRecord py data = [] then
    .ok {
      truck           := strOf data "truck"
      stop            := strOf data "stop"
      salesOrder      := strOf data "sales_order"
      modelNumber     := strOf data "model_number"
      productCategory := strOf data "product_category"
      productSize     := dictOf data "product_size"
      quantity        := intOf data "quantity"
      receivingId     := strOf data "receiving_id"
      timestamp       := strOf data "timestamp"
      matchStatus     := statusOf data "match_status"
      purchaseOrder   := strOf data "purchase_order"
      inventoryId     := strOf data "inventory_id"
      serial          := strOf data "serial"
      brand           := strOf data "brand"
      vendor          := strOf data "vendor"
      tags            := strOf data "tags"
      receivingId_not_blank := by
        have hs := (validateRecord_eq_nil_iff.mp h).1 "receiving_id" (by decide)
        have ⟨s, hg, hb, _⟩ := strFieldProblems_eq_nil_iff.mp hs
        simpa [strOf, hg] using hb
      quantity_pos := by
        obtain ⟨n, hg, hn⟩ :=
          quantityProblems_eq_nil_iff.mp (validateRecord_eq_nil_iff.mp h).2.2.2.1
        simpa [intOf, hg] using hn
      productSize_ok := by
        obtain ⟨ps, hg, hp⟩ :=
          productSizeProblems_eq_nil_iff.mp (validateRecord_eq_nil_iff.mp h).2.2.2.2
        simpa [dictOf, hg] using hp
    }
  else
    .error ⟨.validationError,
      "Record failed validation:\n" ++
        "\n".intercalate ((validateRecord py data).map (fun p => s!"  {p}"))⟩

-- ### The limit on the digits of an integer

-- Whether `f"{n}"` returns. From 4301 digits on it raises a ValueError.
def formatsInt (n : Int) : Bool :=
  n.natAbs < 10 ^ 4300

def quantityFormats (data : Dict) : Bool :=
  match data.get? "quantity" with
  | some (.int qty) => 1 ≤ qty ∨ formatsInt qty
  | _               => true

def dimFormats (ps : Dict) (dim : String) : Bool :=
  match ps.get? dim with
  | some (.int n) => 0 ≤ n ∨ formatsInt n
  | _             => true

def productSizeFormats (data : Dict) : Bool :=
  match data.get? "product_size" with
  | some (.dict ps) => dims.all (dimFormats ps)
  | _               => true

-- Whether the messages about integers that are out of bounds can be written.
def formats (data : Dict) : Bool :=
  quantityFormats data ∧ productSizeFormats data

def tooManyDigits : PyExc where
  cls := .valueError
  msg := "Exceeds the limit (4300 digits) for integer string conversion"

-- `validate_record` with the exception that these messages can raise.
def runValidateRecord (py : PyStd) (data : Dict) : Except PyExc (List String) :=
  if formats data then .ok (validateRecord py data) else .error tooManyDigits

def runFromDict (py : PyStd) (data : Dict) : Except PyExc ReceivingRecord := do
  let _ ← runValidateRecord py (migrate data)
  fromDict py data

-- ### to_dict

def toDict (record : ReceivingRecord) : Dict := [
  ("truck",            .str record.truck),
  ("stop",             .str record.stop),
  ("sales_order",      .str record.salesOrder),
  ("model_number",     .str record.modelNumber),
  ("product_category", .str record.productCategory),
  ("product_size",     .dict record.productSize),
  ("quantity",         .int record.quantity),
  ("receiving_id",     .str record.receivingId),
  ("timestamp",        .str record.timestamp),
  ("match_status",     .str record.matchStatus.value),
  ("purchase_order",   .str record.purchaseOrder),
  ("inventory_id",     .str record.inventoryId),
  ("serial",           .str record.serial),
  ("brand",            .str record.brand),
  ("vendor",           .str record.vendor),
  ("tags",             .str record.tags)
]

end ReceivingApp
