namespace ReceivingApp

-- Floats as far as comparisons and JSON see them.
inductive PyFloat
  | fin (q : Rat)
  | inf
  | negInf
  | nan
  deriving DecidableEq, Repr

-- The values that are looked at. `other` is an object of any further type, known by its name.
inductive PyVal
  | none
  | bool (b : Bool)
  | int (n : Int)
  | float (x : PyFloat)
  | str (s : String)
  | list (vs : List PyVal)
  | dict (kvs : List (String × PyVal))
  | other (type : String)
  deriving Repr

-- A dict with string keys, in the order of insertion.
abbrev Dict := List (String × PyVal)

namespace Dict

def get? (d : Dict) (key : String) : Option PyVal :=
  d.lookup key

-- `d.get(key, default)`
def getD (d : Dict) (key : String) (default : PyVal) : PyVal :=
  (d.get? key).getD default

-- `d[key] = v`
def set (d : Dict) (key : String) (v : PyVal) : Dict :=
  match d with
  | []           => [(key, v)]
  | (k, w) :: d' => if k = key then (k, v) :: d' else (k, w) :: set d' key v

-- `d.update(e)`
def update (d e : Dict) : Dict :=
  e.foldl (fun d kv => d.set kv.1 kv.2) d

@[simp]
theorem get?_nil (key : String) : get? [] key = none :=
  rfl

@[simp]
theorem get?_cons (key k : String) (v : PyVal) (d : Dict) :
    get? ((k, v) :: d) key = if key = k then some v else d.get? key := by
  by_cases h : key = k <;> simp [get?, List.lookup_cons, h, beq_eq_false_iff_ne.mpr]

@[simp]
theorem set_cons (key k : String) (v w : PyVal) (d : Dict) :
    set ((k, w) :: d) key v = if k = key then (k, v) :: d else (k, w) :: d.set key v :=
  rfl

end Dict

namespace PyVal

def ofOption : Option String → PyVal
  | .none   => none
  | .some s => str s

-- `type(v).__name__`
def typeName : PyVal → String
  | none    => "NoneType"
  | bool _  => "bool"
  | int _   => "int"
  | float _ => "float"
  | str _   => "str"
  | list _  => "list"
  | dict _  => "dict"
  | other t => t

end PyVal

-- The exceptions of core/errors.py, the built-in ones the code runs into, and those of the browser.
inductive ExcClass
  | configError
  | validationError
  | sourceError
  | sinkError
  | repositoryError
  | syncKillError
  | printerError
  | scannerError
  | boardError
  | executorError
  | keyError
  | typeError
  | attributeError
  | valueError
  | indexError
  | overflowError
  | playwrightError
  | keyboardInterrupt
  deriving DecidableEq, Repr

structure PyExc where
  cls : ExcClass
  msg : String
  deriving DecidableEq, Repr

-- What `except Exception` catches.
def PyExc.isException (e : PyExc) : Bool :=
  e.cls ≠ .keyboardInterrupt

-- The characters `str.isspace` accepts, which are those `str.strip` removes.
def isSpace (c : Char) : Bool :=
  let n := c.toNat
  (9 ≤ n ∧ n ≤ 13) ∨ (28 ≤ n ∧ n ≤ 32) ∨ n = 0x85 ∨ n = 0xA0 ∨ n = 0x1680 ∨
    (0x2000 ≤ n ∧ n ≤ 0x200A) ∨ n = 0x2028 ∨ n = 0x2029 ∨ n = 0x202F ∨ n = 0x205F ∨ n = 0x3000

-- `not s.strip()`
def isBlank (s : String) : Bool :=
  s.toList.all isSpace

def strip (s : String) : String :=
  String.ofList ((s.toList.dropWhile isSpace).reverse.dropWhile isSpace).reverse

def isAscii (s : String) : Bool :=
  s.toList.all (fun c => c.toNat < 128)

-- `s.lower()` for a string of ASCII characters.
def asciiLower (s : String) : String :=
  String.ofList (s.toList.map Char.toLower)

def isDecimal (s : String) : Bool :=
  s ≠ "" ∧ s.toList.all (fun c => '0' ≤ c ∧ c ≤ '9')

-- The number a string of decimal digits stands for.
def decimal (s : String) : Nat :=
  s.toList.foldl (fun n c => 10 * n + (c.toNat - '0'.toNat)) 0

-- The parts of Python's standard library that the code relies on and that are not spelled out here,
-- together with what their documentation says of them:
-- `str.lower`, the hex digest of `hashlib.sha256`, whether `datetime.fromisoformat` accepts a
-- string, `int` of a string (`none` is a ValueError), and `format` of a float, plain and as `.1%`.
structure PyStd where
  lower       : String → String
  sha256Hex   : String → String
  isIsoFormat : String → Bool
  parseInt    : String → Option Int
  floatFormat : PyFloat → String
  percentFormat : Rat → String
  lower_ascii : ∀ s, isAscii s → lower s = asciiLower s
  sha256Hex_not_blank : ∀ s, ¬isBlank (sha256Hex s)

-- `str.isdigit` of a character. It accepts those that the Unicode database has as digits, which are
-- the decimal digits among the ASCII characters, and none of which is a space.
structure PyDigits where
  isDigit : Char → Bool
  isDigit_ascii : ∀ c, c.toNat < 128 → isDigit c = c.isDigit
  isSpace_eq_false : ∀ c, isDigit c → isSpace c = false

-- `f"{x}"` for a string or `None`.
def formatOpt : Option String → String
  | none   => "None"
  | some s => s

-- `x or ""`
def orEmpty : Option String → String
  | none   => ""
  | some s => s

-- `list(dict.fromkeys(xs))`
def fromkeys {α : Type} [DecidableEq α] : List α → List α
  | []      => []
  | x :: xs => x :: (fromkeys xs).filter (· ≠ x)

section Fromkeys

variable {α : Type} [DecidableEq α]

@[simp]
theorem mem_fromkeys {xs : List α} {x : α} : x ∈ fromkeys xs ↔ x ∈ xs := by
  induction xs
  case nil => simp [fromkeys]
  case cons y ys ih =>
    by_cases h : x = y <;> simp [fromkeys, ih, h]

theorem nodup_fromkeys (xs : List α) : (fromkeys xs).Nodup := by
  induction xs
  case nil => exact .nil
  case cons y ys ih => exact List.nodup_cons.mpr ⟨by simp, ih.filter _⟩

end Fromkeys

-- A time as `datetime.isoformat` writes it.
def sampleTime : String := "2026-06-19T10:00:00"

-- The standard library on ASCII input and on the sample time, with a digest that keeps its input.
def PyStd.ascii : PyStd where
  lower       := asciiLower
  sha256Hex s := "sha256:" ++ s
  isIsoFormat s := s = sampleTime
  parseInt s  := if isDecimal s then some (decimal s) else none
  floatFormat _ := "-1.0"
  percentFormat _ := "0.0%"
  lower_ascii _ _ := rfl
  sha256Hex_not_blank s := by simp [isBlank, isSpace]

theorem isSpace_of_isDigit {c : Char} (h : c.isDigit) : isSpace c = false := by
  have hc : 48 ≤ c.toNat ∧ c.toNat ≤ 57 := Char.isDigit_iff_toNat.mp h
  simp only [isSpace, decide_eq_false_iff_not]
  omega

def PyDigits.ascii : PyDigits where
  isDigit := Char.isDigit
  isDigit_ascii _ _ := rfl
  isSpace_eq_false _ := isSpace_of_isDigit

theorem PyStd.ascii_injective : Function.Injective PyStd.ascii.sha256Hex := by
  intro s s' h
  simpa [PyStd.ascii] using h

end ReceivingApp
