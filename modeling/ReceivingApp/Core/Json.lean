import Mathlib.Data.List.Infix
import ReceivingApp.Core.Python
import ReceivingApp.Lib.Except

namespace ReceivingApp

-- The values that `json.loads` yields.
inductive Json
  | null
  | bool (b : Bool)
  | int (n : Int)
  | float (x : PyFloat)
  | str (s : String)
  | list (vs : List Json)
  | dict (fields : List (String × Json))
  deriving Repr

namespace Json

def typeName : Json → String
  | null    => "NoneType"
  | bool _  => "bool"
  | int _   => "int"
  | float _ => "float"
  | str _   => "str"
  | list _  => "list"
  | dict _  => "dict"

-- `bool(v)`
def truthy : Json → Bool
  | null    => false
  | bool b  => b
  | int n   => n ≠ 0
  | float x => x ≠ .fin 0
  | str s   => s ≠ ""
  | list vs => vs ≠ []
  | dict fs => fs ≠ []

def isStr (s : String) : Json → Bool
  | str s' => s = s'
  | _      => false

-- ### Operations

def raise {α : Type} (cls : ExcClass) (msg : String) : Except PyExc α :=
  .error ⟨cls, msg⟩

-- `v[key]`. The message of a KeyError is the `repr` of the key.
def getItem (v : Json) (key : String) : Except PyExc Json :=
  match v with
  | dict fields =>
    match fields.lookup key with
    | some w => .ok w
    | none   => raise .keyError s!"'{key}'"
  | str _  => raise .typeError "string indices must be integers, not 'str'"
  | list _ => raise .typeError "list indices must be integers or slices, not str"
  | v      => raise .typeError s!"'{v.typeName}' object is not subscriptable"

-- `v[0]`
def getFirst : Json → Except PyExc Json
  | list (w :: _) => .ok w
  | list []       => raise .indexError "list index out of range"
  | dict _        => raise .keyError "0"
  | str s =>
    match s.toList with
    | c :: _ => .ok (str (.singleton c))
    | []     => raise .indexError "string index out of range"
  | v => raise .typeError s!"'{v.typeName}' object is not subscriptable"

-- What a loop over the value goes through: the characters of a string and the keys of a dict.
def iter : Json → Except PyExc (List Json)
  | list vs     => .ok vs
  | str s       => .ok (s.toList.map (fun c => str (.singleton c)))
  | dict fields => .ok (fields.map (fun field => str field.1))
  | v           => raise .typeError s!"'{v.typeName}' object is not iterable"

-- `key in v`
def contains (v : Json) (key : String) : Except PyExc Bool :=
  match v with
  | dict fields => .ok (fields.lookup key).isSome
  | str s       => .ok (key.toList <:+: s.toList)
  | list vs     => .ok (vs.any (isStr key))
  | v           => raise .typeError s!"argument of type '{v.typeName}' is not iterable"

-- `v.get(key)`
def get (v : Json) (key : String) : Except PyExc (Option Json) :=
  match v with
  | dict fields => .ok (fields.lookup key)
  | v           => raise .attributeError s!"'{v.typeName}' object has no attribute 'get'"

-- What `hash(v)` raises.
def checkHash : Json → Except PyExc Unit
  | v@(list _) | v@(dict _) => raise .typeError s!"unhashable type: '{v.typeName}'"
  | _ => .ok ()

-- ### What is there

def field? (key : String) : Json → Option Json
  | dict fields => fields.lookup key
  | _           => none

def elements? : Json → Option (List Json)
  | list vs     => some vs
  | str s       => some (s.toList.map (fun c => str (.singleton c)))
  | dict fields => some (fields.map (fun field => str field.1))
  | _           => none

def head? : Json → Option Json
  | list vs => vs.head?
  | str s   => s.toList.head?.map (fun c => str (.singleton c))
  | _       => none

def IsDict : Json → Prop
  | dict _ => True
  | _      => False

def Hashable : Json → Prop
  | list _ | dict _ => False
  | _               => True

section

variable {v w : Json} {key : String} {e : PyExc}

theorem getItem_eq_ok_iff : v.getItem key = .ok w ↔ v.field? key = some w := by
  cases v
  case dict fields => cases h : fields.lookup key <;> simp [getItem, field?, h, raise]
  all_goals simp [getItem, field?, raise]

theorem cls_of_getItem (h : v.getItem key = .error e) : e.cls ∈ [.keyError, .typeError] := by
  simp only [getItem, raise] at h
  split at h
  case h_1 =>
    split at h <;> cases h
    exact List.mem_cons_self
  all_goals cases h; simp

theorem getFirst_eq_ok_iff : v.getFirst = .ok w ↔ v.head? = some w := by
  cases v
  case list vs => cases vs <;> simp [getFirst, head?, raise]
  case str s   => cases h : s.toList <;> simp [getFirst, head?, raise, h]
  all_goals simp [getFirst, head?, raise]

theorem cls_of_getFirst (h : v.getFirst = .error e) :
    e.cls ∈ [.keyError, .indexError, .typeError] := by
  simp only [getFirst, raise] at h
  split at h
  case h_1 => cases h
  case h_4 =>
    split at h <;> cases h
    decide
  all_goals cases h; simp

theorem iter_eq_ok_iff {vs : List Json} : v.iter = .ok vs ↔ v.elements? = some vs := by
  cases v <;> simp [iter, elements?, raise]

theorem cls_of_iter (h : v.iter = .error e) : e.cls = .typeError := by
  cases v
  case list | str | dict => cases h
  all_goals simp [← Except.error.inj h]

theorem get_eq_ok_iff {o : Option Json} : v.get key = .ok o ↔ v.IsDict ∧ v.field? key = o := by
  cases v <;> simp [get, field?, IsDict, raise]

theorem cls_of_get (h : v.get key = .error e) : e.cls = .attributeError := by
  cases v
  case dict => cases h
  all_goals simp [← Except.error.inj h]

theorem isDict_of_field? (h : v.field? key = some w) : v.IsDict := by
  cases v
  case dict => trivial
  all_goals cases h

theorem checkHash_eq_ok_iff : v.checkHash = .ok () ↔ v.Hashable := by
  cases v <;> simp [checkHash, Hashable, raise]

theorem cls_of_checkHash (h : v.checkHash = .error e) : e.cls = .typeError := by
  cases v
  case list | dict => simp [← Except.error.inj h]
  all_goals cases h

theorem isStr_iff {s : String} : v.isStr s ↔ v = str s := by
  cases v <;> simp [isStr, eq_comm]

end
end Json
end ReceivingApp
