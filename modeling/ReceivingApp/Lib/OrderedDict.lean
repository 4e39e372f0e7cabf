import ReceivingApp.Lib.Table
import Mathlib.Data.List.Forall2

namespace Relational

-- A dict: its items in the order in which their keys were first set.
structure OrderedDict (κ ν : Type) where
  items : List (κ × ν)
  nodup : (items.map Prod.fst).Nodup

namespace OrderedDict

variable {κ ν : Type}

def empty : OrderedDict κ ν where
  items := []
  nodup := List.nodup_nil

def values (d : OrderedDict κ ν) : List ν :=
  d.items.map Prod.snd

variable [DecidableEq κ]

-- `d.get(k)`
def get? (d : OrderedDict κ ν) (k : κ) : Option ν :=
  (d.items.find? (fun kv => kv.1 = k)).map Prod.snd

-- `d[k] = v`, which leaves a key that is there in its place.
def set (d : OrderedDict κ ν) (k : κ) (v : ν) : OrderedDict κ ν :=
  if h : k ∈ d.items.map Prod.fst then {
    items := d.items.map (fun kv => if kv.1 = k then (k, v) else kv)
    nodup := by
      have hk : Prod.fst ∘ (fun kv : κ × ν => if kv.1 = k then (k, v) else kv) = Prod.fst := by
        funext kv
        by_cases hkv : kv.1 = k <;> simp [hkv]
      rw [List.map_map, hk]
      exact d.nodup
  } else {
    items := d.items ++ [(k, v)]
    nodup := by
      rw [List.map_append]
      exact List.nodup_append'.mpr ⟨d.nodup, List.nodup_singleton k, by simpa using h⟩
  }

theorem get?_set {d : OrderedDict κ ν} {k k' : κ} {v : ν} :
    (d.set k v).get? k' = if k' = k then some v else d.get? k' := by
  unfold get? set
  split
  case isTrue hk =>
    have hc : (fun kv : κ × ν => decide (kv.1 = k')) ∘ (fun kv => if kv.1 = k then (k, v) else kv) =
        fun kv => decide (kv.1 = k') := by
      funext kv
      by_cases hkv : kv.1 = k <;> simp [hkv]
    rw [List.find?_map, hc]
    cases hf : d.items.find? (fun kv => kv.1 = k')
    case none =>
      have hne : k' ≠ k := by
        rintro rfl
        have ⟨kv, hkv, he⟩ := List.mem_map.mp hk
        simpa [he] using List.find?_eq_none.mp hf kv hkv
      simp [hne]
    case some kv =>
      have hkv : kv.1 = k' := by simpa using List.find?_some hf
      by_cases hk' : k' = k <;> simp [hkv, hk']
  case isFalse hk =>
    have hn : d.items.find? (fun kv => kv.1 = k) = none := by
      rw [List.find?_eq_none]
      intro kv hkv he
      exact hk (List.mem_map.mpr ⟨kv, hkv, by simpa using he⟩)
    rw [List.find?_append]
    by_cases hk' : k' = k
    case pos => simp [hk', hn]
    case neg => simp [hk', Ne.symm hk']

theorem mem_values_of_get? {d : OrderedDict κ ν} {k : κ} {v : ν} (h : d.get? k = some v) :
    v ∈ d.values := by
  obtain ⟨kv, hkv, rfl⟩ := Option.map_eq_some_iff.mp h
  exact List.mem_map.mpr ⟨kv, List.mem_of_find?_eq_some hkv, rfl⟩

end OrderedDict

-- ### Dicts and tables

-- The items of the dict and the rows of the table are the same ones in the same order, as far as
-- the relation tells.
def Mirrors {κ ν α : Type} {key : α → Option κ} (R : ν → α → Prop) (d : OrderedDict κ ν)
    (t : Table key) : Prop :=
  List.Forall₂ (fun kv r => key r = some kv.1 ∧ R kv.2 r) d.items t.rows

namespace Mirrors

variable {κ ν α : Type} {key : α → Option κ} {R : ν → α → Prop} {d : OrderedDict κ ν}
variable {t : Table key} {k : κ} {v : ν} {a : α} {f : α → α}

theorem empty : Mirrors R .empty (.empty : Table key) :=
  .nil

theorem length_eq (h : Mirrors R d t) : d.items.length = t.rows.length :=
  List.Forall₂.length_eq h

theorem values (h : Mirrors R d t) : List.Forall₂ R d.values t.rows := by
  unfold OrderedDict.values
  rw [List.forall₂_map_left_iff]
  exact h.imp fun _ _ h => h.2

theorem mem_keys_iff (h : Mirrors R d t) :
    k ∈ d.items.map Prod.fst ↔ ∃ r ∈ t.rows, key r = some k := by
  unfold Mirrors at h
  generalize d.items = items at h
  generalize t.rows = rows at h
  induction h
  case nil => simp
  case cons kv r _ _ hr _ ih =>
    rw [List.map_cons, List.mem_cons, ih]
    simp [hr.1, eq_comm]

-- What both sides select tells the same.
theorem map_filter_eq {β : Type} {p : ν → Bool} {q : α → Bool} {f : ν → β} {g : α → β}
    (h : Mirrors R d t) (hp : ∀ v r, R v r → q r = p v) (hf : ∀ v r, R v r → g r = f v) :
    (t.rows.filter q).map g = (d.values.filter p).map f := by
  have hv := h.values
  generalize d.values = values at hv
  generalize t.rows = rows at hv
  induction hv
  case nil => rfl
  case cons v r _ _ hr _ ih =>
    rw [List.filter_cons, List.filter_cons, hp v r hr]
    split
    case isTrue  => rw [List.map_cons, List.map_cons, hf v r hr, ih]
    case isFalse => exact ih

variable [DecidableEq κ]

-- What is found under a key on one side is found on the other.
theorem rel_find (h : Mirrors R d t) (k : κ) : Option.Rel R (d.get? k) (t.find k) := by
  unfold Mirrors at h
  unfold OrderedDict.get? Table.find
  generalize d.items = items at h
  generalize t.rows = rows at h
  induction h
  case nil => exact .none
  case cons kv r kvs rs hr _ ih =>
    by_cases hk : kv.1 = k
    case pos =>
      rw [List.find?_cons_of_pos (by simpa using hk),
        List.find?_cons_of_pos (by simpa [hk] using hr.1)]
      exact .some hr.2
    case neg =>
      rw [List.find?_cons_of_neg (by simpa using hk),
        List.find?_cons_of_neg (by simpa [hr.1] using hk)]
      exact ih

-- One item is set, and the row of its key is updated with it.
theorem set_map {g : α → α} (h : Mirrors R d t) (hg : ∀ r, key (g r) = key r)
    (hs : ∀ r ∈ t.rows, key r = some k → R v (g r))
    (ho : ∀ r ∈ t.rows, key r ≠ some k → g r = r) :
    List.Forall₂ (fun kv r => key r = some kv.1 ∧ R kv.2 r)
      (d.items.map (fun kv => if kv.1 = k then (k, v) else kv)) (t.rows.map g) := by
  rw [List.forall₂_map_left_iff, List.forall₂_map_right_iff, List.forall₂_iff_zip]
  refine ⟨h.length_eq, fun {kv r} hz => ?_⟩
  have hr : r ∈ t.rows := (List.of_mem_zip hz).2
  have ⟨hk, hR⟩ := List.forall₂_zip h hz
  rw [hg]
  by_cases hkv : kv.1 = k
  case pos =>
    rw [if_pos hkv]
    exact ⟨hkv ▸ hk, hs r hr (hkv ▸ hk)⟩
  case neg =>
    rw [if_neg hkv, ho r hr (by simpa [hk] using hkv)]
    exact ⟨hk, hR⟩

theorem set_modify {p : α → Bool} (h : Mirrors R d t) (hf : ∀ r, key (f r) = key r)
    (hk : (d.get? k).isSome)
    (hp : ∀ r, p r → key r = some k)
    (hs : ∀ r, t.find k = some r → R v (if p r then f r else r)) :
    Mirrors R (d.set k v) (t.modify p f hf) := by
  have hd : k ∈ d.items.map Prod.fst := by
    rw [h.mem_keys_iff]
    cases hr : t.find k
    case some r => exact ⟨r, Table.mem_of_find hr, Table.key_of_find hr⟩
    case none =>
      have hrel := h.rel_find k
      cases hv : d.get? k
      case none   => simp [hv] at hk
      case some _ => simp [hr, hv] at hrel
  unfold Mirrors OrderedDict.set Table.modify
  rw [dif_pos hd]
  refine h.set_map (fun r => ?_) (fun r hr hrk => ?_) fun r _ hrk => if_neg (mt (hp r) hrk)
  · split
    case isTrue  => exact hf r
    case isFalse => rfl
  · exact hs r (Table.find_eq_some_iff.mpr ⟨hr, hrk⟩)

theorem set_upsert (h : Mirrors R d t) (hf : ∀ r, key (f r) = key r) (hk : key a = some k)
    (hn : t.find k = none → R v a)
    (hs : ∀ r, t.find k = some r → R v (f r)) : Mirrors R (d.set k v) (t.upsert a f hf) := by
  have hex : (∃ r ∈ t.rows, (key r).isSome ∧ key r = key a) ↔ k ∈ d.items.map Prod.fst := by
    rw [h.mem_keys_iff, hk]
    exact exists_congr fun r => and_congr_right fun _ => ⟨fun h => h.2, fun h => ⟨by simp [h], h⟩⟩
  unfold Mirrors OrderedDict.set Table.upsert
  by_cases hd : k ∈ d.items.map Prod.fst
  case pos =>
    rw [dif_pos hd, dif_pos (hex.mpr hd)]
    refine h.set_map (fun r => ?_) (fun r hr hrk => ?_) fun r _ hrk => if_neg (by simpa [hk] using hrk)
    · split
      case isTrue  => exact hf r
      case isFalse => rfl
    · rw [if_pos (by simpa [hk] using hrk)]
      exact hs r (Table.find_eq_some_iff.mpr ⟨hr, hrk⟩)
  case neg =>
    rw [dif_neg hd, dif_neg (mt hex.mp hd)]
    refine List.rel_append h (.cons ⟨hk, hn ?_⟩ .nil)
    exact Table.find_eq_none_iff.mpr fun r hr hrk => hd (h.mem_keys_iff.mpr ⟨r, hr, hrk⟩)

end Mirrors
end Relational
