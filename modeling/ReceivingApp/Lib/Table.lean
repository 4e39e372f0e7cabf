import Mathlib.Data.List.Nodup
import Mathlib.Data.List.Perm.Subperm

namespace Relational

-- A table with a key column: its rows in the order of their insertion, no two of them with the same
-- key. As in SQL, `none` is a null key, which any number of rows may have.
structure Table {α κ : Type} (key : α → Option κ) where
  rows  : List α
  nodup : (rows.filterMap key).Nodup

namespace Table

variable {α κ : Type} {key : α → Option κ}

@[ext]
theorem ext {t₁ t₂ : Table key} (h : t₁.rows = t₂.rows) : t₁ = t₂ := by
  cases t₁; cases t₂; cases h; rfl

def empty : Table key where
  rows  := []
  nodup := .nil

theorem eq_of_key_eq {t : Table key} {r₁ r₂ : α} {k : κ} (h₁ : r₁ ∈ t.rows) (h₂ : r₂ ∈ t.rows)
    (hk₁ : key r₁ = some k) (hk₂ : key r₂ = some k) : r₁ = r₂ := by
  have ⟨rows, nodup⟩ := t
  simp only at h₁ h₂
  induction rows
  case nil => cases h₁
  case cons r rows ih =>
    have not_mem {r'} (hr : key r = some k) (h' : r' ∈ rows) (hk' : key r' = some k) : False := by
      rw [List.filterMap_cons_some hr, List.nodup_cons] at nodup
      exact nodup.1 (List.mem_filterMap.mpr ⟨r', h', hk'⟩)
    have hn : (rows.filterMap key).Nodup :=
      nodup.sublist ((List.sublist_cons_self r rows).filterMap key)
    rcases List.mem_cons.mp h₁ with e₁ | h₁ <;> rcases List.mem_cons.mp h₂ with e₂ | h₂
    · rw [e₁, e₂]
    · exact (not_mem (e₁ ▸ hk₁) h₂ hk₂).elim
    · exact (not_mem (e₂ ▸ hk₂) h₁ hk₁).elim
    · exact ih hn h₁ h₂

theorem map_key_eq {l : List α} (h : ∀ r ∈ l, key r ≠ none) :
    l.map key = (l.filterMap key).map some := by
  induction l
  case nil => rfl
  case cons r l ih =>
    have ⟨k, hk⟩ := Option.ne_none_iff_exists'.mp (h r List.mem_cons_self)
    rw [List.filterMap_cons_some hk, List.map_cons, List.map_cons, hk,
      ih fun r hr => h r (List.mem_cons_of_mem _ hr)]

-- Leaving out one key leaves out one row.
theorem countP_filter_ne {κ : Type} [DecidableEq κ] {key : α → Option κ} {rows : List α}
    (hn : (rows.filterMap key).Nodup) {r : α} {k : κ} (hr : r ∈ rows) (hk : key r = some k)
    {q : α → Bool} (hq : q r) :
    (rows.filter (fun r => key r ≠ some k)).countP q + 1 = rows.countP q := by
  induction rows
  case nil => cases hr
  case cons x rows ih =>
    by_cases hx : key x = some k
    case pos =>
      rw [List.filterMap_cons_some hx, List.nodup_cons] at hn
      have hne : ∀ r' ∈ rows, key r' ≠ some k := fun r' hr' hk' =>
        hn.1 (List.mem_filterMap.mpr ⟨r', hr', hk'⟩)
      have he : r = x := (List.mem_cons.mp hr).resolve_right fun h => hne r h hk
      have hf : rows.filter (fun r => key r ≠ some k) = rows :=
        List.filter_eq_self.mpr (by simpa using hne)
      rw [List.filter_cons_of_neg (by simpa using hx), hf, List.countP_cons_of_pos (he ▸ hq)]
    case neg =>
      have hr' : r ∈ rows := (List.mem_cons.mp hr).resolve_left fun h => hx (h ▸ hk)
      have hn' : (rows.filterMap key).Nodup :=
        hn.sublist ((List.sublist_cons_self x rows).filterMap key)
      have h := ih hn' hr'
      rw [List.filter_cons_of_pos (by simpa using hx), List.countP_cons, List.countP_cons]
      omega

-- `UPDATE ... SET f WHERE p`, for an update that leaves the key column alone.
def modify (t : Table key) (p : α → Bool) (f : α → α) (hf : ∀ r, key (f r) = key r) :
    Table key where
  rows  := t.rows.map (fun r => if p r then f r else r)
  nodup := by
    have hk : key ∘ (fun r => if p r then f r else r) = key := by
      funext r
      by_cases hp : p r <;> simp [hp, hf]
    rw [List.filterMap_map, hk]
    exact t.nodup

section Modify

variable {t : Table key} {p : α → Bool} {f : α → α} {hf : ∀ r, key (f r) = key r} {r : α}

theorem mem_modify :
    r ∈ (t.modify p f hf).rows ↔ ∃ r' ∈ t.rows, (if p r' then f r' else r') = r := by
  simp [modify]

theorem mem_modify_of_mem (p : α → Bool) (f : α → α) (hf : ∀ r, key (f r) = key r)
    (h : r ∈ t.rows) : (if p r then f r else r) ∈ (t.modify p f hf).rows :=
  mem_modify.mpr ⟨r, h, rfl⟩

theorem modify_eq_self (h : ∀ r ∈ t.rows, ¬p r) : t.modify p f hf = t := by
  apply ext
  exact (List.map_congr_left fun r hr => if_neg (h r hr)).trans (List.map_id' t.rows)

-- What an update leaves alone is found as before.
theorem findSome?_modify {β : Type} {g : α → Option β} (h : ∀ r ∈ t.rows, p r → g (f r) = g r) :
    (t.modify p f hf).rows.findSome? g = t.rows.findSome? g := by
  unfold modify
  rw [List.findSome?_map]
  generalize t.rows = rows at h
  induction rows
  case nil => rfl
  case cons r rows ih =>
    have hr : g (if p r then f r else r) = g r := by
      split
      case isTrue hp => exact h r List.mem_cons_self hp
      case isFalse   => rfl
    rw [List.findSome?_cons, List.findSome?_cons, Function.comp_apply, hr,
      ih fun r' hr' => h r' (List.mem_cons_of_mem r hr')]

end Modify

-- Row by row, a table becomes another one: no row leaves its place, or changes its key, and what
-- becomes of it is in the relation.
def Evolves (R : α → α → Prop) (t t' : Table key) : Prop :=
  ∀ (i : Nat) (r : α), t.rows[i]? = some r → ∃ r', t'.rows[i]? = some r' ∧ key r' = key r ∧ R r r'

namespace Evolves

variable {R : α → α → Prop} {t t₁ t₂ : Table key}

theorem refl (hR : ∀ r, R r r) (t : Table key) : Evolves R t t :=
  fun _ r h => ⟨r, h, rfl, hR r⟩

theorem trans (hR : ∀ {r₁ r₂ r₃}, R r₁ r₂ → R r₂ r₃ → R r₁ r₃) (h₁ : Evolves R t t₁)
    (h₂ : Evolves R t₁ t₂) : Evolves R t t₂ := by
  intro i r hr
  have ⟨r₁, hr₁, hk₁, hR₁⟩ := h₁ i r hr
  have ⟨r₂, hr₂, hk₂, hR₂⟩ := h₂ i r₁ hr₁
  exact ⟨r₂, hr₂, hk₂.trans hk₁, hR hR₁ hR₂⟩

theorem modify {p : α → Bool} {f : α → α} (hf : ∀ r, key (f r) = key r) (hR : ∀ r, R r r)
    (hp : ∀ r, p r → R r (f r)) : Evolves R t (t.modify p f hf) := by
  intro i r hr
  refine ⟨if p r then f r else r, by simp [Table.modify, hr], ?_⟩
  split
  case isTrue h  => exact ⟨hf r, hp r h⟩
  case isFalse   => exact ⟨rfl, hR r⟩

end Evolves

variable [DecidableEq κ]

-- The row stored under a key.
def find (t : Table key) (k : κ) : Option α :=
  t.rows.find? (fun r => key r = some k)

theorem mem_of_find {t : Table key} {k : κ} {r : α} (h : t.find k = some r) : r ∈ t.rows :=
  List.mem_of_find?_eq_some h

theorem key_of_find {t : Table key} {k : κ} {r : α} (h : t.find k = some r) : key r = some k := by
  simpa using List.find?_some h

theorem find_eq_some_iff {t : Table key} {k : κ} {r : α} :
    t.find k = some r ↔ r ∈ t.rows ∧ key r = some k := by
  constructor
  case mp => exact fun h => ⟨mem_of_find h, key_of_find h⟩
  case mpr =>
    intro ⟨hr, hk⟩
    cases hf : t.find k
    case none   => simp [find, List.find?_eq_none] at hf; exact absurd hk (hf r hr)
    case some r' => rw [eq_of_key_eq hr (mem_of_find hf) hk (key_of_find hf)]

theorem find_eq_none_iff {t : Table key} {k : κ} :
    t.find k = none ↔ ∀ r ∈ t.rows, key r ≠ some k := by
  simp [find, List.find?_eq_none]

-- At most one row is stored under a key.
theorem filter_key {t : Table key} {k : κ} :
    t.rows.filter (fun r => key r = some k) = (t.find k).toList := by
  have hl {r} : r ∈ t.rows.filter (fun r => key r = some k) ↔ t.find k = some r := by
    rw [List.mem_filter, find_eq_some_iff, decide_eq_true_eq]
  have hn : ((t.rows.filter (fun r => key r = some k)).filterMap key).Nodup :=
    t.nodup.sublist (List.filter_sublist.filterMap key)
  generalize t.rows.filter (fun r => key r = some k) = l at hl hn
  have hkey {r} (hr : r ∈ l) : key r = some k := key_of_find (hl.mp hr)
  rcases l with _ | ⟨r, _ | ⟨r', l⟩⟩
  case nil =>
    cases hf : t.find k
    case none   => rfl
    case some r => exact absurd (hl.mpr hf) List.not_mem_nil
  case cons.nil  => rw [hl.mp (List.mem_singleton_self r), Option.toList_some]
  case cons.cons =>
    have hr' : r' ∈ r :: r' :: l := List.mem_cons_of_mem r List.mem_cons_self
    rw [List.filterMap_cons_some (hkey List.mem_cons_self),
      List.filterMap_cons_some (hkey hr')] at hn
    exact absurd List.mem_cons_self (List.nodup_cons.mp hn).1

theorem find_modify {t : Table key} {p : α → Bool} {f : α → α} {hf : ∀ r, key (f r) = key r}
    {k : κ} :
    (t.modify p f hf).find k = (t.find k).map (fun r => if p r then f r else r) := by
  have hk : (fun r => decide (key r = some k)) ∘ (fun r => if p r then f r else r) =
      fun r => decide (key r = some k) := by
    funext r
    by_cases hp : p r <;> simp [hp, hf]
  simp only [find, modify, List.find?_map, hk]

theorem find_append {t : Table key} {a : α} {k : κ} (hn : ((t.rows ++ [a]).filterMap key).Nodup) :
    (⟨t.rows ++ [a], hn⟩ : Table key).find k =
      (t.find k).or (if key a = some k then some a else none) := by
  simp only [find, List.find?_append, List.find?_cons, List.find?_nil]
  by_cases hk : key a = some k <;> simp [hk]

-- `INSERT ... ON CONFLICT(key) DO UPDATE SET f`. A row with a null key never conflicts.
def upsert (t : Table key) (a : α) (f : α → α) (hf : ∀ r, key (f r) = key r) : Table key :=
  if h : ∃ r ∈ t.rows, (key r).isSome ∧ key r = key a then
    t.modify (fun r => key r = key a) f hf
  else {
    rows  := t.rows ++ [a]
    nodup := by
      rw [List.filterMap_append]
      refine t.nodup.append ?_ (fun k hk ha => h ?_)
      · cases ha : key a <;> simp [ha]
      · have ⟨r, hr, hrk⟩ := List.mem_filterMap.mp hk
        have hak : key a = some k := by simpa [eq_comm] using ha
        exact ⟨r, hr, by simp [hrk], hrk.trans hak.symm⟩
  }

section Upsert

variable {t : Table key} {a : α} {f : α → α} {hf : ∀ r, key (f r) = key r}

theorem find_upsert {k : κ} :
    (t.upsert a f hf).find k =
      if key a = some k then some ((t.find k).elim a f) else t.find k := by
  simp only [upsert]
  split
  case isTrue h =>
    rw [find_modify]
    cases hfk : t.find k
    case none =>
      have ⟨r, hr, _, hra⟩ := h
      have hne : key a ≠ some k := hra ▸ find_eq_none_iff.mp hfk r hr
      simp [hne]
    case some r => simp [key_of_find hfk, eq_comm]; split <;> simp_all
  case isFalse h =>
    rw [find_append]
    cases hfk : t.find k
    case none   => split <;> rfl
    case some r =>
      have hne : key a ≠ some k := fun hk =>
        h ⟨r, mem_of_find hfk, by simp [key_of_find hfk], (key_of_find hfk).trans hk.symm⟩
      simp [hne]

@[simp]
theorem find_upsert_self {k : κ} (h : key a = some k) :
    (t.upsert a f hf).find k = some ((t.find k).elim a f) := by
  rw [find_upsert, if_pos h]

theorem find_upsert_of_ne {k : κ} (h : key a ≠ some k) : (t.upsert a f hf).find k = t.find k := by
  rw [find_upsert, if_neg h]

-- What an insertion leaves in the table: the new row, the row it met, or a row it did not touch.
theorem mem_upsert {r : α} (h : r ∈ (t.upsert a f hf).rows) :
    (r = a ∧ ∀ r' ∈ t.rows, (key r').isSome → key r' ≠ key a) ∨
    (∃ r' ∈ t.rows, key r' = key a ∧ r = f r') ∨ (r ∈ t.rows ∧ key r ≠ key a) ∨
    (r ∈ t.rows ∧ key r = none) := by
  simp only [upsert] at h
  split at h
  case isTrue hc =>
    obtain ⟨r', hr', rfl⟩ := mem_modify.mp h
    by_cases hk : key r' = key a
    case pos => exact .inr <| .inl ⟨r', hr', hk, by simp [hk]⟩
    case neg => exact .inr <| .inr <| .inl ⟨by simp [hk, hr'], by simp [hk]⟩
  case isFalse hc =>
    rcases List.mem_append.mp h with hr | hr
    · cases hk : key r
      case none   => exact .inr <| .inr <| .inr ⟨hr, rfl⟩
      case some k =>
        refine .inr <| .inr <| .inl ⟨hr, fun he => hc ⟨r, hr, by simp [hk], hk.trans he⟩⟩
    · refine .inl ⟨by simpa using hr, fun r' hr' hs he => hc ⟨r', hr', hs, he⟩⟩

theorem findSome?_upsert {β : Type} {g : α → Option β} (ha : g a = none)
    (h : ∀ r ∈ t.rows, key r = key a → g r = none ∧ g (f r) = none) :
    (t.upsert a f hf).rows.findSome? g = t.rows.findSome? g := by
  unfold Table.upsert
  split
  case isTrue =>
    refine findSome?_modify fun r hr hk => ?_
    have ⟨hn, hn'⟩ := h r hr (by simpa using hk)
    rw [hn, hn']
  case isFalse => simp [List.findSome?_append, ha]

-- A null key conflicts with nothing.
theorem filter_null_upsert :
    (t.upsert a f hf).rows.filter (fun r => key r = none) =
      t.rows.filter (fun r => key r = none) ++ [a].filter (fun r => key r = none) := by
  unfold Table.upsert
  split
  case isFalse => exact List.filter_append ..
  case isTrue h =>
    have ⟨r, _, hs, hr⟩ := h
    have hka : key a ≠ none := fun hn => by simp [hr, hn] at hs
    have hc : (fun r => decide (key r = none)) ∘ (fun r => if key r = key a then f r else r) =
        fun r => decide (key r = none) := by
      funext r
      by_cases hk : key r = key a <;> simp [hk, hf]
    have hm (l : List α) (h : ∀ r ∈ l, key r = none) :
        l.map (fun r => if key r = key a then f r else r) = l := by
      refine (List.map_congr_left fun r hr => if_neg ?_).trans (List.map_id' l)
      exact fun he => hka (he ▸ h r hr)
    simp only [modify, decide_eq_true_eq, List.filter_map, hc]
    rw [hm _ fun r hr => of_decide_eq_true (List.mem_filter.mp hr).2]
    simp [hka]

theorem Evolves.upsert {R : α → α → Prop} (hR : ∀ r, R r r) (hf' : ∀ r, R r (f r)) :
    Evolves R t (t.upsert a f hf) := by
  unfold Table.upsert
  split
  case isTrue => exact .modify hf hR fun r _ => hf' r
  case isFalse =>
    intro i r hr
    have hi : i < t.rows.length := (List.getElem?_eq_some_iff.mp hr).1
    exact ⟨r, by rw [List.getElem?_append_left hi, hr], rfl, hR r⟩

end Upsert

-- ### Loads

section PutAll

variable {upd : α → α → α} (hupd : ∀ a r, key (upd a r) = key r) {t : Table key} {as : List α}

-- The insertions of a list of rows, where a row meets the one of its key with `upd`.
def putAll (t : Table key) (as : List α) : Table key :=
  as.foldl (fun t a => t.upsert a (upd a) (hupd a)) t

-- Of what each insertion overwrites, the last row of a key remains.
theorem find_putAll {β : Type} {view : α → β} (hview : ∀ a r, view (upd a r) = view a) {k : κ} :
    ((putAll hupd t as).find k).map view =
      ((as.filter (fun a => key a = some k)).getLast?.or (t.find k)).map view := by
  unfold putAll
  induction as generalizing t
  case nil => rfl
  case cons a as ih =>
    rw [List.foldl_cons, ih, find_upsert]
    by_cases hk : key a = some k
    case neg => simp [hk]
    case pos =>
      rw [List.filter_cons_of_pos (by simpa using hk), List.getLast?_cons]
      cases (as.filter (fun a => key a = some k)).getLast?
      case some => rfl
      case none => cases t.find k <;> simp [hk, hview]

-- The rows with a null key pile up.
theorem filter_null_putAll :
    (putAll hupd t as).rows.filter (fun r => key r = none) =
      t.rows.filter (fun r => key r = none) ++ as.filter (fun a => key a = none) := by
  unfold putAll
  induction as generalizing t
  case nil => exact (List.append_nil _).symm
  case cons a as ih =>
    rw [List.foldl_cons, ih, filter_null_upsert, List.append_assoc, ← List.filter_append,
      List.singleton_append]

-- What all rows have and updates keep, all rows have afterwards.
theorem forall_putAll {p : α → Prop} (hp : ∀ a r, p r → p (upd a r)) (ha : ∀ a ∈ as, p a)
    (ht : ∀ r ∈ t.rows, p r) : ∀ r ∈ (putAll hupd t as).rows, p r := by
  unfold putAll
  induction as generalizing t
  case nil => exact ht
  case cons a as ih =>
    refine ih (fun a' ha' => ha a' (List.mem_cons_of_mem a ha')) fun r hr => ?_
    rcases mem_upsert hr with ⟨rfl, _⟩ | ⟨r', hr', _, rfl⟩ | ⟨hr, _⟩ | ⟨hr, _⟩
    · exact ha r List.mem_cons_self
    · exact hp a r' (ht r' hr')
    · exact ht r hr
    · exact ht r hr

theorem exists_key_putAll_iff {k : κ} :
    (∃ r ∈ (putAll hupd t as).rows, key r = some k) ↔
      (∃ a ∈ as, key a = some k) ∨ ∃ r ∈ t.rows, key r = some k := by
  have hfind (t : Table key) : (∃ r ∈ t.rows, key r = some k) ↔ (t.find k).isSome := by
    simp only [Option.isSome_iff_exists, find_eq_some_iff]
  have hunit : ((putAll hupd t as).find k).map (fun _ => ()) =
      ((as.filter (fun a => key a = some k)).getLast?.or (t.find k)).map (fun _ => ()) :=
    find_putAll hupd fun _ _ => rfl
  have hsome := congrArg Option.isSome hunit
  rw [Option.isSome_map, Option.isSome_map, Option.isSome_or] at hsome
  have hlast :
      (as.filter (fun a => key a = some k)).getLast?.isSome ↔ ∃ a ∈ as, key a = some k := by
    simp
  rw [hfind, hfind, hsome, Bool.or_eq_true, hlast]

-- A load into the empty table has one row for each row of the list exactly if no two of these have
-- the same key.
theorem length_putAll_iff (hn : ∀ a ∈ as, key a ≠ none) :
    (putAll hupd empty as).rows.length = as.length ↔ (as.map key).Nodup := by
  have hnull : ∀ r ∈ (putAll hupd empty as).rows, key r ≠ none := by
    have ha : as.filter (fun a => key a = none) = [] :=
      List.filter_eq_nil_iff.mpr fun a ha => by simp [hn a ha]
    have hf : (putAll hupd empty as).rows.filter (fun r => key r = none) = [] := by
      rw [filter_null_putAll, ha]
      rfl
    exact fun r hr => by simpa using List.filter_eq_nil_iff.mp hf r hr
  have hnodup : ((putAll hupd empty as).rows.map key).Nodup := by
    rw [map_key_eq hnull]
    exact (putAll hupd empty as).nodup.map fun _ _ h => Option.some.inj h
  have hmem : ∀ v, v ∈ (putAll hupd empty as).rows.map key ↔ v ∈ as.map key := by
    intro v
    cases v
    case none =>
      rw [List.mem_map, List.mem_map]
      exact iff_of_false (fun ⟨r, hr, h⟩ => hnull r hr h) (fun ⟨a, ha, h⟩ => hn a ha h)
    case some k =>
      rw [List.mem_map, List.mem_map, exists_key_putAll_iff]
      simp [empty]
  have has : (as.map key).length = as.length := List.length_map key
  rw [← List.length_map key, ← has]
  constructor
  case mp =>
    intro hl
    have hp := (hnodup.subperm fun v hv => (hmem v).mp hv).perm_of_length_le (Nat.le_of_eq hl.symm)
    exact hp.nodup_iff.mp hnodup
  case mpr =>
    intro ha
    exact ((List.perm_ext_iff_of_nodup hnodup ha).mpr hmem).length_eq

end PutAll
end Table
end Relational
