import Mathlib.Data.Finset.Max
import Mathlib.Data.Finset.Card

namespace Allocation

variable {α : Type} [LinearOrder α] {S U V : Finset α} {a b x : α}

-- A stock of numbers `S` is handed out lowest first. What is left of it at any time is a tail.
structure Tail (U S : Finset α) : Prop where
  subset : U ⊆ S
  upward : ∀ {x y}, x ∈ U → y ∈ S → x ≤ y → y ∈ U

-- The other way around, a head of `S` is closed under smaller numbers.
structure Head (T S : Finset α) : Prop where
  subset   : T ⊆ S
  downward : ∀ {x y}, x ∈ T → y ∈ S → y ≤ x → y ∈ T

-- The number that is handed out next.
def next (U : Finset α) : Option α :=
  U.min

-- What is left after it has been.
def rest (U : Finset α) : Finset α :=
  match next U with
  | none   => U
  | some a => U.erase a

theorem next_eq_some_iff : next U = some a ↔ U.min = ↑a :=
  .rfl

theorem rest_of_some (h : next U = some a) : rest U = U.erase a := by
  unfold rest
  rw [h]

theorem rest_of_none (h : next U = none) : rest U = U := by
  unfold rest
  rw [h]

-- The numbers below a given one.
abbrev below (S : Finset α) (b : α) : Finset α :=
  S.filter (· < b)

namespace Tail

theorem refl : Tail S S where
  subset := Finset.Subset.refl S
  upward _ hy _ := hy

theorem since (S : Finset α) (b : α) : Tail (S.filter (b ≤ ·)) S where
  subset := S.filter_subset _
  upward hx hy hxy := by
    rw [Finset.mem_filter] at hx ⊢
    exact ⟨hy, hx.2.trans hxy⟩

theorem rest (h : Tail U S) : Tail (rest U) S := by
  cases hn : next U
  case none => rwa [rest_of_none hn]
  case some a =>
    rw [rest_of_some hn]
    refine ⟨(U.erase_subset a).trans h.subset, fun {x y} hx hy hxy => ?_⟩
    have ⟨hxa, hx⟩ := Finset.mem_erase.mp hx
    have hax : a < x :=
      lt_of_le_of_ne (Finset.min_le_of_eq hx (next_eq_some_iff.mp hn)) hxa.symm
    exact Finset.mem_erase.mpr ⟨(hax.trans_le hxy).ne', h.upward hx hy hxy⟩

theorem comparable (hU : Tail U S) (hV : Tail V S) : U ⊆ V ∨ V ⊆ U := by
  by_contra h
  simp only [Finset.not_subset, not_or] at h
  have ⟨⟨x, hxU, hxV⟩, y, hyV, hyU⟩ := h
  rcases le_total x y with hxy | hyx
  case inl => exact hyU (hU.upward hxU (hV.subset hyV) hxy)
  case inr => exact hxV (hV.upward hyV (hU.subset hxU) hyx)

-- Tails of one stock are told apart by their size.
theorem eq_of_card_eq (hU : Tail U S) (hV : Tail V S) (h : U.card = V.card) : U = V := by
  rcases hU.comparable hV with hs | hs
  case inl => exact Finset.eq_of_subset_of_card_le hs h.ge
  case inr => exact (Finset.eq_of_subset_of_card_le hs h.le).symm

theorem next_eq_iff (hb : b ∈ S) (h : Tail U S) : next U = some b ↔ U = S.filter (b ≤ ·) := by
  rw [next_eq_some_iff]
  constructor
  case mp =>
    intro hm
    ext x
    rw [Finset.mem_filter]
    constructor
    case mp  => exact fun hx => ⟨h.subset hx, Finset.min_le_of_eq hx hm⟩
    case mpr => exact fun hx => h.upward (Finset.mem_of_min hm) hx.1 hx.2
  case mpr =>
    rintro rfl
    refine le_antisymm (Finset.min_le (Finset.mem_filter.mpr ⟨hb, le_rfl⟩)) (Finset.le_min ?_)
    exact fun x hx => WithTop.coe_le_coe.mpr (Finset.mem_filter.mp hx).2

-- What has been handed out is a head of the stock exactly if what is left is a tail of it.
theorem head_sdiff_iff (h : U ⊆ S) : Head (S \ U) S ↔ Tail U S := by
  constructor
  case mp =>
    intro hh
    refine ⟨h, fun {x y} hx hy hxy => ?_⟩
    by_contra hyU
    have hxd := hh.downward (Finset.mem_sdiff.mpr ⟨hy, hyU⟩) (h hx) hxy
    exact (Finset.mem_sdiff.mp hxd).2 hx
  case mpr =>
    intro ht
    refine ⟨Finset.sdiff_subset, fun {x y} hx hy hyx => ?_⟩
    have ⟨hx, hxU⟩ := Finset.mem_sdiff.mp hx
    exact Finset.mem_sdiff.mpr ⟨hy, fun hyU => hxU (ht.upward hyU hx hyx)⟩

-- The next number is the only one that leaves a tail behind.
theorem erase_iff (h : Tail U S) (ha : a ∈ U) : Tail (U.erase a) S ↔ next U = some a := by
  constructor
  case mpr => exact fun hn => rest_of_some hn ▸ h.rest
  case mp =>
    intro he
    rw [next_eq_some_iff]
    refine le_antisymm (Finset.min_le ha) (Finset.le_min fun x hx => WithTop.coe_le_coe.mpr ?_)
    by_contra hlt
    have hx := Finset.mem_erase.mpr ⟨(not_le.mp hlt).ne, hx⟩
    exact Finset.notMem_erase a U (he.upward hx (h.subset ha) (not_le.mp hlt).le)

end Tail

-- Handing out one number leaves one less.
theorem card_rest (h : U.Nonempty) : (rest U).card + 1 = U.card := by
  have ⟨a, ha⟩ := Finset.min_of_nonempty h
  rw [rest_of_some (next_eq_some_iff.mpr ha)]
  exact Finset.card_erase_add_one (Finset.mem_of_min ha)

-- A head has below its numbers just what the stock has.
theorem Head.below_eq {T : Finset α} (h : Head T S) (hb : b ∈ T) : below T b = below S b := by
  ext x
  rw [Finset.mem_filter, Finset.mem_filter]
  constructor
  case mp  => exact fun hx => ⟨h.subset hx.1, hx.2⟩
  case mpr => exact fun hx => ⟨h.downward hb hx.1 hx.2.le, hx.2⟩

-- `U` is left of the stock after one number has been handed out for each element of `R`, whichever
-- number that was.
structure Served (S U R : Finset α) : Prop where
  tail : Tail U S
  card : U.card + R.card = S.card

namespace Served

variable {R : Finset α}

theorem refl : Served S S ∅ where
  tail := .refl
  card := by simp

-- Where `R` holds numbers below `b` only, `b` gets its own number just if `R` is all there is below
-- it.
theorem next_iff (h : Served S U R) (hb : b ∈ S) (hR : R ⊆ below S b) :
    next U = some b ↔ below S b ⊆ R := by
  have hs : (S.filter (b ≤ ·)).card + (below S b).card = S.card := by
    simpa only [not_le] using Finset.card_filter_add_card_filter_not (s := S) (b ≤ ·)
  have hc := h.card
  rw [h.tail.next_eq_iff hb]
  constructor
  case mp =>
    rintro rfl
    exact (Finset.eq_of_subset_of_card_le hR (by omega)).ge
  case mpr =>
    intro hsub
    have hRb : R = below S b := hR.antisymm hsub
    exact h.tail.eq_of_card_eq (.since S b) (by rw [hRb] at hc; omega)

theorem take (h : Served S U R) (hb : b ∈ S) (hR : R ⊆ below S b) :
    Served S (rest U) (insert b R) where
  tail := h.tail.rest
  card := by
    have hbR : b ∉ R := fun hm => lt_irrefl b (Finset.mem_filter.mp (hR hm)).2
    have hlt : R.card < S.card :=
      Finset.card_lt_card <| Finset.ssubset_iff_of_subset (hR.trans (S.filter_subset _)) |>.mpr
        ⟨b, hb, hbR⟩
    have hU : U.Nonempty := Finset.card_pos.mp (by have := h.card; omega)
    have hc := card_rest hU
    rw [Finset.card_insert_of_notMem hbR]
    have := h.card
    omega

end Served
end Allocation
