import ReceivingApp.Lib.Program

namespace Interaction.Program

variable {Op : Type → Type} {ε α β σ κ τ : Type}

-- What a program holds: some cells of the state, with what is in each.
abbrev Cells (κ τ : Type) := κ → Option τ

namespace Cells

def none : Cells κ τ :=
  fun _ => .none

def one [DecidableEq κ] (k : κ) (t : τ) : Cells κ τ :=
  Function.update none k (some t)

-- The places of a list.
def ofList (l : List τ) : Cells Nat τ :=
  fun k => l[k]?

section One

variable [DecidableEq κ] {k : κ} {t t' : τ}

@[simp]
theorem one_self : one k t k = some t := by
  simp [one]

@[simp]
theorem update_one : Function.update (one k t) k (some t') = one k t' := by
  simp [one]

end One
end Cells

-- ### Custody

-- What programs that share a state may do with it. A call has to be allowed by the cells that its
-- program holds, and after its answer the program holds what the call has made of them. Nobody else
-- gets at these cells.
structure Custody (Op : Type → Type) (ε κ τ : Type) where
  allows : ∀ β, Op β → Cells κ τ → Prop
  after  : ∀ β, Op β → Except ε β → Cells κ τ → Cells κ τ → Prop

namespace Custody

-- A program that holds the given cells has each of its calls allowed. What it holds in the end is
-- as `Q` says where it returns, and as `X` says where it raises.
def Keeps (C : Custody Op ε κ τ) (p : Program Op ε α) (Q : α → Cells κ τ → Prop)
    (X : ε → Cells κ τ → Prop) (H : Cells κ τ) : Prop :=
  match p with
  | .pure a    => Q a H
  | .throw e   => X e H
  | .call op k => C.allows _ op H ∧ ∀ r H', C.after _ op r H H' → C.Keeps (k r) Q X H'

variable {C : Custody Op ε κ τ} {H : Cells κ τ} {Q Q' : α → Cells κ τ → Prop}
variable {X X' : ε → Cells κ τ → Prop}

namespace Keeps

-- ### Rules

theorem mono {p : Program Op ε α} (h : C.Keeps p Q X H) (hQ : ∀ a H, Q a H → Q' a H)
    (hX : ∀ e H, X e H → X' e H) : C.Keeps p Q' X' H := by
  induction p generalizing H
  case pure a       => exact hQ a H h
  case throw e      => exact hX e H h
  case call op k ih => exact ⟨h.1, fun r H' ha => ih r (h.2 r H' ha)⟩

theorem perform {op : Op α} (h : C.allows α op H) (hok : ∀ a H', C.after α op (.ok a) H H' → Q a H')
    (herr : ∀ e H', C.after α op (.error e) H H' → X e H') :
    C.Keeps (Program.perform op : Program Op ε α) Q X H := by
  refine ⟨h, fun r H' ha => ?_⟩
  cases r
  case ok a    => exact hok a H' ha
  case error e => exact herr e H' ha

theorem bind {p : Program Op ε α} {f : α → Program Op ε β} {Q : β → Cells κ τ → Prop}
    (h : C.Keeps p (fun a H => C.Keeps (f a) Q X H) X H) : C.Keeps (p >>= f) Q X H := by
  induction p generalizing H
  case pure | throw => exact h
  case call op k ih => exact ⟨h.1, fun r H' ha => ih r (h.2 r H' ha)⟩

theorem tryCatch {p : Program Op ε α} {f : ε → Program Op ε α}
    (h : C.Keeps p Q (fun e H => C.Keeps (f e) Q X H) H) : C.Keeps (p.tryCatch f) Q X H := by
  induction p generalizing H
  case pure | throw => exact h
  case call op k ih => exact ⟨h.1, fun r H' ha => ih r (h.2 r H' ha)⟩

-- The cleanup has to cope with what is held after either outcome.
theorem withFinally {p : Program Op ε α} {cleanup : Program Op ε Unit}
    (h : C.Keeps p (fun a => C.Keeps cleanup (fun _ => Q a) X)
      (fun e => C.Keeps cleanup (fun _ => X e) X) H) :
    C.Keeps (p.withFinally cleanup) Q X H := by
  induction p generalizing H
  case pure | throw => exact bind h
  case call op k ih => exact ⟨h.1, fun r H' ha => ih r (h.2 r H' ha)⟩

-- What all calls of a program keep, the program keeps.
theorem uses {A : ∀ β, Op β → Prop} {P : Cells κ τ → Prop}
    (hA : ∀ {β} {op : Op β} {H}, A β op → P H →
      C.allows β op H ∧ ∀ r H', C.after β op r H H' → P H')
    {p : Program Op ε α} (hu : p.Uses A) (h : P H) :
    C.Keeps p (fun _ => P) (fun _ => P) H := by
  induction hu generalizing H
  case pure | throw => exact h
  case call ha _ ih => exact ⟨(hA ha h).1, fun r H' hH => ih r ((hA ha h).2 r H' hH)⟩

end Keeps

-- ### Programs in a pool

-- The cells of the state, each of which is in the hands of one program.
structure Shared {ι : Type} (cells : Cells κ τ) (held : ι → Cells κ τ) : Prop where
  own   : ∀ {i k t}, held i k = some t → cells k = some t
  apart : ∀ {i j k}, (held i k).isSome → (held j k).isSome → i = j
  whole : ∀ {k}, (cells k).isSome → ∃ i, (held i k).isSome

-- How a call of a program that holds `H`, and then `H'`, changes the cells of the state. Those it
-- does not hold stay as they are, and those it gets are new.
structure Local (H H' cells cells' : Cells κ τ) : Prop where
  own   : ∀ k, (H k).isSome ∨ (H' k).isSome → cells' k = H' k
  frame : ∀ k, H k = none → H' k = none → cells' k = cells k
  fresh : ∀ k, H k = none → (H' k).isSome → cells k = none

-- The state is as the calls that are allowed leave it, where `I` holds of it.
structure Sound (C : Custody Op ε κ τ) (E : Env Op ε σ) (I : σ → Prop) (cells : σ → Cells κ τ) :
    Prop where
  kept   : ∀ {β} {op : Op β} {s r s' H}, E β op s r s' → C.allows β op H →
    (∀ {k t}, H k = some t → cells s k = some t) → I s → I s'
  change : ∀ {β} {op : Op β} {s r s' H}, E β op s r s' → C.allows β op H →
    (∀ {k t}, H k = some t → cells s k = some t) → I s →
    ∃ H', C.after β op r H H' ∧ Local H H' (cells s) (cells s')

namespace Local

variable {H cells cells' : Cells κ τ}

theorem refl (hH : ∀ {k t}, H k = some t → cells k = some t) : Local H H cells cells where
  own k hk := by
    have ⟨t, ht⟩ := Option.isSome_iff_exists.mp (hk.elim id id)
    exact (hH ht).trans ht.symm
  frame _ _ _    := rfl
  fresh k hn hs := by simp [hn] at hs

-- A call that changes one cell, which the program holds or nobody does.
theorem update [DecidableEq κ] {k : κ} {t : τ} (hH : ∀ {k t}, H k = some t → cells k = some t)
    (hk : H k = none → cells k = none) (hs : cells' k = some t)
    (hne : ∀ k' ≠ k, cells' k' = cells k') :
    Local H (Function.update H k (some t)) cells cells' := by
  refine ⟨fun k' hk' => ?_, fun k' hn hn' => ?_, fun k' hn hs' => ?_⟩
  all_goals by_cases he : k' = k
  · simp [he, hs]
  · rw [Function.update_of_ne he, or_self] at hk'
    have ⟨t, ht⟩ := Option.isSome_iff_exists.mp hk'
    rw [hne k' he, Function.update_of_ne he, ht, hH ht]
  · simp [he] at hn'
  · exact hne k' he
  · exact he ▸ hk (he ▸ hn)
  · simp [Function.update_of_ne he, hn] at hs'

theorem append {H : Cells Nat τ} {l : List τ} {t : τ}
    (hH : ∀ {k t}, H k = some t → Cells.ofList l k = some t) :
    H l.length = none ∧
      Local H (Function.update H l.length (some t)) (.ofList l) (.ofList (l ++ [t])) := by
  have hnew : Cells.ofList l l.length = none := by simp [Cells.ofList]
  refine ⟨?_, .update hH (fun _ => hnew) (by simp [Cells.ofList]) fun k hk => ?_⟩
  · by_contra hc
    have ⟨t, ht⟩ := Option.ne_none_iff_exists'.mp hc
    exact Option.some_ne_none t ((hH ht).symm.trans hnew)
  · simp only [Cells.ofList, List.getElem?_append]
    split
    case isTrue  => rfl
    case isFalse h =>
      have h₁ : [t].length ≤ k - l.length := by
        simp only [List.length_singleton]
        omega
      rw [List.getElem?_eq_none h₁, List.getElem?_eq_none (Nat.le_of_not_lt h)]

theorem set {H : Cells Nat τ} {l : List τ} {k : Nat} {t t' : τ}
    (hH : ∀ {k t}, H k = some t → Cells.ofList l k = some t) (hk : H k = some t) :
    Local H (Function.update H k (some t')) (.ofList l) (.ofList (l.set k t')) := by
  have ⟨hlt, _⟩ := List.getElem?_eq_some_iff.mp (hH hk)
  refine .update hH (fun hn => ?_) (by simp [Cells.ofList, hlt]) fun k' hne => ?_
  · cases hn.symm.trans hk
  · exact List.getElem?_set_ne (Ne.symm hne)

end Local

-- What another program holds stays as it is, and stays its own.
theorem Shared.others {ι : Type} {cells cells' : Cells κ τ} {held : ι → Cells κ τ} {i j : ι} {k : κ}
    (h : Shared cells held) (hl : Local (held i) H cells cells') (hj : j ≠ i)
    (hs : (held j k).isSome) : cells' k = cells k ∧ H k = none := by
  have hn : held i k = none := by
    by_contra hc
    exact hj (h.apart hs (Option.isSome_iff_ne_none.mpr hc))
  have hn' : H k = none := by
    by_contra hc
    have ⟨t, ht⟩ := Option.isSome_iff_exists.mp hs
    have hf := hl.fresh k hn (Option.isSome_iff_ne_none.mpr hc)
    exact Option.some_ne_none t ((h.own ht).symm.trans hf)
  exact ⟨hl.frame k hn hn', hn'⟩

theorem Shared.step {ι : Type} [DecidableEq ι] {cells cells' : Cells κ τ} {held : ι → Cells κ τ}
    {i : ι} (h : Shared cells held) (hl : Local (held i) H cells cells') :
    Shared cells' (Function.update held i H) := by
  constructor
  case own =>
    intro j k t ht
    by_cases hj : j = i
    case pos =>
      subst hj
      rw [Function.update_self] at ht
      exact (hl.own k (.inr (by simp [ht]))).trans ht
    case neg =>
      rw [Function.update_of_ne hj] at ht
      exact (h.others hl hj (by simp [ht])).1.trans (h.own ht)
  case apart =>
    intro j j' k hs hs'
    by_cases hj : j = i
    case pos =>
      by_contra hne
      have hj' : j' ≠ i := fun he => hne (hj.trans he.symm)
      rw [hj, Function.update_self] at hs
      rw [Function.update_of_ne hj'] at hs'
      simp [(h.others hl hj' hs').2] at hs
    case neg =>
      rw [Function.update_of_ne hj] at hs
      by_cases hj' : j' = i
      case pos =>
        rw [hj', Function.update_self] at hs'
        simp [(h.others hl hj hs).2] at hs'
      case neg =>
        rw [Function.update_of_ne hj'] at hs'
        exact h.apart hs hs'
  case whole =>
    intro k hs
    by_cases hk : (H k).isSome
    case pos => exact ⟨i, by rwa [Function.update_self]⟩
    case neg =>
      have hn : H k = none := by simpa using hk
      have hi : held i k = none := by
        by_contra hc
        rw [hl.own k (.inl (Option.isSome_iff_ne_none.mpr hc)), hn] at hs
        cases hs
      rw [hl.frame k hi hn] at hs
      have ⟨j, hj⟩ := h.whole hs
      have hne : j ≠ i := by
        rintro rfl
        simp [hi] at hj
      exact ⟨j, by rwa [Function.update_of_ne hne]⟩

theorem Shared.eq_some_iff {ι : Type} {cells : Cells κ τ} {held : ι → Cells κ τ} {k : κ} {t : τ}
    (h : Shared cells held) : cells k = some t ↔ ∃ i, held i k = some t := by
  refine ⟨fun ht => ?_, fun ⟨i, hi⟩ => h.own hi⟩
  have ⟨i, hi⟩ := h.whole (Option.isSome_iff_exists.mpr ⟨t, ht⟩)
  have ⟨t', ht'⟩ := Option.isSome_iff_exists.mp hi
  exact ⟨i, ht'.trans ((h.own ht').symm.trans ht)⟩

-- In every interleaving each program stays the only one to change what it holds, and holds in the
-- end what it would if it were alone.
theorem Sound.steps {ι : Type} [DecidableEq ι] {E : Env Op ε σ} {I : σ → Prop}
    {cells : σ → Cells κ τ} {Q : ι → α → Cells κ τ → Prop} {X : ι → ε → Cells κ τ → Prop}
    (hC : C.Sound E I cells) {c c' : σ × (ι → Program Op ε α)} (hs : Pool.Steps E c c') (hI : I c.1)
    {held : ι → Cells κ τ} (hh : Shared (cells c.1) held)
    (hP : ∀ i, C.Keeps (c.2 i) (Q i) (X i) (held i)) :
    I c'.1 ∧ ∃ held : ι → Cells κ τ, Shared (cells c'.1) held ∧
      ∀ i, C.Keeps (c'.2 i) (Q i) (X i) (held i) := by
  refine hs.invariant (I := fun c => I c.1 ∧ ∃ held : ι → Cells κ τ, Shared (cells c.1) held ∧
      ∀ i, C.Keeps (c.2 i) (Q i) (X i) (held i)) ?_ ⟨hI, held, hh, hP⟩
  rintro _ _ ⟨i, hi, he⟩ ⟨hI, held, hh, hP⟩
  rename_i s s' P β op k r
  have ⟨ha, hk⟩ : C.Keeps (.call op k) (Q i) (X i) (held i) := hi ▸ hP i
  have ⟨H, hafter, hl⟩ := hC.change he ha hh.own hI
  refine ⟨hC.kept he ha hh.own hI, Function.update held i H, hh.step hl, fun j => ?_⟩
  by_cases hj : j = i
  case pos =>
    subst hj
    simp only [Function.update_self]
    exact hk r H hafter
  case neg =>
    simp only [Function.update_of_ne hj]
    exact hP j

end Custody
end Interaction.Program
