import Mathlib.Data.Set.Card
import ReceivingApp.Lib.Refinement

namespace Interaction.Program

variable {Op Op' : Type → Type} {ε α β σ τ : Type}

-- ### Protocols

-- The phases that a program goes through. A call may be made in some of them only, and its answer
-- decides which one comes next. A program starts and ends in the phase of rest.
structure Protocol (Op : Type → Type) (ε τ : Type) where
  rest : τ
  next : ∀ β, Op β → Except ε β → τ → Option τ

namespace Protocol

def Obeys (R : Protocol Op ε τ) : Program Op ε α → τ → Prop
  | .pure _, t    => t = R.rest
  | .throw _, t   => t = R.rest
  | .call op k, t => ∀ r, ∃ t' ∈ R.next _ op r t, R.Obeys (k r) t'

variable {R : Protocol Op ε τ} {t : τ}

-- The calls that a program at rest may make and stays at rest by.
def Idle (R : Protocol Op ε τ) (β : Type) (op : Op β) : Prop :=
  ∀ r, R.next β op r R.rest = some R.rest

namespace Obeys

-- ### Rules

theorem idle {p : Program Op ε α} (h : p.Uses R.Idle) : R.Obeys p R.rest := by
  induction h
  case pure | throw => rfl
  case call ha _ ih => exact fun r => ⟨R.rest, ha r, ih r⟩

theorem andThen {p : Program Op ε β} {k : Except ε β → Program Op ε α} (hp : R.Obeys p t)
    (hk : ∀ r, R.Obeys (k r) R.rest) : R.Obeys (p.andThen k) t := by
  induction p generalizing t
  case pure | throw =>
    cases hp
    exact hk _
  case call op c ih =>
    intro r
    have ⟨t', ht', hc⟩ := hp r
    exact ⟨t', ht', ih r hc⟩

theorem bind {p : Program Op ε β} {f : β → Program Op ε α} (hp : R.Obeys p t)
    (hf : ∀ b, R.Obeys (f b) R.rest) : R.Obeys (p >>= f) t := by
  induction p generalizing t
  case pure =>
    cases hp
    exact hf _
  case throw => exact hp
  case call op c ih =>
    intro r
    have ⟨t', ht', hc⟩ := hp r
    exact ⟨t', ht', ih r hc⟩

-- Programs in the place of calls have to obey for themselves.
theorem refine {R : Protocol Op' ε τ} {f : ∀ {β : Type}, Op β → Program Op' ε β}
    (hf : ∀ {β} (op : Op β), R.Obeys (f op) R.rest) (p : Program Op ε α) :
    R.Obeys (p.refine f) R.rest := by
  induction p
  case pure | throw => rfl
  case call op k ih => exact (hf op).andThen ih

theorem lift {R : Protocol Op' ε τ} {f : ∀ {β : Type}, Op β → Op' β}
    (hf : ∀ {β} (op : Op β), R.Idle β (f op)) (p : Program Op ε α) :
    R.Obeys (p.lift f) R.rest := by
  induction p
  case pure | throw => rfl
  case call op k ih => exact fun r => ⟨R.rest, hf op r, ih r⟩

end Obeys

-- ### Programs in a pool

-- The interleavings in which the programs stand as `G` says after each turn.
abbrev Within {ι : Type} [DecidableEq ι] (E : Env Op ε σ) (G : (ι → Program Op ε α) → Prop) :
    σ × (ι → Program Op ε α) → σ × (ι → Program Op ε α) → Prop :=
  Relation.ReflTransGen fun c c' => Pool.Step E c c' ∧ G c'.2

theorem within_of_steps {ι : Type} [DecidableEq ι] {E : Env Op ε σ}
    {G : (ι → Program Op ε α) → Prop} (hG : ∀ P, G P) {c c' : σ × (ι → Program Op ε α)}
    (hs : Pool.Steps E c c') : Within E G c c' :=
  Relation.ReflTransGen.mono (fun _ c h => ⟨h, hG c.2⟩) c c' hs

theorem update_obeys {ι : Type} [DecidableEq ι] {P : ι → Program Op ε α} {p : ι → τ} {i : ι}
    {q : Program Op ε α} (hP : ∀ j, R.Obeys (P j) (p j)) (hq : R.Obeys q t) (j : ι) :
    R.Obeys (Function.update P i q j) (Function.update p i t j) := by
  by_cases hj : j = i
  case pos =>
    subst hj
    simpa only [Function.update_self] using hq
  case neg => simpa only [Function.update_of_ne hj] using hP j

-- A turn takes one program from its phase to the next.
theorem Obeys.step {ι : Type} [DecidableEq ι] {E : Env Op ε σ} {c c' : σ × (ι → Program Op ε α)}
    (hs : Pool.Step E c c') {p : ι → τ} (hP : ∀ i, R.Obeys (c.2 i) (p i)) :
    ∃ i β, ∃ op : Op β, ∃ r, ∃ t ∈ R.next β op r (p i), E β op c.1 r c'.1 ∧
      ∀ j, R.Obeys (c'.2 j) (Function.update p i t j) := by
  obtain ⟨i, hi, he⟩ := hs
  have hcall := hP i
  simp only [hi] at hcall
  rename_i r
  have ⟨t, ht, hk⟩ := hcall r
  exact ⟨i, _, _, _, t, ht, he, update_obeys hP hk⟩

-- In every interleaving each program is in some phase, and what a turn preserves of the state and
-- of all phases, the interleaving preserves.
theorem Obeys.within {ι : Type} [DecidableEq ι] {E : Env Op ε σ} {G : (ι → Program Op ε α) → Prop}
    {J : σ → (ι → τ) → Prop}
    (hJ : ∀ {β} {op : Op β} {s r s' P p i t}, E β op s r s' → t ∈ R.next β op r (p i) → G P →
      (∀ j, R.Obeys (P j) (Function.update p i t j)) → J s p → J s' (Function.update p i t))
    {c c' : σ × (ι → Program Op ε α)} (hs : Within E G c c') {p : ι → τ}
    (hP : ∀ i, R.Obeys (c.2 i) (p i)) (h : J c.1 p) :
    ∃ p', (∀ i, R.Obeys (c'.2 i) (p' i)) ∧ J c'.1 p' := by
  induction hs
  case refl => exact ⟨p, hP, h⟩
  case tail hstep ih =>
    have ⟨p, hP, h⟩ := ih
    have ⟨i, β, op, r, t, ht, he, hP'⟩ := Obeys.step hstep.1 hP
    exact ⟨_, hP', hJ he ht hstep.2 hP' h⟩

-- ### How many programs are in a phase

section Count

variable {ι : Type} [DecidableEq ι] {p : ι → τ} {i : ι} {t t' : τ}

theorem setOf_update_eq :
    {j | Function.update p i t j = t} = insert i {j | p j = t} := by
  ext j
  by_cases hj : j = i <;> simp [hj]

theorem setOf_update_ne (h : t' ≠ t) :
    {j | Function.update p i t' j = t} = {j | p j = t} \ {i} := by
  ext j
  by_cases hj : j = i <;> simp [hj, h]

-- A program has come into the phase, or has left it, or neither.
theorem ncard_enter (hf : {j | p j = t}.Finite) (h : p i ≠ t) :
    {j | Function.update p i t j = t}.Finite ∧
      {j | Function.update p i t j = t}.ncard = {j | p j = t}.ncard + 1 := by
  rw [setOf_update_eq]
  exact ⟨hf.insert i, Set.ncard_insert_of_notMem h hf⟩

theorem ncard_leave (hf : {j | p j = t}.Finite) (h : p i = t) (h' : t' ≠ t) :
    {j | Function.update p i t' j = t}.Finite ∧
      {j | Function.update p i t' j = t}.ncard + 1 = {j | p j = t}.ncard := by
  rw [setOf_update_ne h']
  exact ⟨hf.sdiff, Set.ncard_sdiff_singleton_add_one h hf⟩

theorem ncard_aside (h : p i ≠ t) (h' : t' ≠ t) :
    {j | Function.update p i t' j = t} = {j | p j = t} := by
  rw [setOf_update_ne h']
  exact Set.sdiff_singleton_eq_self h

end Count
end Protocol
end Interaction.Program
