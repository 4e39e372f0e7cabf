import Mathlib.Data.List.Basic

namespace Interaction

-- A run of a labelled transition relation, with the labels of its steps in order.
inductive Trace {σ ε : Type*} (step : σ → ε → σ → Prop) : σ → List ε → σ → Prop
  | nil (s : σ) : Trace step s [] s
  | cons {s s₁ s₂ : σ} {e : ε} {es : List ε} :
      step s e s₁ → Trace step s₁ es s₂ → Trace step s (e :: es) s₂

namespace Trace

variable {σ ε : Type*} {step step' : σ → ε → σ → Prop} {s s' : σ} {e : ε} {es es₁ es₂ : List ε}

theorem single (h : step s e s') : Trace step s [e] s' :=
  .cons h (.nil _)

theorem append_iff :
    Trace step s (es₁ ++ es₂) s' ↔ ∃ m, Trace step s es₁ m ∧ Trace step m es₂ s' := by
  constructor
  case mp =>
    intro h
    induction es₁ generalizing s
    case nil => exact ⟨s, .nil _, h⟩
    case cons ih =>
      cases h
      case cons he hs =>
        have ⟨m, h₁, h₂⟩ := ih hs
        exact ⟨m, .cons he h₁, h₂⟩
  case mpr =>
    intro ⟨m, h₁, h₂⟩
    induction h₁
    case nil           => exact h₂
    case cons he _ ih => exact .cons he (ih h₂)

-- The step that a label in the middle of a run stands for.
theorem cons_append_iff :
    Trace step s (es₁ ++ e :: es₂) s' ↔
      ∃ m m', Trace step s es₁ m ∧ step m e m' ∧ Trace step m' es₂ s' := by
  rw [append_iff]
  constructor
  · rintro ⟨m, h₁, _ | ⟨he, h₂⟩⟩
    exact ⟨m, _, h₁, he, h₂⟩
  · exact fun ⟨m, _, h₁, he, h₂⟩ => ⟨m, h₁, .cons he h₂⟩

theorem mono (hs : ∀ {s e s'}, step s e s' → step' s e s') (h : Trace step s es s') :
    Trace step' s es s' := by
  induction h
  case nil          => exact .nil _
  case cons he _ ih => exact .cons (hs he) ih

theorem invariant {I : σ → Prop} (hI : ∀ {s e s'}, step s e s' → I s → I s')
    (h : Trace step s es s') (hs : I s) : I s' := by
  induction h
  case nil          => exact hs
  case cons he _ ih => exact ih (hI he hs)

-- Here the invariant also speaks about the labels so far.
theorem invariant_labels {I : List ε → σ → Prop}
    (hI : ∀ {es s e s'}, step s e s' → I es s → I (es ++ [e]) s') (h : Trace step s es s')
    (hs : I [] s) : I es s' := by
  suffices hp : ∀ es₀, I es₀ s → I (es₀ ++ es) s' from hp [] hs
  clear hs
  induction h
  case nil => exact fun es₀ hs => by simpa using hs
  case cons e es he _ ih =>
    intro es₀ hs
    simpa using ih (es₀ ++ [e]) (hI he hs)

-- What simulates each step simulates a run.
theorem simulate {τ δ : Type*} {step' : τ → δ → τ → Prop} {f : ε → δ} {R : σ → τ → Prop} {t : τ}
    (hR : ∀ {s e s' t}, step s e s' → R s t → ∃ t', step' t (f e) t' ∧ R s' t')
    (h : Trace step s es s') (ht : R s t) : ∃ t', Trace step' t (es.map f) t' ∧ R s' t' := by
  induction h generalizing t
  case nil => exact ⟨t, .nil t, ht⟩
  case cons he _ ih =>
    have ⟨_, he', ht₁⟩ := hR he ht
    have ⟨t', hs, ht'⟩ := ih ht₁
    exact ⟨t', .cons he' hs, ht'⟩

-- What holds of every step that starts in the invariant holds of every label.
theorem forall_mem {I : σ → Prop} {P : ε → Prop} (hI : ∀ {s e s'}, step s e s' → I s → I s' ∧ P e)
    (h : Trace step s es s') (hs : I s) : ∀ e ∈ es, P e := by
  induction h
  case nil => exact fun _ he => absurd he List.not_mem_nil
  case cons he _ ih =>
    have ⟨hs₁, hp⟩ := hI he hs
    exact List.forall_mem_cons.mpr ⟨hp, ih hs₁⟩

-- Where every step leaves something behind that all later steps respect, any two steps are related.
theorem pairwise {R : ε → ε → Prop} {I : ε → σ → Prop} (h₁ : ∀ {s e s'}, step s e s' → I e s')
    (h₂ : ∀ {s e e' s'}, step s e' s' → I e s → I e s' ∧ R e e') (h : Trace step s es s') :
    es.Pairwise R := by
  induction h
  case nil               => exact .nil
  case cons e _ he h ih => exact .cons (forall_mem (I := I e) h₂ h (h₁ he)) ih

-- ### States and steps of a run

-- Every state that a run along the labels passes through.
def Always (step : σ → ε → σ → Prop) (P : σ → Prop) (s : σ) (es : List ε) : Prop :=
  ∀ es₁ es₂ m, es = es₁ ++ es₂ → Trace step s es₁ m → P m

-- Every step of a run along the labels.
def Each (step : σ → ε → σ → Prop) (C : σ → ε → Prop) (s : σ) (es : List ε) : Prop :=
  ∀ es₁ e es₂ m m', es = es₁ ++ e :: es₂ → Trace step s es₁ m → step m e m' → C m e

variable {P I : σ → Prop} {C : σ → ε → Prop}

theorem Each.head (h : Each step C s (e :: es)) {s₁ : σ} (he : step s e s₁) : C s e :=
  h [] e es s s₁ rfl (.nil s) he

theorem Each.tail (h : Each step C s (e :: es)) {s₁ : σ} (he : step s e s₁) : Each step C s₁ es :=
  fun es₁ e' es₂ m m' hes hm hstep =>
    h (e :: es₁) e' es₂ m m' (congrArg (e :: ·) hes) (.cons he hm) hstep

theorem Each.single (h : C s e) : Each step C s [e] := by
  intro es₁ e' es₂ m m' hes hm _
  rcases es₁ with _ | ⟨e₁, es₁⟩
  case nil =>
    cases hes
    cases hm
    exact h
  case cons => simp at hes

theorem each_and_iff {D : σ → ε → Prop} :
    Each step (fun s e => C s e ∧ D s e) s es ↔ Each step C s es ∧ Each step D s es := by
  constructor
  case mp =>
    intro h
    exact ⟨fun es₁ e es₂ m m' hes hm hs => (h es₁ e es₂ m m' hes hm hs).1,
      fun es₁ e es₂ m m' hes hm hs => (h es₁ e es₂ m m' hes hm hs).2⟩
  case mpr =>
    exact fun ⟨h, h'⟩ es₁ e es₂ m m' hes hm hs =>
      ⟨h es₁ e es₂ m m' hes hm hs, h' es₁ e es₂ m m' hes hm hs⟩

theorem each_congr {D : σ → ε → Prop} (hI : ∀ {s e s'}, step s e s' → I s → I s')
    (h : ∀ {s e s'}, step s e s' → I s → (C s e ↔ D s e)) (hs : I s) :
    Each step C s es ↔ Each step D s es := by
  constructor
  case mp =>
    exact fun hc es₁ e es₂ m m' hes hm hstep =>
      (h hstep (hm.invariant hI hs)).mp (hc es₁ e es₂ m m' hes hm hstep)
  case mpr =>
    exact fun hd es₁ e es₂ m m' hes hm hstep =>
      (h hstep (hm.invariant hI hs)).mpr (hd es₁ e es₂ m m' hes hm hstep)

-- In every part of a run along the labels, the ends are related unless one of its steps is
-- excepted.
def Unless (step : σ → ε → σ → Prop) (A : σ → ε → Prop) (R : σ → σ → Prop) (s : σ) (es : List ε) :
    Prop :=
  ∀ es₁ es₂ es₃ m m', es = es₁ ++ (es₂ ++ es₃) → Trace step s es₁ m →
    Trace (fun s e s' => step s e s' ∧ ¬A s e) m es₂ m' → R m m'

-- If a step out of the property stays in it exactly under the condition, then so does a run.
theorem always_iff_each (hI : ∀ {s e s'}, step s e s' → I s → I s')
    (h : ∀ {s e s'}, step s e s' → I s → P s → (P s' ↔ C s e)) (hs : I s) (hp : P s) :
    Always step P s es ↔ Each step C s es := by
  constructor
  case mp =>
    intro ha es₁ e es₂ m m' hes hm hstep
    have hp₁ : P m := ha es₁ (e :: es₂) m hes hm
    have hp₂ : P m' := ha (es₁ ++ [e]) es₂ m' (by simp [hes])
      (append_iff.mpr ⟨m, hm, .single hstep⟩)
    exact (h hstep (hm.invariant hI hs) hp₁).mp hp₂
  case mpr =>
    intro hc es₁ es₂ m hes hm
    subst hes
    induction hm
    case nil => exact hp
    case cons he _ ih => exact ih (hI he hs) ((h he hs hp).mpr (hc.head he)) (hc.tail he)

-- Where a relation can be chained, it holds of the ends of parts exactly if it holds of single
-- steps.
theorem unless_iff_each {A : σ → ε → Prop} {R : σ → σ → Prop} (hr : ∀ s, R s s)
    (ht : ∀ {s s₁ s₂}, R s s₁ → R s₁ s₂ → R s s₂) (hI : ∀ {s e s'}, step s e s' → I s → I s')
    (h : ∀ {s e s'}, step s e s' → I s → ¬A s e → (R s s' ↔ C s e)) (hs : I s) :
    Unless step A R s es ↔ Each step (fun s e => ¬A s e → C s e) s es := by
  constructor
  case mp =>
    intro hu es₁ e es₂ m m' hes hm hstep ha
    have hR : R m m' := hu es₁ [e] es₂ m m' hes hm (.single ⟨hstep, ha⟩)
    exact (h hstep (hm.invariant hI hs) ha).mp hR
  case mpr =>
    intro hc es₁ es₂ es₃ m m' hes hm hm'
    -- The part of the run is taken from its front, which moves on to the run before it.
    induction hm' generalizing es₁
    case nil => exact hr _
    case cons e es he _ ih =>
      have hR := (h he.1 (hm.invariant hI hs) he.2).mpr
        (hc es₁ e (es ++ es₃) _ _ hes hm he.1 he.2)
      refine ht hR (ih (es₁ ++ [e]) (by simp [hes]) ?_)
      exact append_iff.mpr ⟨_, hm, .single he.1⟩

end Trace
end Interaction
