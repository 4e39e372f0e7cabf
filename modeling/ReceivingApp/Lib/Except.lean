namespace Except

variable {ε α β : Type} {P Q : ε → Prop} {x : Except ε α} {f : α → Except ε β} {l : List α}

theorem bind_eq_ok {b : β} : (x >>= f) = .ok b ↔ ∃ a, x = .ok a ∧ f a = .ok b := by
  cases x <;> simp [Bind.bind, Except.bind]

theorem bind_eq_error {e : ε} :
    (x >>= f) = .error e ↔ x = .error e ∨ ∃ a, x = .ok a ∧ f a = .error e := by
  cases x <;> simp [Bind.bind, Except.bind]

-- ### What may be raised

-- Nothing is raised but what the property allows.
def Within (P : ε → Prop) (x : Except ε α) : Prop :=
  ∀ e, x = .error e → P e

theorem within_ok (a : α) : Within P (.ok a) :=
  nofun

theorem Within.bind (hx : Within P x) (hf : ∀ a, x = .ok a → Within P (f a)) :
    Within P (x >>= f) := by
  intro e h
  rcases bind_eq_error.mp h with h | ⟨a, ha, h⟩
  case inl => exact hx e h
  case inr => exact hf a ha e h

theorem within_bind_iff (hf : ∀ a, Within P (f a)) : Within P (x >>= f) ↔ Within P x := by
  constructor
  case mp  => exact fun h e he => h e (bind_eq_error.mpr (.inl he))
  case mpr => exact fun h => h.bind fun a _ => hf a

theorem Within.mono (h : Within P x) (hp : ∀ e, P e → Q e) : Within Q x :=
  fun e he => hp e (h e he)

-- Where nothing that is raised is allowed, nothing may be raised.
theorem within_iff_exists_ok (h : Within (¬P ·) x) : Within P x ↔ ∃ a, x = .ok a := by
  cases x
  case ok a    => exact iff_of_true (within_ok a) ⟨a, rfl⟩
  case error e => exact iff_of_false (fun hp => h e rfl (hp e rfl)) nofun

-- ### Lists

theorem Within.mapM (h : ∀ a, Within P (f a)) : Within P (l.mapM f) := by
  induction l
  case nil => exact within_ok []
  case cons a l ih =>
    rw [List.mapM_cons]
    exact (h a).bind fun b _ => ih.bind fun bs _ => within_ok (b :: bs)

theorem mapM_eq_ok_iff {bs : List β} :
    l.mapM f = .ok bs ↔ l.map f = bs.map .ok := by
  induction l generalizing bs
  case nil => cases bs <;> simp [pure, Except.pure]
  case cons a l ih =>
    rw [List.mapM_cons, bind_eq_ok]
    constructor
    case mp =>
      rintro ⟨b, hb, h⟩
      obtain ⟨bs', hbs, h⟩ := bind_eq_ok.mp h
      cases h
      rw [List.map_cons, List.map_cons, hb, ih.mp hbs]
    case mpr =>
      intro h
      cases bs
      case nil       => cases h
      case cons b bs =>
        have ⟨hb, hbs⟩ := List.cons.inj h
        exact ⟨b, hb, bind_eq_ok.mpr ⟨bs, ih.mpr hbs, rfl⟩⟩

theorem exists_mapM_eq_ok_iff :
    (∃ bs, l.mapM f = .ok bs) ↔ ∀ a ∈ l, ∃ b, f a = .ok b := by
  induction l
  case nil => exact iff_of_true ⟨[], rfl⟩ fun _ h => absurd h List.not_mem_nil
  case cons a l ih =>
    rw [List.forall_mem_cons, ← ih, List.mapM_cons]
    constructor
    case mp =>
      rintro ⟨bs, h⟩
      obtain ⟨b, hb, h⟩ := bind_eq_ok.mp h
      obtain ⟨bs', hbs, _⟩ := bind_eq_ok.mp h
      exact ⟨⟨b, hb⟩, bs', hbs⟩
    case mpr =>
      rintro ⟨⟨b, hb⟩, bs, hbs⟩
      exact ⟨b :: bs, bind_eq_ok.mpr ⟨b, hb, bind_eq_ok.mpr ⟨bs, hbs, rfl⟩⟩⟩

end Except
