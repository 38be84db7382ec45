import PowerDiscovery.Journal

/-! # Steps that may fail

A computation of several steps comes to its end exactly if each of its steps does. -/

namespace PowerDiscovery

variable {ε η α β : Type}

theorem bind_eq_ok {x : Except ε α} {f : α → Except ε β} {b : β} :
    x >>= f = .ok b ↔ ∃ a, x = .ok a ∧ f a = .ok b := by
  cases x with
  | error e => simp [bind, Except.bind]
  | ok a => simp [bind, Except.bind]

theorem bind_eq_error {x : Except ε α} {f : α → Except ε β} {e : ε} :
    x >>= f = .error e ↔ x = .error e ∨ ∃ a, x = .ok a ∧ f a = .error e := by
  cases x with
  | error e => simp [bind, Except.bind]
  | ok a => simp [bind, Except.bind]

theorem mapError_eq_ok {δ : Type} {f : ε → δ} {x : Except ε α} {a : α} :
    x.mapError f = .ok a ↔ x = .ok a := by
  cases x with
  | error e => constructor <;> (intro h; cases h)
  | ok a' =>
    constructor
    · intro h
      exact congrArg Except.ok (Except.ok.inj h)
    · intro h
      exact congrArg Except.ok (Except.ok.inj h)

theorem mapError_eq_error {δ : Type} {f : ε → δ} {x : Except ε α} {d : δ} :
    x.mapError f = .error d ↔ ∃ e, x = .error e ∧ f e = d := by
  cases x with
  | error e =>
    constructor
    · intro h
      exact ⟨e, rfl, Except.error.inj h⟩
    · rintro ⟨e', he, rfl⟩
      cases he
      rfl
  | ok a =>
    constructor
    · intro h
      cases h
    · rintro ⟨e, he, _⟩
      cases he

theorem toOption_eq_some {x : Except ε α} {a : α} : x.toOption = some a ↔ x = .ok a := by
  cases x <;> simp [Except.toOption]

/-! ### Steps that end under a condition -/

/-- A step comes to its end exactly under a condition, and then with a certain result. -/
structure Yields (x : Except ε α) (usable : Prop) (a : α) : Prop where
  ok : usable → x = .ok a
  error : ¬ usable → ∃ e, x = .error e

namespace Yields

variable {x : Except ε α} {p q : Prop} {a : α}

theorem pure (a : α) : Yields (Pure.pure a : Except ε α) True a :=
  ⟨fun _ => rfl, fun h => absurd trivial h⟩

theorem accept (b : Bool) (a : α) (e : ε) :
    Yields (if b then .ok a else .error e) (b = true) a := by
  cases b with
  | false => exact ⟨nofun, fun _ => ⟨e, rfl⟩⟩
  | true => exact ⟨fun _ => rfl, fun h => absurd rfl h⟩

theorem reject (b : Bool) (a : α) (e : ε) :
    Yields (if b then .error e else .ok a) ((!b) = true) a := by
  cases b with
  | false => exact ⟨fun _ => rfl, fun h => absurd rfl h⟩
  | true => exact ⟨nofun, fun _ => ⟨e, rfl⟩⟩

theorem congr (h : Yields x p a) (hpq : p ↔ q) : Yields x q a :=
  ⟨fun hq => h.ok (hpq.mpr hq), fun hq => h.error (mt hpq.mp hq)⟩

theorem bind {f : α → Except ε β} {b : β} (hx : Yields x p a) (hf : Yields (f a) q b) :
    Yields (x >>= f) (p ∧ q) b := by
  constructor
  · rintro ⟨hp, hq⟩
    exact bind_eq_ok.mpr ⟨a, hx.ok hp, hf.ok hq⟩
  · intro hpq
    by_cases hp : p
    · obtain ⟨e, he⟩ := hf.error fun hq => hpq ⟨hp, hq⟩
      exact ⟨e, bind_eq_error.mpr (.inr ⟨a, hx.ok hp, he⟩)⟩
    · obtain ⟨e, he⟩ := hx.error hp
      exact ⟨e, bind_eq_error.mpr (.inl he)⟩

theorem map (h : Yields x p a) (f : α → β) : Yields (x >>= fun a => Pure.pure (f a)) p (f a) :=
  (h.bind (.pure (f a))).congr (iff_of_eq (and_true p))

theorem of_ok {b : α} (h : Yields x p a) (hb : x = .ok b) : p ∧ b = a := by
  by_cases hp : p
  · rw [h.ok hp] at hb
    exact ⟨hp, (Except.ok.inj hb).symm⟩
  · obtain ⟨e, he⟩ := h.error hp
    rw [he] at hb
    cases hb

theorem mapError {δ : Type} (h : Yields x p a) (f : ε → δ) : Yields (x.mapError f) p a := by
  constructor
  · intro hp
    exact mapError_eq_ok.mpr (h.ok hp)
  · intro hp
    obtain ⟨e, he⟩ := h.error hp
    exact ⟨f e, mapError_eq_error.mpr ⟨e, he, rfl⟩⟩

end Yields

/-- A step comes to its end exactly under a condition, and else it has a certain failure. -/
structure Requires (x : Except ε α) (p : Prop) (e : ε) : Prop where
  ok : p → ∃ a, x = .ok a
  error : ¬ p → x = .error e

namespace Requires

variable {x : Except ε α} {p q : Prop} {e : ε}

theorem of_ok {a : α} (h : x = .ok a) (hp : p) : Requires x p e :=
  ⟨fun _ => ⟨a, h⟩, fun hfalse => absurd hp hfalse⟩

theorem congr (h : Requires x p e) (hpq : p ↔ q) : Requires x q e :=
  ⟨fun hq => h.ok (hpq.mpr hq), fun hq => h.error (mt hpq.mp hq)⟩

theorem bind {f : α → Except ε β} (hx : Requires x p e)
    (hf : ∀ a, x = .ok a → Requires (f a) q e) : Requires (x >>= f) (p ∧ q) e := by
  constructor
  · rintro ⟨hp, hq⟩
    obtain ⟨a, ha⟩ := hx.ok hp
    obtain ⟨b, hb⟩ := (hf a ha).ok hq
    exact ⟨b, bind_eq_ok.mpr ⟨a, ha, hb⟩⟩
  · intro hpq
    by_cases hp : p
    · obtain ⟨a, ha⟩ := hx.ok hp
      exact bind_eq_error.mpr (.inr ⟨a, ha, (hf a ha).error fun hq => hpq ⟨hp, hq⟩⟩)
    · exact bind_eq_error.mpr (.inl (hx.error hp))

theorem map (h : Requires x p e) (f : α → β) : Requires (x >>= fun a => Pure.pure (f a)) p e :=
  (h.bind fun _ _ => of_ok rfl trivial).congr (iff_of_eq (and_true p))

end Requires

theorem run_bind_value (x : ExceptT ε (Traced η) α) (f : α → ExceptT ε (Traced η) β) :
    (x >>= f).run.value = x.run.value >>= fun a => (f a).run.value := by
  simp only [ExceptT.run_bind, Traced.bind_value]
  cases x.run.value <;> rfl

theorem run_bind_events (x : ExceptT ε (Traced η) α) (f : α → ExceptT ε (Traced η) β) :
    (x >>= f).run.events = x.run.events ++ match x.run.value with
      | .ok a => (f a).run.events
      | .error _ => [] := by
  simp only [ExceptT.run_bind, Traced.bind_events]
  cases x.run.value <;> rfl

end PowerDiscovery
