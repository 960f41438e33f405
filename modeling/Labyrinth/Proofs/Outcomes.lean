import Labyrinth.Attempt

/-!
# Outcomes

Reading a statement ends in a value or in a refusal, and carrying one out ends in
a state and perhaps a fault. Proofs about either take a composed outcome apart:
what a sequence of readings comes to is what its parts came to, a list is refused
for the first element that is, and what every step of a loop keeps, the loop keeps,
where it stops as well as where it ends.
-/

namespace Labyrinth

namespace Outcome

variable {α β ε δ : Type}

theorem bind_eq_ok {x : Except ε α} {f : α → Except ε β} {b : β} :
    (x >>= f) = .ok b ↔ ∃ a, x = .ok a ∧ f a = .ok b := by
  cases x with
  | error e =>
      constructor
      · intro h
        cases h
      · rintro ⟨_, h, _⟩
        cases h
  | ok a => exact ⟨fun h => ⟨a, rfl, h⟩, fun ⟨_, ha, h⟩ => Except.ok.inj ha ▸ h⟩

theorem bind_eq_error {x : Except ε α} {f : α → Except ε β} {e : ε} :
    (x >>= f) = .error e ↔ x = .error e ∨ ∃ a, x = .ok a ∧ f a = .error e := by
  cases x with
  | error e' =>
      constructor
      · intro h
        exact .inl (congrArg _ (Except.error.inj h))
      · rintro (h | ⟨_, h, _⟩)
        · exact congrArg _ (Except.error.inj h)
        · cases h
  | ok a =>
      constructor
      · intro h
        exact .inr ⟨a, rfl, h⟩
      · rintro (h | ⟨_, ha, h⟩)
        · cases h
        · exact Except.ok.inj ha ▸ h

theorem mapError_eq_ok {x : Except ε α} {f : ε → δ} {a : α} :
    x.mapError f = .ok a ↔ x = .ok a := by
  cases x with
  | error e =>
      constructor
      · intro h
        cases h
      · intro h
        cases h
  | ok b => exact ⟨fun h => congrArg _ (Except.ok.inj h), fun h => congrArg _ (Except.ok.inj h)⟩

theorem mapError_eq_error {x : Except ε α} {f : ε → δ} {e : δ} :
    x.mapError f = .error e ↔ ∃ e', x = .error e' ∧ f e' = e := by
  cases x with
  | error e' =>
      constructor
      · intro h
        exact ⟨e', rfl, Except.error.inj h⟩
      · rintro ⟨_, h, rfl⟩
        cases h
        rfl
  | ok a =>
      constructor
      · intro h
        cases h
      · rintro ⟨_, h, -⟩
        cases h

theorem map_eq_ok {x : Except ε α} {f : α → β} {b : β} :
    x.map f = .ok b ↔ ∃ a, x = .ok a ∧ f a = b := by
  cases x with
  | error e =>
      constructor
      · intro h
        cases h
      · rintro ⟨_, h, -⟩
        cases h
  | ok a =>
      constructor
      · intro h
        exact ⟨a, rfl, Except.ok.inj h⟩
      · rintro ⟨_, h, rfl⟩
        cases h
        rfl

theorem map_eq_error {x : Except ε α} {f : α → β} {e : ε} :
    x.map f = .error e ↔ x = .error e := by
  cases x with
  | error e' =>
      exact ⟨fun h => congrArg _ (Except.error.inj h), fun h => congrArg _ (Except.error.inj h)⟩
  | ok a =>
      constructor
      · intro h
        cases h
      · intro h
        cases h

theorem ite_eq_ok {p : Prop} [Decidable p] {a b : α} {e : ε} :
    (if p then .ok a else .error e : Except ε α) = .ok b ↔ p ∧ a = b := by
  split
  · next hp => exact ⟨fun h => ⟨hp, Except.ok.inj h⟩, fun h => congrArg _ h.2⟩
  · next hp => exact ⟨fun h => (nomatch h), fun h => absurd h.1 hp⟩

/-- A list is read if it is read place by place. -/
theorem mapM_eq_ok {f : α → Except ε β} {xs : List α} {ys : List β} :
    xs.mapM f = .ok ys ↔ ys.length = xs.length ∧
      ∀ (i : Nat) x y, xs[i]? = some x → ys[i]? = some y → f x = .ok y := by
  induction xs generalizing ys with
  | nil =>
      rw [List.mapM_nil]
      constructor
      · intro h
        obtain rfl : [] = ys := Except.ok.inj h
        exact ⟨rfl, fun i x y hx => nomatch hx⟩
      · rintro ⟨hlength, -⟩
        rw [List.eq_nil_of_length_eq_zero hlength]
        rfl
  | cons x xs ih =>
      rw [List.mapM_cons]
      constructor
      · intro h
        obtain ⟨y, hy, h⟩ := bind_eq_ok.1 h
        obtain ⟨rest, hrest, h⟩ := bind_eq_ok.1 h
        obtain rfl : y :: rest = ys := Except.ok.inj h
        obtain ⟨hlength, hplaces⟩ := ih.1 hrest
        refine ⟨congrArg Nat.succ hlength, fun i x' y' hx' hy' => ?_⟩
        cases i with
        | zero =>
            cases hx'
            cases hy'
            exact hy
        | succ i => exact hplaces i x' y' hx' hy'
      · rintro ⟨hlength, hplaces⟩
        obtain ⟨y, rest, rfl⟩ := List.exists_cons_of_length_eq_add_one hlength
        have hrest : xs.mapM f = .ok rest :=
          ih.2 ⟨Nat.succ.inj hlength, fun i => hplaces (i + 1)⟩
        exact bind_eq_ok.2 ⟨y, hplaces 0 x y rfl rfl, bind_eq_ok.2 ⟨rest, hrest, rfl⟩⟩

theorem exists_of_mapM {f : α → Except ε β} {xs : List α} {ys : List β}
    (h : xs.mapM f = .ok ys) : ∀ y ∈ ys, ∃ x ∈ xs, f x = .ok y := by
  intro y hy
  obtain ⟨hlength, hplaces⟩ := mapM_eq_ok.1 h
  obtain ⟨i, hi, rfl⟩ := List.mem_iff_getElem.1 hy
  have hx : i < xs.length := hlength ▸ hi
  exact ⟨xs[i], List.getElem_mem hx,
    hplaces i _ _ (List.getElem?_eq_getElem hx) (List.getElem?_eq_getElem hi)⟩

/-- A list is refused for the first of its elements that is. -/
theorem mapM_eq_error {f : α → Except ε β} {xs : List α} {e : ε} :
    xs.mapM f = .error e ↔ ∃ (i : Nat) (x : α), xs[i]? = some x ∧ f x = .error e ∧
      ∀ j < i, ∀ y, xs[j]? = some y → ∃ b, f y = .ok b := by
  induction xs with
  | nil =>
      rw [List.mapM_nil]
      constructor
      · intro h
        cases h
      · rintro ⟨i, x, hx, -⟩
        cases hx
  | cons x xs ih =>
      rw [List.mapM_cons, bind_eq_error]
      constructor
      · rintro (h | ⟨b, hb, h⟩)
        · exact ⟨0, x, rfl, h, fun j hj => absurd hj (Nat.not_lt_zero j)⟩
        · rcases bind_eq_error.1 h with h | ⟨_, -, h⟩
          · obtain ⟨i, y, hy, herror, hbefore⟩ := ih.1 h
            refine ⟨i + 1, y, hy, herror, fun j hj z hz => ?_⟩
            cases j with
            | zero =>
                cases hz
                exact ⟨b, hb⟩
            | succ j => exact hbefore j (Nat.lt_of_succ_lt_succ hj) z hz
          · cases h
      · rintro ⟨i, y, hy, herror, hbefore⟩
        cases i with
        | zero =>
            cases hy
            exact .inl herror
        | succ i =>
            obtain ⟨b, hb⟩ := hbefore 0 (Nat.succ_pos i) x rfl
            have hrest : xs.mapM f = .error e :=
              ih.2 ⟨i, y, hy, herror, fun j hj => hbefore (j + 1) (Nat.succ_lt_succ hj)⟩
            exact .inr ⟨b, hb, bind_eq_error.2 (.inl hrest)⟩

end Outcome

namespace Attempt

variable {α σ ε : Type}

theorem eq_done_iff {a : Attempt σ ε} {s : σ} : a = .done s ↔ a.state = s ∧ a.fault = none := by
  obtain ⟨s', fault⟩ := a
  exact Attempt.mk.injEq .. ▸ Iff.rfl

theorem mapFault_eq_done {δ : Type} {a : Attempt σ ε} {f : ε → δ} {s : σ} :
    a.mapFault f = .done s ↔ a = .done s := by
  rw [eq_done_iff, eq_done_iff]
  exact and_congr_right fun _ => Option.map_eq_none_iff

theorem andThen_eq_done {a : Attempt σ ε} {next : σ → Attempt σ ε} {s : σ} :
    a.andThen next = .done s ↔ ∃ s', a = .done s' ∧ next s' = .done s := by
  obtain ⟨s', fault⟩ := a
  cases fault with
  | none =>
      constructor
      · exact fun h => ⟨s', rfl, h⟩
      · rintro ⟨_, h, hnext⟩
        cases h
        exact hnext
  | some e =>
      constructor
      · exact fun h => nomatch h
      · rintro ⟨_, h, -⟩
        cases h

/-- Either the operation finished and `next` is what follows, or it failed and nothing does. -/
theorem andThen_cases (a : Attempt σ ε) (next : σ → Attempt σ ε) :
    a = .done a.state ∧ a.andThen next = next a.state ∨
      ∃ e, a.fault = some e ∧ a.andThen next = a := by
  obtain ⟨s, fault⟩ := a
  cases fault with
  | none => exact .inl ⟨rfl, rfl⟩
  | some e => exact .inr ⟨e, rfl, rfl⟩

theorem each_singleton (step : σ → α → Attempt σ ε) (s : σ) (x : α) :
    each step s [x] = step s x := by
  unfold each
  split
  · next heq => exact heq.symm
  · next heq => exact heq.symm

theorem each_cons_eq_done {step : σ → α → Attempt σ ε} {s t : σ} {x : α} {xs : List α} :
    each step s (x :: xs) = .done t ↔ ∃ s', step s x = .done s' ∧ each step s' xs = .done t := by
  rw [← List.singleton_append, each_append, each_singleton, andThen_eq_done]

theorem state_each {P : σ → Prop} {step : σ → α → Attempt σ ε} {xs : List α}
    (hstep : ∀ s, ∀ x ∈ xs, P s → P (step s x).state) {s : σ} (hs : P s) :
    P (each step s xs).state := by
  induction xs generalizing s with
  | nil => exact hs
  | cons x xs ih =>
      have hx := hstep s x List.mem_cons_self hs
      unfold each
      split
      · next s' heq =>
          rw [heq] at hx
          exact ih (fun s y hy => hstep s y (List.mem_cons_of_mem _ hy)) hx
      · next s' e heq =>
          rw [heq] at hx
          exact hx

/-- What every step that finishes keeps, a loop that finishes keeps. -/
theorem of_each_eq_done {P : σ → Prop} {step : σ → α → Attempt σ ε} {xs : List α}
    (hstep : ∀ {s s'}, ∀ x ∈ xs, step s x = .done s' → P s → P s') {s t : σ}
    (h : each step s xs = .done t) (hs : P s) : P t := by
  induction xs generalizing s with
  | nil =>
      cases h
      exact hs
  | cons x xs ih =>
      obtain ⟨s', hx, hxs⟩ := each_cons_eq_done.1 h
      exact ih (fun y hy => hstep y (List.mem_cons_of_mem _ hy)) hxs
        (hstep x List.mem_cons_self hx hs)

/-- A loop that fails has done what stands before the element that failed. -/
theorem exists_of_fault_each {step : σ → α → Attempt σ ε} {s : σ} {xs : List α} {e : ε}
    (h : (each step s xs).fault = some e) :
    ∃ before x after s', xs = before ++ x :: after ∧ each step s before = .done s' ∧
      (step s' x).fault = some e := by
  induction xs generalizing s with
  | nil => cases h
  | cons x xs ih =>
      unfold each at h
      split at h
      · next s' heq =>
          obtain ⟨before, y, after, t, rfl, hbefore, hfault⟩ := ih h
          refine ⟨x :: before, y, after, t, rfl, ?_, hfault⟩
          rw [each, heq]
          exact hbefore
      · next s' e' heq => exact ⟨[], x, xs, s, rfl, rfl, by rw [heq]; exact h⟩

/-- Steps that all finish are a fold. -/
theorem each_eq_foldl {P : σ → Prop} {step : σ → α → Attempt σ ε} (f : σ → α → σ) {xs : List α}
    (hstep : ∀ s, ∀ x ∈ xs, P s → step s x = .done (f s x) ∧ P (f s x)) {s : σ} (hs : P s) :
    each step s xs = .done (xs.foldl f s) := by
  induction xs generalizing s with
  | nil => rfl
  | cons x xs ih =>
      obtain ⟨hdone, hP⟩ := hstep s x List.mem_cons_self hs
      rw [each, hdone]
      exact ih (fun s y hy => hstep s y (List.mem_cons_of_mem _ hy)) hP

end Attempt

end Labyrinth
