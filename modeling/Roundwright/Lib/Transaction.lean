/-
Programs over a transactional store. `Tx` is a program run on an open connection: it may raise at
any point, and the writes it made before raising are still in the working copy. `transaction`
runs such a program the way a `BEGIN … commit / rollback` block does: the working copy becomes the
store when the program returns, and is thrown away when it raises.

The inversion rules (`_ok`) take a successful run apart one statement at a time, so that what a
program did is read off its text without unfolding the monad.
-/
import Mathlib.Tactic.Common
import Mathlib.Logic.Relation

namespace Roundwright.Lib

/-! ## Fallible reads -/

section Except

variable {ε α β : Type}

/-- Raise `e` when the condition holds. -/
def refuse (bad : Prop) [Decidable bad] (e : ε) : Except ε Unit :=
  if bad then .error e else .ok ()

/-- The value, or `e` when there is none. -/
def demand (o : Option α) (e : ε) : Except ε α :=
  match o with
  | some a => .ok a
  | none => .error e

/-- Run a read, replacing whatever it raises. -/
def rewrap (x : Except ε α) (f : ε → ε) : Except ε α :=
  match x with
  | .ok a => .ok a
  | .error e => .error (f e)

variable {f : α → Except ε β}

theorem bind_eq_ok {x : Except ε α} {b : β} : (x >>= f) = .ok b ↔ ∃ a, x = .ok a ∧ f a = .ok b := by
  cases x with
  | error e => simp [bind, Except.bind]
  | ok a => simp [bind, Except.bind]

theorem bind_eq_error {x : Except ε α} {e : ε} : (x >>= f) = .error e ↔ x = .error e ∨ ∃ a, x = .ok a ∧ f a = .error e := by
  cases x with
  | error e => simp [bind, Except.bind]
  | ok a => simp [bind, Except.bind]

@[simp] theorem ok_bind (a : α) (f : α → Except ε β) : (Except.ok a >>= f) = f a := rfl

@[simp] theorem error_bind (e : ε) (f : α → Except ε β) : (Except.error e >>= f) = .error e := rfl

theorem pure_eq_ok {a b : α} : (pure a : Except ε α) = .ok b ↔ a = b := by
  simp [pure, Except.pure]

theorem refuse_of_not {bad : Prop} {inst : Decidable bad} {e : ε} (h : ¬ bad) : refuse bad e = .ok () := if_neg h

@[simp] theorem refuse_eq_ok {bad : Prop} [Decidable bad] {e : ε} {u : Unit} : refuse bad e = .ok u ↔ ¬ bad := by
  unfold refuse; split <;> simp_all

@[simp] theorem refuse_eq_error {bad : Prop} [Decidable bad] {e e' : ε} : refuse bad e = .error e' ↔ bad ∧ e = e' := by
  unfold refuse; split <;> simp_all

@[simp] theorem demand_eq_ok {o : Option α} {e : ε} {a : α} : demand o e = .ok a ↔ o = some a := by
  cases o <;> simp [demand]

@[simp] theorem demand_eq_error {o : Option α} {e e' : ε} : demand o e = .error e' ↔ o = none ∧ e = e' := by
  cases o <;> simp [demand]

@[simp] theorem rewrap_eq_ok {x : Except ε α} {f : ε → ε} {a : α} : rewrap x f = .ok a ↔ x = .ok a := by
  cases x <;> simp [rewrap]

/-- A loop that collects: every result comes from an item and every item has its result. -/
theorem mem_of_mapM_ok : ∀ {l : List α} {results : List β}, l.mapM f = .ok results →
    (∀ b ∈ results, ∃ a ∈ l, f a = .ok b) ∧ ∀ a ∈ l, ∃ b ∈ results, f a = .ok b
  | [], results, h => by
    obtain rfl : [] = results := by simpa [pure, Except.pure] using h
    simp
  | a :: rest, results, h => by
    simp only [List.mapM_cons, bind_eq_ok, pure_eq_ok] at h
    obtain ⟨b, hb, more, hmore, rfl⟩ := h
    obtain ⟨hback, hforth⟩ := mem_of_mapM_ok hmore
    refine ⟨List.forall_mem_cons.2 ⟨⟨a, List.mem_cons_self, hb⟩, fun c hc => ?_⟩,
      List.forall_mem_cons.2 ⟨⟨b, List.mem_cons_self, hb⟩, fun c hc => ?_⟩⟩
    · obtain ⟨x, hx, hfx⟩ := hback c hc
      exact ⟨x, List.mem_cons_of_mem _ hx, hfx⟩
    · obtain ⟨y, hy, hfy⟩ := hforth c hc
      exact ⟨y, List.mem_cons_of_mem _ hy, hfy⟩

/-- A check returns `()`; nothing is chosen there. -/
theorem exists_unit {p : Unit → Prop} : (∃ u, p u) ↔ p () :=
  ⟨fun ⟨_, h⟩ => h, fun h => ⟨(), h⟩⟩

/-! Loops over a list. -/

/-- A check of every item, in order. -/
def checkAll (f : α → Except ε Unit) : List α → Except ε Unit
  | [] => .ok ()
  | a :: l => do
    f a
    checkAll f l

theorem checkAll_eq_ok {f : α → Except ε Unit} {u : Unit} : ∀ {l : List α}, checkAll f l = .ok u ↔ ∀ a ∈ l, f a = .ok ()
  | [] => by simp [checkAll]
  | a :: l => by
    rw [checkAll, bind_eq_ok, exists_unit, List.forall_mem_cons, checkAll_eq_ok]

/-- A loop whose every pass leaves the state alone. -/
theorem foldlM_fixed {σ : Type} {f : σ → α → Except ε σ} {s : σ} :
    ∀ {l : List α}, (∀ a ∈ l, f s a = .ok s) → l.foldlM f s = .ok s
  | [], _ => rfl
  | a :: l, h => by
    obtain ⟨ha, hl⟩ := List.forall_mem_cons.1 h
    rw [List.foldlM_cons, ha, ok_bind]
    exact foldlM_fixed hl

/-- What every pass of a loop keeps, the loop keeps. -/
theorem foldlM_induction {σ : Type} {f : σ → α → Except ε σ} {P : σ → Prop} :
    ∀ {l : List α}, (∀ a ∈ l, ∀ s s', P s → f s a = .ok s' → P s') → ∀ {s s' : σ}, P s → l.foldlM f s = .ok s' → P s'
  | [], _, s, s', h, hl => by
    obtain rfl := pure_eq_ok.1 hl
    exact h
  | a :: l, hstep, s, s', h, hl => by
    rw [List.foldlM_cons, bind_eq_ok] at hl
    obtain ⟨s₁, ha, hl⟩ := hl
    obtain ⟨hhead, htail⟩ := List.forall_mem_cons.1 hstep
    exact foldlM_induction htail (hhead s s₁ h ha) hl

/-- What every pass keeps of the elements done so far holds of the whole list. -/
theorem foldlM_passes {σ : Type} {f : σ → α → Except ε σ} {P : List α → σ → Prop}
    (hpass : ∀ done a s s', P done s → f s a = .ok s' → P (done ++ [a]) s') :
    ∀ {l done : List α} {s s' : σ}, P done s → l.foldlM f s = .ok s' → P (done ++ l) s'
  | [], done, s, s', h, hl => by
    cases hl
    rw [List.append_nil]
    exact h
  | a :: l, done, s, s', h, hl => by
    rw [List.foldlM_cons, bind_eq_ok] at hl
    obtain ⟨s₁, ha, hl⟩ := hl
    rw [← List.singleton_append, ← List.append_assoc]
    exact foldlM_passes hpass (hpass done a s s₁ h ha) hl

end Except

/-! ## Programs on a connection -/

/-- A program on an open connection: the result, and the working copy it leaves behind. -/
def Tx (ε σ α : Type) : Type := σ → Except ε α × σ

namespace Tx

variable {ε σ α β : Type}

instance : Monad (Tx ε σ) where
  pure a := fun s => (.ok a, s)
  bind x f := fun s =>
    match x s with
    | (.ok a, s') => f a s'
    | (.error e, s') => (.error e, s')

/-- A read of the working copy. -/
def query (f : σ → Except ε α) : Tx ε σ α := fun s => (f s, s)

/-- A write that a constraint may refuse. -/
def write (f : σ → Except ε σ) : Tx ε σ Unit := fun s =>
  match f s with
  | .ok s' => (.ok (), s')
  | .error e => (.error e, s)

/-- A check on values already read. -/
def check (x : Except ε α) : Tx ε σ α := fun s => (x, s)

variable {s s' : σ}

@[simp] theorem pure_ok {a b : α} : (pure a : Tx ε σ α) s = (.ok b, s') ↔ a = b ∧ s = s' := by
  simp [pure]

variable {f : α → Tx ε σ β}

theorem bind_ok {x : Tx ε σ α} {b : β} : (x >>= f) s = (.ok b, s') ↔ ∃ a s₁, x s = (.ok a, s₁) ∧ f a s₁ = (.ok b, s') := by
  simp only [bind]
  rcases x s with ⟨e | a, s₁⟩ <;> simp

theorem bind_error {x : Tx ε σ α} {e : ε} {s : σ} :
    ((x >>= f) s).1 = .error e ↔ (x s).1 = .error e ∨ ∃ a s₁, x s = (.ok a, s₁) ∧ (f a s₁).1 = .error e := by
  simp only [bind]
  rcases x s with ⟨e' | a, s₁⟩ <;> simp

theorem map_ok {f : α → β} {x : Tx ε σ α} {b : β} : (f <$> x) s = (.ok b, s') ↔ ∃ a, x s = (.ok a, s') ∧ f a = b := by
  show (x >>= fun a => pure (f a)) s = (.ok b, s') ↔ _
  simp only [bind_ok, pure_ok]
  constructor
  · rintro ⟨a, s₁, hx, rfl, rfl⟩
    exact ⟨a, hx, rfl⟩
  · rintro ⟨a, hx, rfl⟩
    exact ⟨a, s', hx, rfl, rfl⟩

@[simp] theorem query_ok {f : σ → Except ε α} {a : α} : query f s = (.ok a, s') ↔ f s = .ok a ∧ s = s' := by
  simp [query]

@[simp] theorem check_ok {x : Except ε α} {a : α} : check x s = (.ok a, s') ↔ x = .ok a ∧ s = s' := by
  simp [check]

@[simp] theorem write_ok {f : σ → Except ε σ} {u : Unit} : write f s = (.ok u, s') ↔ f s = .ok s' := by
  unfold write; cases h : f s <;> simp

/-- A part of a program that runs under a condition. -/
def when (b : Prop) [Decidable b] (x : Tx ε σ Unit) : Tx ε σ Unit := if b then x else Pure.pure ()

theorem when_ok {b : Prop} [Decidable b] {x : Tx ε σ Unit} {u : Unit} :
    Tx.when b x s = (.ok u, s') ↔ (b ∧ x s = (.ok u, s')) ∨ (¬ b ∧ s = s') := by
  unfold Tx.when
  by_cases hb : b <;> simp [hb]

/-! A statement followed by the rest of the program, run. -/

theorem run_query_bind (g : σ → Except ε α) (f : α → Tx ε σ β) (s : σ) :
    (query g >>= f) s = match g s with
      | .ok a => f a s
      | .error e => (.error e, s) := by
  simp only [bind, query]
  cases g s <;> rfl

theorem run_write_bind (g : σ → Except ε σ) (f : Unit → Tx ε σ β) (s : σ) :
    (write g >>= f) s = match g s with
      | .ok s' => f () s'
      | .error e => (.error e, s) := by
  simp only [bind, write]
  cases g s <;> rfl

theorem run_check_bind (x : Except ε α) (f : α → Tx ε σ β) (s : σ) :
    (check x >>= f) s = match x with
      | .ok a => f a s
      | .error e => (.error e, s) := by
  simp only [bind, check]
  cases x <;> rfl

/-! The inversion rules for a statement followed by the rest of the program. -/

theorem query_bind {g : σ → Except ε α} {b : β} : (query g >>= f) s = (.ok b, s') ↔ ∃ a, g s = .ok a ∧ f a s = (.ok b, s') := by
  simp [bind_ok]

theorem check_bind {x : Except ε α} {b : β} : (check x >>= f) s = (.ok b, s') ↔ ∃ a, x = .ok a ∧ f a s = (.ok b, s') := by
  simp [bind_ok]

theorem write_bind {g : σ → Except ε σ} {f : Unit → Tx ε σ β} {b : β} :
    (write g >>= f) s = (.ok b, s') ↔ ∃ s₁, g s = .ok s₁ ∧ f () s₁ = (.ok b, s') := by
  simp only [bind_ok, write_ok, exists_unit]

end Tx

/-- `BEGIN IMMEDIATE … commit`, with `rollback` when the body raises. -/
def transaction {ε σ α : Type} (body : Tx ε σ α) (s : σ) : Except ε α × σ :=
  match body s with
  | (.ok a, s') => (.ok a, s')
  | (.error e, _) => (.error e, s)

section

variable {ε σ α : Type} {body : Tx ε σ α} {s s' : σ}

theorem transaction_ok {a : α} : transaction body s = (.ok a, s') ↔ body s = (.ok a, s') := by
  unfold transaction
  rcases body s with ⟨e | b, s₁⟩ <;> simp

/-- A transaction that raises leaves the store as it was. -/
theorem transaction_error {e : ε} (h : transaction body s = (.error e, s')) : s' = s := by
  unfold transaction at h
  rcases hb : body s with ⟨e' | b, s₁⟩ <;> rw [hb] at h
  · exact (Prod.mk.inj h).2.symm
  · cases (Prod.mk.inj h).1

/-- A transaction either returns with the body's writes or changes nothing. -/
theorem transaction_cases (body : Tx ε σ α) (s : σ) :
    (∃ a s', body s = (.ok a, s') ∧ transaction body s = (.ok a, s')) ∨
    (∃ e, (body s).1 = .error e ∧ transaction body s = (.error e, s)) := by
  unfold transaction
  rcases body s with ⟨e | b, s₁⟩
  · exact .inr ⟨e, rfl, rfl⟩
  · exact .inl ⟨b, s₁, rfl, rfl⟩

/-- The rest of a program runs on what a transaction committed. -/
theorem run_transaction_bind {β : Type} (body : Tx ε σ α) (f : α → Tx ε σ β) (s : σ) :
    ((transaction body : Tx ε σ α) >>= f) s = match body s with
      | (.ok a, s') => f a s'
      | (.error e, _) => (.error e, s) := by
  simp only [bind, transaction]
  rcases body s with ⟨e | a, s'⟩ <;> rfl

end

/-! ## Runs -/

/-- What every step keeps, every run keeps. -/
theorem run_induction {σ : Type} {step : σ → σ → Prop} {P : σ → Prop} (hstep : ∀ s s', step s s' → P s → P s')
    {s s' : σ} (hr : Relation.ReflTransGen step s s') (h : P s) : P s' := by
  induction hr with
  | refl => exact h
  | tail _ hlast ih => exact hstep _ _ hlast ih

/-- A preorder that every step respects relates the ends of every run that starts in an
invariant of the steps. -/
theorem run_relates {σ : Type} {step : σ → σ → Prop} {P : σ → Prop} {R : σ → σ → Prop}
    (hinv : ∀ s s', step s s' → P s → P s') (hstep : ∀ s s', step s s' → P s → R s s') (hrefl : ∀ s, R s s)
    (htrans : ∀ a b c, R a b → R b c → R a c) {s s' : σ} (hr : Relation.ReflTransGen step s s') (h : P s) : R s s' := by
  induction hr with
  | refl => exact hrefl _
  | tail hpre hlast ih => exact htrans _ _ _ ih (hstep _ _ hlast (run_induction hinv hpre h))

/-! ## Programs of several transactions -/

/-- `try: … except caught: handler; raise` -/
def Tx.onError {ε σ α : Type} (x : Tx ε σ α) (caught : ε → Bool) (handler : Tx ε σ Unit) : Tx ε σ α := fun s =>
  match x s with
  | (.error e, s') => if caught e then (handler >>= fun _ => Tx.check (.error e)) s' else (.error e, s')
  | r => r

/-- `try: … except caught: raise other` -/
def Tx.mapError {ε σ α : Type} (x : Tx ε σ α) (f : ε → ε) : Tx ε σ α := fun s =>
  match x s with
  | (.error e, s') => (.error (f e), s')
  | r => r

theorem Tx.mapError_ok {ε σ α : Type} {x : Tx ε σ α} {f : ε → ε} {a : α} {s s' : σ} :
    x.mapError f s = (.ok a, s') ↔ x s = (.ok a, s') := by
  unfold Tx.mapError
  rcases x s with ⟨e | b, s₁⟩ <;> simp

theorem Tx.mapError_state {ε σ α : Type} (x : Tx ε σ α) (f : ε → ε) (s : σ) : (x.mapError f s).2 = (x s).2 := by
  unfold Tx.mapError
  rcases x s with ⟨e | b, s₁⟩ <;> rfl

/-- A program on a part of the store. -/
def Tx.on {ε σ τ α : Type} (get : τ → σ) (set : τ → σ → τ) (x : Tx ε σ α) : Tx ε τ α := fun t => ((x (get t)).1, set t (x (get t)).2)

theorem Tx.on_ok {ε σ τ α : Type} {get : τ → σ} {set : τ → σ → τ} {x : Tx ε σ α} {a : α} {t t' : τ} :
    x.on get set t = (.ok a, t') ↔ ∃ s', x (get t) = (.ok a, s') ∧ set t s' = t' := by
  unfold Tx.on
  rcases x (get t) with ⟨r, s'⟩
  simp only [Prod.mk.injEq]
  constructor
  · rintro ⟨rfl, rfl⟩
    exact ⟨s', ⟨rfl, rfl⟩, rfl⟩
  · rintro ⟨s'', ⟨rfl, rfl⟩, rfl⟩
    exact ⟨rfl, rfl⟩

/-- Whatever a program does to the store is a sequence of the given steps. -/
def Tx.Follows {ε σ α : Type} (step : σ → σ → Prop) (x : Tx ε σ α) : Prop := ∀ s, Relation.ReflTransGen step s (x s).2

namespace Tx.Follows

variable {ε σ α β : Type} {step : σ → σ → Prop} {x : Tx ε σ α} {f : α → Tx ε σ β}

theorem pure (a : α) : Follows step (Pure.pure a : Tx ε σ α) := fun _ => .refl

theorem query (g : σ → Except ε α) : Follows step (Tx.query g) := fun _ => .refl

theorem check (r : Except ε α) : Follows step (Tx.check (σ := σ) r) := fun _ => .refl

/-- The rest of the program runs on a value the first part returned. -/
theorem bind_ok (hx : Follows step x) (hf : ∀ a s s', x s = (.ok a, s') → Relation.ReflTransGen step s' (f a s').2) :
    Follows step (x >>= f) := by
  intro s
  have hs := hx s
  simp only [bind]
  rcases h : x s with ⟨e | a, s'⟩ <;> rw [h] at hs
  · exact hs
  · exact hs.trans (hf a s s' h)

theorem bind (hx : Follows step x) (hf : ∀ a, Follows step (f a)) : Follows step (x >>= f) :=
  bind_ok hx fun a _ s' _ => hf a s'

/-- After a check the rest may use that it passed. -/
theorem check_bind {r : Except ε α} (hf : ∀ a, r = .ok a → Follows step (f a)) : Follows step (Tx.check r >>= f) :=
  bind_ok (check r) fun a _ s' h => hf a (check_ok.1 h).1 s'

theorem onError {caught : ε → Bool} {handler : Tx ε σ Unit} (hx : Follows step x) (hh : Follows step handler) :
    Follows step (x.onError caught handler) := by
  intro s
  have hs := hx s
  simp only [Tx.onError]
  rcases h : x s with ⟨e | a, s'⟩ <;> rw [h] at hs
  · cases hc : caught e with
    | true => simpa [hc] using hs.trans (bind hh (fun _ => check (.error e)) s')
    | false => simpa [hc] using hs
  · exact hs

/-- A transaction is one step when its committed body is one. -/
theorem transaction {body : Tx ε σ α} (h : ∀ s a s', body s = (.ok a, s') → step s s') :
    Follows step (Lib.transaction body) := by
  intro s
  rcases transaction_cases body s with ⟨a, s', hb, ht⟩ | ⟨e, -, ht⟩ <;> rw [ht]
  · exact .single (h s a s' hb)

end Tx.Follows

/-! ## Programs of one transaction -/

/-- The store after the program is the one before it, or what its transaction committed. -/
def Tx.Atomic {ε σ α : Type} (commit : σ → σ → Prop) (x : Tx ε σ α) : Prop := ∀ s, (x s).2 = s ∨ commit s (x s).2

namespace Tx.Atomic

variable {ε σ α β : Type} {commit : σ → σ → Prop} {x : Tx ε σ α} {f : α → Tx ε σ β}

theorem check_bind {r : Except ε α} (hf : ∀ a, r = .ok a → Atomic commit (f a)) : Atomic commit (Tx.check r >>= f) := by
  intro s
  cases r with
  | error e => exact .inl rfl
  | ok a => exact hf a rfl s

/-- What follows the transaction only reads. -/
theorem bind_read (hx : Atomic commit x) (hf : ∀ a s, (f a s).2 = s) : Atomic commit (x >>= f) := by
  intro s
  have hs := hx s
  simp only [bind]
  rcases h : x s with ⟨e | a, s'⟩ <;> rw [h] at hs
  · exact hs
  · rw [hf]
    exact hs

theorem mapError {g : ε → ε} (hx : Atomic commit x) : Atomic commit (x.mapError g) := by
  intro s
  rw [Tx.mapError_state]
  exact hx s

theorem map {g : α → β} (hx : Atomic commit x) : Atomic commit (g <$> x) :=
  bind_read hx fun _ _ => rfl

theorem transaction {body : Tx ε σ α} (h : ∀ s a s', body s = (.ok a, s') → commit s s') :
    Atomic commit (Lib.transaction body) := by
  intro s
  rcases transaction_cases body s with ⟨a, s', hb, ht⟩ | ⟨e, -, ht⟩ <;> rw [ht]
  · exact .inr (h s a s' hb)
  · exact .inl rfl

end Tx.Atomic

theorem run_foldl {σ κ : Type} {step : σ → σ → Prop} {call : σ → κ → σ}
    (h : ∀ s c, Relation.ReflTransGen step s (call s c)) :
    ∀ (calls : List κ) (s : σ), Relation.ReflTransGen step s (calls.foldl call s)
  | [], _ => .refl
  | c :: rest, s => (h s c).trans (run_foldl h rest (call s c))

end Roundwright.Lib
