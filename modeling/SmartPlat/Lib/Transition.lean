import Mathlib.Data.List.Induction
import Mathlib.Logic.Function.Basic
import Mathlib.Tactic.Common

set_option autoImplicit false

/-! # Runs of a labelled step relation

A system is a relation `step s a s'` over states and labels; an event that has an outcome carries it
in its label. A `Run` is a finite sequence of steps with its labels in order. Assumptions on the
steps of a run ("no step is of this kind", "every step meets that condition in the state before it")
are made by restricting the relation with `stepWhen`. -/

namespace SmartPlat.Lib

variable {σ τ α : Type*}

/-- Runs from `s₀`: the labels so far and the state they lead to. -/
inductive Run (step : σ → α → σ → Prop) (s₀ : σ) : List α → σ → Prop
  | nil : Run step s₀ [] s₀
  | snoc {tr : List α} {s s' : σ} {a : α} :
      Run step s₀ tr s → step s a s' → Run step s₀ (tr ++ [a]) s'

/-- The steps of `step` that meet a condition on the state before them and their label. -/
def stepWhen (cond : σ → α → Prop) (step : σ → α → σ → Prop) : σ → α → σ → Prop :=
  fun s a s' => cond s a ∧ step s a s'

/-- The steps of `step` with a component beside the state that only records what happens. -/
def stepWith (tick : τ → σ → α → τ) (step : σ → α → σ → Prop) : σ × τ → α → σ × τ → Prop :=
  fun x a y => step x.1 a y.1 ∧ y.2 = tick x.2 x.1 a

variable {step : σ → α → σ → Prop} {s₀ : σ}

/-- An invariant over the labels so far and the state, kept by every step, holds of every run. -/
theorem Run.invariant (I : List α → σ → Prop) (h0 : I [] s₀)
    (hstep : ∀ tr s a s', I tr s → step s a s' → I (tr ++ [a]) s') {tr : List α} {s : σ}
    (h : Run step s₀ tr s) : I tr s := by
  induction h with
  | nil => exact h0
  | snoc _ hs ih => exact hstep _ _ _ _ ih hs

/-- An invariant of the state alone. -/
theorem Run.stateInvariant (I : σ → Prop) (h0 : I s₀)
    (hstep : ∀ s a s', I s → step s a s' → I s') {tr : List α} {s : σ}
    (h : Run step s₀ tr s) : I s :=
  h.invariant (fun _ s => I s) h0 (fun _ s a s' hI hs => hstep s a s' hI hs)

theorem Run.mono {step' : σ → α → σ → Prop} (hstep : ∀ s a s', step s a s' → step' s a s')
    {tr : List α} {s : σ} (h : Run step s₀ tr s) : Run step' s₀ tr s := by
  induction h with
  | nil => exact .nil
  | snoc _ hs ih => exact ih.snoc (hstep _ _ _ hs)

theorem Run.append {tr tr' : List α} {s s' : σ} (h : Run step s₀ tr s) (h' : Run step s tr' s') :
    Run step s₀ (tr ++ tr') s' := by
  induction h' with
  | nil => rwa [List.append_nil]
  | snoc _ hs ih =>
      rw [← List.append_assoc]
      exact ih.snoc hs

/-- Every label of a run is a step between two states of it. -/
theorem Run.split {pre suf : List α} {a : α} {s : σ} (h : Run step s₀ (pre ++ a :: suf) s) :
    ∃ s₁ s₂, Run step s₀ pre s₁ ∧ step s₁ a s₂ ∧ Run step s₂ suf s := by
  induction suf using List.reverseRecOn generalizing s with
  | nil =>
      generalize hl : pre ++ [a] = l at h
      cases h with
      | nil => simp at hl
      | snoc h' hs =>
          obtain ⟨rfl, hab⟩ := List.append_inj' hl rfl
          obtain rfl := List.head_eq_of_cons_eq hab
          exact ⟨_, s, h', hs, .nil⟩
  | append_singleton suf b ih =>
      rw [← List.cons_append, ← List.append_assoc] at h
      generalize hl : pre ++ a :: suf ++ [b] = l at h
      cases h with
      | nil => simp at hl
      | snoc h' hs =>
          obtain ⟨rfl, hbc⟩ := List.append_inj' hl rfl
          obtain rfl := List.head_eq_of_cons_eq hbc
          obtain ⟨s₁, s₂, hpre, ha, hsuf⟩ := ih h'
          exact ⟨s₁, s₂, hpre, ha, .snoc hsuf hs⟩

/-- The last step of a run. -/
theorem run_concat_iff {tr : List α} {a : α} {s : σ} :
    Run step s₀ (tr ++ [a]) s ↔ ∃ s₁, Run step s₀ tr s₁ ∧ step s₁ a s := by
  refine ⟨fun h => ?_, fun ⟨_, h, hs⟩ => h.snoc hs⟩
  generalize hl : tr ++ [a] = l at h
  cases h with
  | nil => simp at hl
  | snoc h' hs =>
      obtain ⟨rfl, hab⟩ := List.append_inj' hl rfl
      obtain rfl := List.head_eq_of_cons_eq hab
      exact ⟨_, h', hs⟩

/-- The first labels of a run are a run. -/
theorem Run.prefix {pre tr : List α} {s : σ} (h : Run step s₀ tr s) (hpre : pre <+: tr) :
    ∃ s₁, Run step s₀ pre s₁ := by
  obtain ⟨suf, rfl⟩ := hpre
  cases suf with
  | nil => exact ⟨s, by rwa [List.append_nil] at h⟩
  | cons a suf =>
      obtain ⟨s₁, -, hrun, -⟩ := h.split
      exact ⟨s₁, hrun⟩

/-- Where a label has at most one outcome, so have the labels of a run. -/
theorem Run.deterministic (hstep : ∀ s a s' s'', step s a s' → step s a s'' → s' = s'')
    {tr : List α} {s s' : σ} (h : Run step s₀ tr s) (h' : Run step s₀ tr s') : s = s' := by
  induction h generalizing s' with
  | nil =>
      generalize hl : [] = l at h'
      cases h' with
      | nil => rfl
      | snoc => simp at hl
  | @snoc tr s₁ s a _ hs ih =>
      generalize hl : tr ++ [a] = l at h'
      cases h' with
      | nil => simp at hl
      | snoc h₂ hs₂ =>
          obtain ⟨rfl, hab⟩ := List.append_inj' hl rfl
          obtain rfl := List.head_eq_of_cons_eq hab
          obtain rfl := ih h₂
          exact hstep _ _ _ _ hs hs₂

/-- **A condition that is needed at once.** If an invariant gives the property `P`, is kept by the steps
    that meet a condition, and any other step leads to a state without `P`, then `P` holds in every
    state of a run exactly when all of its steps meet the condition. -/
theorem Run.always_iff {cond : σ → α → Prop} {P : σ → Prop} (I : σ → Prop)
    (hdet : ∀ s a s' s'', step s a s' → step s a s'' → s' = s'') (h0 : I s₀) (hP : ∀ s, I s → P s)
    (hgood : ∀ s a s', I s → cond s a → step s a s' → I s')
    (hbad : ∀ s a s', I s → ¬ cond s a → step s a s' → ¬ P s') {tr : List α} {s : σ}
    (h : Run step s₀ tr s) :
    (∀ pre s₁, pre <+: tr → Run step s₀ pre s₁ → P s₁) ↔ Run (stepWhen cond step) s₀ tr s := by
  have hinv : ∀ {tr s}, Run (stepWhen cond step) s₀ tr s → I s := fun hrun =>
    hrun.stateInvariant I h0 fun s a s' hI hs => hgood s a s' hI hs.1 hs.2
  constructor
  · intro hall
    induction h with
    | nil => exact .nil
    | @snoc tr s₁ s₂ a hrun hs ih =>
        have hgood₁ := ih fun pre s₁ hpre => hall pre s₁ (hpre.trans (List.prefix_append _ _))
        refine hgood₁.snoc ⟨?_, hs⟩
        by_contra hc
        exact hbad _ _ _ (hinv hgood₁) hc hs (hall _ _ List.prefix_rfl (hrun.snoc hs))
  · intro hrun pre s₁ hpre h₁
    obtain ⟨s₂, h₂⟩ := hrun.prefix hpre
    obtain rfl := h₁.deterministic hdet (h₂.mono fun _ _ _ hs => hs.2)
    exact hP _ (hinv h₂)

/-- The steps of `step` that come out as `G` says. -/
def stepThat (G : σ → α → σ → Prop) (step : σ → α → σ → Prop) : σ → α → σ → Prop :=
  fun s a s' => G s a s' ∧ step s a s'

/-- If, as long as an invariant holds, the steps that meet a condition come out as `G` says and keep the
    invariant, then so do all steps of a run whose steps meet the condition. -/
theorem Run.each {cond : σ → α → Prop} {G : σ → α → σ → Prop} (I : σ → Prop) (h0 : I s₀)
    (hgood : ∀ s a s', I s → cond s a → step s a s' → I s' ∧ G s a s') {tr : List α} {s : σ}
    (h : Run (stepWhen cond step) s₀ tr s) : Run (stepThat G step) s₀ tr s := by
  have hinv : ∀ {tr s}, Run (stepWhen cond step) s₀ tr s → I s := fun hrun =>
    hrun.stateInvariant I h0 fun s a s' hI hs => (hgood s a s' hI hs.1 hs.2).1
  induction h with
  | nil => exact .nil
  | snoc hrun hs ih => exact ih.snoc ⟨(hgood _ _ _ (hinv hrun) hs.1 hs.2).2, hs.2⟩

/-- **A condition that decides every step.** If, as long as an invariant holds, the steps that meet a
    condition come out as `G` says and keep the invariant, and no other step does, then the runs whose
    steps all come out as `G` says are those whose steps all meet the condition. -/
theorem Run.each_iff {cond : σ → α → Prop} {G : σ → α → σ → Prop} (I : σ → Prop) (h0 : I s₀)
    (hgood : ∀ s a s', I s → cond s a → step s a s' → I s' ∧ G s a s')
    (hbad : ∀ s a s', I s → ¬ cond s a → step s a s' → ¬ G s a s') {tr : List α} {s : σ} :
    Run (stepThat G step) s₀ tr s ↔ Run (stepWhen cond step) s₀ tr s := by
  have hinv : ∀ {tr s}, Run (stepWhen cond step) s₀ tr s → I s := fun hrun =>
    hrun.stateInvariant I h0 fun s a s' hI hs => (hgood s a s' hI hs.1 hs.2).1
  refine ⟨fun h => ?_, fun h => h.each I h0 hgood⟩
  induction h with
  | nil => exact .nil
  | snoc _ hs ih =>
      refine ih.snoc ⟨?_, hs.2⟩
      by_contra hc
      exact hbad _ _ _ (hinv ih) hc hs.2 hs.1

/-- **A condition whose violations show at the end.** If a step that misses a condition leaves something
    behind that no step takes away, then a run at whose end there is nothing of it has met the
    condition in all of its steps. -/
theorem Run.meets {cond : σ → α → Prop} (I D : σ → Prop) (h0 : I s₀)
    (hgood : ∀ s a s', I s → cond s a → step s a s' → I s')
    (hbad : ∀ s a s', I s → ¬ cond s a → step s a s' → D s')
    (hkeep : ∀ s a s', D s → step s a s' → D s') {tr : List α} {s : σ} (h : Run step s₀ tr s)
    (hs : ¬ D s) : Run (stepWhen cond step) s₀ tr s := by
  have hinv : ∀ {tr s}, Run (stepWhen cond step) s₀ tr s → I s := fun hrun =>
    hrun.stateInvariant I h0 fun s a s' hI hs => hgood s a s' hI hs.1 hs.2
  suffices hor : Run (stepWhen cond step) s₀ tr s ∨ D s from hor.resolve_right hs
  clear hs
  induction h with
  | nil => exact .inl .nil
  | @snoc tr s₁ s₂ a _ hs ih =>
      rcases ih with hrun | hD
      · by_cases hc : cond s₁ a
        · exact .inl (hrun.snoc ⟨hc, hs⟩)
        · exact .inr (hbad _ _ _ (hinv hrun) hc hs)
      · exact .inr (hkeep _ _ _ hD hs)

/-- **Forward simulation.** If every step of the concrete system is matched by an abstract step with
    the same label, every concrete run is matched by an abstract one with the same labels. -/
theorem Run.simulate {step' : τ → α → τ → Prop} {t₀ : τ} (R : σ → τ → Prop) (h0 : R s₀ t₀)
    (hstep : ∀ s t a s', R s t → step s a s' → ∃ t', step' t a t' ∧ R s' t')
    {tr : List α} {s : σ} (h : Run step s₀ tr s) : ∃ t, Run step' t₀ tr t ∧ R s t := by
  induction h with
  | nil => exact ⟨t₀, .nil, h0⟩
  | snoc _ hs ih =>
      obtain ⟨t, hrun, hR⟩ := ih
      obtain ⟨t', ht, hR'⟩ := hstep _ _ _ _ hR hs
      exact ⟨t', .snoc hrun ht, hR'⟩

theorem stepWith_intro {tick : τ → σ → α → τ} {s s' : σ} {a : α} (t : τ) (h : step s a s') :
    stepWith tick step (s, t) a (s', tick t s a) := ⟨h, rfl⟩

/-- Recording restricts nothing. -/
theorem run_stepWith_iff (tick : τ → σ → α → τ) (t₀ : τ) {tr : List α} {s : σ} :
    Run step s₀ tr s ↔ ∃ t, Run (stepWith tick step) (s₀, t₀) tr (s, t) := by
  constructor
  · intro h
    induction h with
    | nil => exact ⟨t₀, .nil⟩
    | snoc _ hs ih =>
        obtain ⟨t, hrun⟩ := ih
        exact ⟨_, hrun.snoc ⟨hs, rfl⟩⟩
  · intro ⟨t, h⟩
    obtain ⟨s', hrun, rfl⟩ := Run.simulate (fun (x : σ × τ) s => x.1 = s) rfl
      (fun x s a y hx hs => ⟨y.1, hx ▸ hs.1, rfl⟩) h
    exact hrun

/-! ## Evaluation -/

/-- The state a step function leads to along labels. -/
def evalRun (f : σ → α → Option σ) : σ → List α → Option σ
  | s, [] => some s
  | s, a :: tr => (f s a).bind fun s' => evalRun f s' tr

theorem Run.of_eval {f : σ → α → Option σ} (hf : ∀ s a s', f s a = some s' → step s a s')
    {s s' : σ} {tr : List α} (h : evalRun f s tr = some s') : Run step s tr s' := by
  induction tr generalizing s with
  | nil =>
      obtain rfl := Option.some.inj h
      exact .nil
  | cons a tr ih =>
      obtain ⟨s₁, hs₁, htr⟩ := Option.bind_eq_some_iff.1 h
      exact (Run.nil.snoc (hf s a s₁ hs₁)).append (ih htr)

/-- A step function that also records. -/
def evalWith (tick : τ → σ → α → τ) (f : σ → α → Option σ) (x : σ × τ) (a : α) : Option (σ × τ) :=
  (f x.1 a).map fun s => (s, tick x.2 x.1 a)

theorem stepWith_of_eval {tick : τ → σ → α → τ} {f : σ → α → Option σ}
    (hf : ∀ s a s', f s a = some s' → step s a s') (x : σ × τ) (a : α) (y : σ × τ)
    (h : evalWith tick f x a = some y) : stepWith tick step x a y := by
  obtain ⟨s, hs, rfl⟩ := Option.map_eq_some_iff.1 h
  exact ⟨hf x.1 a s hs, rfl⟩

theorem stepWhen_of_eval {cond : σ → α → Prop} [∀ s a, Decidable (cond s a)]
    {f : σ → α → Option σ} (hf : ∀ s a s', f s a = some s' → step s a s') (s : σ) (a : α) (s' : σ)
    (h : (if cond s a then f s a else none) = some s') : stepWhen cond step s a s' := by
  split at h
  · next hc => exact ⟨hc, hf s a s' h⟩
  · exact nomatch h

/-- A run that ends in a state with a property that can be tested. -/
theorem Run.exists_of_eval {f : σ → α → Option σ} {s : σ} {tr : List α} {p : σ → Prop}
    [DecidablePred p] (hf : ∀ s a s', f s a = some s' → step s a s')
    (h : (evalRun f s tr).any fun s' => decide (p s')) : ∃ s', Run step s tr s' ∧ p s' := by
  cases hs : evalRun f s tr with
  | none => simp [hs] at h
  | some s' =>
      rw [hs, Option.any_some, decide_eq_true_iff] at h
      exact ⟨s', .of_eval hf hs, h⟩

/-! ## Updates in two steps

A call reads a store, computes a new value from what it has read and writes it back; reading and writing
are atomic, the call is not. A run is *serialisable* when the calls that have written, one after the
other in some order, would have left the value that is in the store. It is when every call finds, at its
write, the value that it has read. -/

variable {σ ι : Type*}

/-- The two steps of a call. -/
inductive UpdateEvent (ι : Type*) where
  | read (i : ι)
  | write (i : ι)
  deriving DecidableEq

/-- The store, and what the calls between their steps have read. -/
structure UpdateState (σ ι : Type*) where
  store : σ
  held : ι → Option σ

/-- Before any call has read. -/
def UpdateState.init (v : σ) : UpdateState σ ι := ⟨v, fun _ => none⟩

variable [DecidableEq ι]

/-- Call `i` makes `f i v` of a value `v`, or does not come to its write. -/
def updateStep (f : ι → σ → Option σ) (s : UpdateState σ ι) (e : UpdateEvent ι)
    (s' : UpdateState σ ι) : Prop :=
  match e with
  | .read i => s.held i = none ∧ s' = { s with held := Function.update s.held i (some s.store) }
  | .write i => ∃ v w, s.held i = some v ∧ f i v = some w ∧ s' = ⟨w, Function.update s.held i none⟩

/-- The calls that have written, in the order of their writes. -/
def writers (tr : List (UpdateEvent ι)) : List ι :=
  tr.filterMap fun | .read _ => none | .write i => some i

omit [DecidableEq ι] in
@[simp]
theorem writers_snoc_read (tr : List (UpdateEvent ι)) (i : ι) :
    writers (tr ++ [.read i]) = writers tr := by
  simp [writers]

omit [DecidableEq ι] in
@[simp]
theorem writers_snoc_write (tr : List (UpdateEvent ι)) (i : ι) :
    writers (tr ++ [.write i]) = writers tr ++ [i] := by
  simp [writers]

/-- Some order of the calls that have written leaves the value `v`. -/
def Serialisable (f : ι → σ → Option σ) (v₀ : σ) (tr : List (UpdateEvent ι)) (v : σ) : Prop :=
  ∃ order, order.Perm (writers tr) ∧ evalRun (fun v i => f i v) v₀ order = some v

/-- A call that writes has read what is in the store. -/
def UpToDate (s : UpdateState σ ι) : UpdateEvent ι → Prop
  | .read _ => True
  | .write i => s.held i = some s.store

omit [DecidableEq ι] in
theorem evalRun_snoc {f : σ → ι → Option σ} {s : σ} {l : List ι} {i : ι} :
    evalRun f s (l ++ [i]) = (evalRun f s l).bind fun s' => f s' i := by
  induction l generalizing s with
  | nil => exact Option.bind_fun_some (f s i)
  | cons j l ih =>
      rw [List.cons_append, evalRun, evalRun, Option.bind_assoc]
      exact Option.bind_congr fun s' _ => ih

/-- **Calls that find what they have read at their writes are serialisable**, in the order of their
    writes. -/
theorem evalRun_writers {f : ι → σ → Option σ} {v₀ : σ} {tr : List (UpdateEvent ι)}
    {s : UpdateState σ ι} (h : Run (stepWhen UpToDate (updateStep f)) (.init v₀) tr s) :
    evalRun (fun v i => f i v) v₀ (writers tr) = some s.store := by
  induction h with
  | nil => rfl
  | @snoc tr s s' e _ hs ih =>
      obtain ⟨hfresh, hstep⟩ := hs
      cases e with
      | read i =>
          obtain ⟨-, rfl⟩ := hstep
          rw [writers_snoc_read]
          exact ih
      | write i =>
          obtain ⟨v, w, hv, hw, rfl⟩ := hstep
          obtain rfl := Option.some.inj (hv.symm.trans hfresh)
          rw [writers_snoc_write, evalRun_snoc, ih]
          exact hw

theorem Serialisable.of_upToDate {f : ι → σ → Option σ} {v₀ : σ} {tr : List (UpdateEvent ι)}
    {s : UpdateState σ ι} (h : Run (stepWhen UpToDate (updateStep f)) (.init v₀) tr s) :
    Serialisable f v₀ tr s.store :=
  ⟨writers tr, .rfl, evalRun_writers h⟩

/-- A call that nothing comes between. -/
theorem run_alone {f : ι → σ → Option σ} {s : UpdateState σ ι} {i : ι} {w : σ}
    (hheld : s.held i = none) (hw : f i s.store = some w) :
    Run (stepWhen UpToDate (updateStep f)) s [.read i, .write i] ⟨w, s.held⟩ := by
  have hread : Run (stepWhen UpToDate (updateStep f)) s [.read i]
      { s with held := Function.update s.held i (some s.store) } :=
    (Run.nil : Run _ s [] s).snoc ⟨trivial, hheld, rfl⟩
  have hself : Function.update s.held i (some s.store) i = some s.store := Function.update_self ..
  refine hread.snoc ⟨hself, s.store, w, hself, hw, ?_⟩
  rw [Function.update_idem, Function.update_eq_self_iff.2 hheld.symm]

end SmartPlat.Lib
