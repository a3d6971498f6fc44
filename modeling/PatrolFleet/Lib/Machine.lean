import Mathlib.Data.List.Infix
import Mathlib.Data.Option.Basic
import Mathlib.Order.Basic

/-!
Machines that take one event at a time. An event that cannot happen in a state
has no successor, so a list of events is a run as far as it can be executed.
-/

set_option autoImplicit false

structure Machine (σ ε : Type) where
  init : σ
  step : σ → ε → Option σ

namespace Machine

variable {σ ε : Type} (m : Machine σ ε)

def runFrom : σ → List ε → Option σ
  | s, [] => some s
  | s, e :: es => (m.step s e).bind fun t => runFrom t es

def run (es : List ε) : Option σ := m.runFrom m.init es

def Reachable (s : σ) : Prop := ∃ es, m.run es = some s

/-- The state `s` is passed through while `es` is executed. -/
def Visits (es : List ε) (s : σ) : Prop :=
  ∃ before, before <+: es ∧ m.run before = some s

/-- While `es` is executed, the machine goes from `s` to `t` on the event `e`. -/
def Takes (es : List ε) (s : σ) (e : ε) (t : σ) : Prop :=
  ∃ before, before ++ [e] <+: es ∧ m.run before = some s ∧ m.step s e = some t

@[simp] theorem runFrom_nil (s : σ) : m.runFrom s [] = some s := rfl

@[simp] theorem runFrom_cons (s : σ) (e : ε) (es : List ε) :
    m.runFrom s (e :: es) = (m.step s e).bind fun t => m.runFrom t es := rfl

theorem runFrom_append (s : σ) (es fs : List ε) :
    m.runFrom s (es ++ fs) = (m.runFrom s es).bind fun t => m.runFrom t fs := by
  induction es generalizing s with
  | nil => rfl
  | cons e es ih =>
    simp only [List.cons_append, runFrom_cons, Option.bind_assoc]
    congr 1
    funext t
    exact ih t

theorem run_append {es fs : List ε} {s t : σ} (hs : m.run es = some s)
    (ht : m.runFrom s fs = some t) : m.run (es ++ fs) = some t := by
  unfold run at hs ⊢
  rw [runFrom_append, hs, Option.bind_some, ht]

theorem run_concat {es : List ε} {e : ε} {s t : σ} (hs : m.run es = some s)
    (ht : m.step s e = some t) : m.run (es ++ [e]) = some t :=
  m.run_append hs (by simp [ht])

theorem run_concat_inv {es : List ε} {e : ε} {t : σ} (h : m.run (es ++ [e]) = some t) :
    ∃ s, m.run es = some s ∧ m.step s e = some t := by
  unfold run at h ⊢
  rw [runFrom_append] at h
  obtain ⟨s, hs, ht⟩ := Option.bind_eq_some_iff.mp h
  refine ⟨s, hs, ?_⟩
  simpa using ht

theorem Reachable.init : m.Reachable m.init := ⟨[], rfl⟩

theorem reachable_get {es : List ε} (h : (m.run es).isSome = true) :
    m.Reachable ((m.run es).get h) := ⟨es, (Option.some_get h).symm⟩

variable {m}

theorem Reachable.step {s t : σ} {e : ε} (hs : m.Reachable s) (h : m.step s e = some t) :
    m.Reachable t := by
  obtain ⟨es, hes⟩ := hs
  exact ⟨es ++ [e], m.run_concat hes h⟩

/-- What holds at the start and is kept by every step taken from a state that
has it holds along the continuation `es` of any such state. -/
theorem runFrom_invariant {P : σ → Prop} (hstep : ∀ s e t, P s → m.step s e = some t → P t)
    {s t : σ} {es : List ε} (hs : P s) (h : m.runFrom s es = some t) : P t := by
  induction es generalizing s with
  | nil =>
    cases h
    exact hs
  | cons e es ih =>
    obtain ⟨u, hu, ht⟩ := Option.bind_eq_some_iff.mp h
    exact ih (hstep s e u hs hu) ht

theorem Reachable.invariant {P : σ → Prop} (hinit : P m.init)
    (hstep : ∀ s e t, P s → m.step s e = some t → P t) {s : σ} (h : m.Reachable s) : P s := by
  obtain ⟨es, hes⟩ := h
  exact runFrom_invariant hstep hinit hes

theorem Reachable.induction {P : σ → Prop} (hinit : P m.init)
    (hstep : ∀ s e t, m.Reachable s → P s → m.step s e = some t → P t) {s : σ}
    (h : m.Reachable s) : P s := by
  have hboth : m.Reachable s ∧ P s :=
    h.invariant (P := fun s => m.Reachable s ∧ P s) ⟨Reachable.init m, hinit⟩
      fun s e t hs ht => ⟨hs.1.step ht, hstep s e t hs.1 hs.2 ht⟩
  exact hboth.2

theorem Reachable.kept {P : σ → Prop}
    (hstep : ∀ s e t, m.Reachable s → P s → m.step s e = some t → P t) {s t : σ} {es : List ε}
    (hs : m.Reachable s) (hP : P s) (h : m.runFrom s es = some t) : P t := by
  have hboth : m.Reachable t ∧ P t :=
    runFrom_invariant (P := fun s => m.Reachable s ∧ P s)
      (fun s e t hs ht => ⟨hs.1.step ht, hstep s e t hs.1 hs.2 ht⟩) ⟨hs, hP⟩ h
  exact hboth.2

theorem Visits.reachable {es : List ε} {s : σ} (h : m.Visits es s) : m.Reachable s := by
  obtain ⟨before, _, hb⟩ := h
  exact ⟨before, hb⟩

theorem Takes.visits {es : List ε} {s t : σ} {e : ε} (h : m.Takes es s e t) :
    m.Visits es s := by
  obtain ⟨before, hp, hs, _⟩ := h
  exact ⟨before, (List.prefix_append before [e]).trans hp, hs⟩

theorem Takes.visits_next {es : List ε} {s t : σ} {e : ε} (h : m.Takes es s e t) :
    m.Visits es t := by
  obtain ⟨before, hp, hs, ht⟩ := h
  exact ⟨before ++ [e], hp, m.run_concat hs ht⟩

theorem Takes.step_eq {es : List ε} {s t : σ} {e : ε} (h : m.Takes es s e t) :
    m.step s e = some t := by
  obtain ⟨_, _, _, ht⟩ := h
  exact ht

theorem Visits.between {es : List ε} {s t : σ} (hs : m.Visits es s) (ht : m.Visits es t) :
    (∃ mid, m.runFrom s mid = some t) ∨ ∃ mid, m.runFrom t mid = some s := by
  obtain ⟨before, hp, hb⟩ := hs
  obtain ⟨before', hp', hb'⟩ := ht
  rcases List.prefix_or_prefix_of_prefix hp hp' with ⟨mid, heq⟩ | ⟨mid, heq⟩
  · refine Or.inl ⟨mid, ?_⟩
    rwa [← heq, run, runFrom_append, ← run, hb] at hb'
  · refine Or.inr ⟨mid, ?_⟩
    rwa [← heq, run, runFrom_append, ← run, hb'] at hb

/-- The run rule with a condition on the steps: if every step of the run that
meets `C` keeps `P`, and all steps of the run meet `C`, then `P` holds in every
state of the run. -/
theorem visits_invariant {P : σ → Prop} {C : σ → ε → σ → Prop} (hinit : P m.init)
    (hstep : ∀ s e t, P s → C s e t → m.step s e = some t → P t) {es : List ε}
    (hC : ∀ s e t, m.Takes es s e t → C s e t) {s : σ} (h : m.Visits es s) : P s := by
  obtain ⟨before, hp, hs⟩ := h
  induction before using List.reverseRecOn generalizing s with
  | nil =>
    cases hs
    exact hinit
  | append_singleton before e ih =>
    obtain ⟨u, hu, ht⟩ := m.run_concat_inv hs
    have hpre : before <+: es := (List.prefix_append before [e]).trans hp
    exact hstep u e s (ih hpre hu) (hC u e s ⟨before, hp, hu, ht⟩) ht

theorem brought_about {P : σ → Prop} (hinit : ¬ P m.init) {es : List ε} {t : σ}
    (h : m.run es = some t) (hP : P t) : ∃ s e s', m.Takes es s e s' ∧ ¬ P s ∧ P s' := by
  induction es using List.reverseRecOn generalizing t with
  | nil =>
    cases h
    exact absurd hP hinit
  | append_singleton es e ih =>
    obtain ⟨u, hu, hstep⟩ := m.run_concat_inv h
    by_cases hbefore : P u
    · obtain ⟨s, e', s', ⟨before, hp, hs, hs'⟩, hchange⟩ := ih hu hbefore
      exact ⟨s, e', s', ⟨before, hp.trans (List.prefix_append es [e]), hs, hs'⟩, hchange⟩
    · exact ⟨u, e, t, ⟨es, List.prefix_rfl, hu, hstep⟩, hbefore, hP⟩

/-- What only the steps with `R` can end holds throughout, or up to one of them. -/
theorem kept_or_ended {P : σ → Prop} {R : σ → ε → Prop}
    (hstep : ∀ s e t, P s → ¬ R s e → m.step s e = some t → P t) {s t : σ} {es : List ε}
    (hs : P s) (h : m.runFrom s es = some t) :
    (∀ past x, past <+: es → m.runFrom s past = some x → P x) ∨
    ∃ before e after u, es = before ++ e :: after ∧ m.runFrom s before = some u ∧ R u e ∧
      ∀ past x, past <+: before → m.runFrom s past = some x → P x := by
  have hnil : ∀ {s}, P s → ∀ past x, past <+: [] → m.runFrom s past = some x → P x := by
    intro s hs past x hpast hx
    rw [List.prefix_nil.mp hpast] at hx
    cases hx
    exact hs
  induction es generalizing s with
  | nil => exact .inl (hnil hs)
  | cons e es ih =>
    obtain ⟨u, hu, hrest⟩ := Option.bind_eq_some_iff.mp h
    by_cases hends : R s e
    · exact .inr ⟨[], e, es, s, rfl, rfl, hends, hnil hs⟩
    · have hcons : ∀ es : List ε, (∀ past x, past <+: es → m.runFrom u past = some x → P x) →
          ∀ past x, past <+: e :: es → m.runFrom s past = some x → P x := by
        intro es hall past x hpast hx
        rcases List.prefix_cons_iff.mp hpast with rfl | ⟨past', rfl, hpast'⟩
        · exact hnil hs [] x List.prefix_rfl hx
        · rw [runFrom_cons, hu] at hx
          exact hall past' x hpast' hx
      rcases ih (hstep s e u hs hends hu) hrest with
        hall | ⟨before, e', after, x, rfl, hx, hends', hall⟩
      · exact .inl (hcons es hall)
      · exact .inr ⟨e :: before, e', after, x, rfl, by rw [runFrom_cons, hu]; exact hx, hends',
          hcons before hall⟩

/-- Every step of the run of `es` from `s` meets `c`, by evaluation. -/
def eachStep (m : Machine σ ε) (c : σ → ε → Bool) : σ → List ε → Bool
  | _, [] => true
  | s, e :: es =>
    match m.step s e with
    | none => true
    | some t => c s e && eachStep m c t es

theorem eachStep_from {c : σ → ε → Bool} {s u v : σ} {before after : List ε} {e : ε}
    (h : m.eachStep c s (before ++ e :: after) = true) (hu : m.runFrom s before = some u)
    (hv : m.step u e = some v) : c u e = true := by
  induction before generalizing s with
  | nil =>
    cases hu
    rw [List.nil_append, eachStep, hv, Bool.and_eq_true] at h
    exact h.1
  | cons d before ih =>
    obtain ⟨t, ht, hu⟩ := Option.bind_eq_some_iff.mp hu
    rw [List.cons_append, eachStep, ht, Bool.and_eq_true] at h
    exact ih h.2 hu

theorem takes_of_eachStep {c : σ → ε → Bool} {es : List ε}
    (h : m.eachStep c m.init es = true) {s t : σ} {e : ε} (htake : m.Takes es s e t) :
    c s e = true := by
  obtain ⟨before, ⟨after, hes⟩, hs, ht⟩ := htake
  rw [List.append_assoc, List.singleton_append] at hes
  subst hes
  exact eachStep_from h hs ht

/-- What `out` reports of the steps of the run of `es` from `s`, in their order. -/
def outputs {β : Type} (m : Machine σ ε) (out : σ → ε → Option β) : σ → List ε → List β
  | _, [] => []
  | s, e :: es =>
    match m.step s e with
    | none => []
    | some t => (out s e).toList ++ outputs m out t es

theorem outputs_concat {β : Type} {out : σ → ε → Option β} {s u v : σ} {es : List ε} {e : ε}
    (hu : m.runFrom s es = some u) (hv : m.step u e = some v) :
    m.outputs out s (es ++ [e]) = m.outputs out s es ++ (out u e).toList := by
  induction es generalizing s with
  | nil =>
    cases hu
    simp [outputs, hv]
  | cons d es ih =>
    obtain ⟨t, ht, hu⟩ := Option.bind_eq_some_iff.mp hu
    simp only [List.cons_append, outputs, ht, ih hu, List.append_assoc]

/-- If the state remembers the last output, and each output stands in `R` to the one that
is remembered, then so do the outputs of a run from one to the next. -/
theorem outputs_isChain {β : Type} {out : σ → ε → Option β} {R : β → β → Prop} (last : σ → β)
    (hkeep : ∀ s e t, m.step s e = some t → out s e = none → last t = last s)
    (hout : ∀ s e t b, m.step s e = some t → out s e = some b → R (last s) b ∧ last t = b)
    (s : σ) (es : List ε) : (last s :: m.outputs out s es).IsChain R := by
  induction es generalizing s with
  | nil => exact .singleton _
  | cons e es ih =>
    cases ht : m.step s e with
    | none => simp [outputs, ht]
    | some t =>
      have hrest := ih t
      cases hb : out s e with
      | none =>
        rw [hkeep s e t ht hb] at hrest
        simpa [outputs, ht, hb] using hrest
      | some b =>
        obtain ⟨hR, hlast⟩ := hout s e t b ht hb
        rw [hlast] at hrest
        simpa [outputs, ht, hb] using ⟨hR, hrest⟩

/-- A projection under which every step of `n` is a step of `m` or changes
nothing of what `m` sees. -/
structure Projection {σ' ε' : Type} (n : Machine σ' ε') (m : Machine σ ε) (f : σ' → σ) :
    Prop where
  init : f n.init = m.init
  step : ∀ s e t, n.step s e = some t → f t = f s ∨ ∃ d, m.step (f s) d = some (f t)

theorem Projection.reachable {σ' ε' : Type} {n : Machine σ' ε'} {f : σ' → σ}
    (h : Projection n m f) {s : σ'} (hs : n.Reachable s) : m.Reachable (f s) := by
  refine Reachable.invariant (P := fun s => m.Reachable (f s)) ?_ ?_ hs
  · rw [h.init]
    exact Reachable.init m
  · intro s e t hr ht
    rcases h.step s e t ht with heq | ⟨d, hd⟩
    · rw [heq]
      exact hr
    · exact hr.step hd

theorem Projection.comp {σ' ε' σ'' ε'' : Type} {n : Machine σ' ε'} {l : Machine σ'' ε''}
    {f : σ' → σ} {g : σ'' → σ'} (h : Projection n m f) (k : Projection l n g) :
    Projection l m fun s => f (g s) where
  init := by rw [k.init, h.init]
  step s e t ht := by
    rcases k.step s e t ht with heq | ⟨d, hd⟩
    · exact .inl (congrArg f heq)
    · exact h.step _ d _ hd

/-- A map of the states under which both machines take the same steps. -/
structure Lockstep {σ' : Type} (n : Machine σ' ε) (m : Machine σ ε) (f : σ' → σ) : Prop where
  init : f n.init = m.init
  step : ∀ s e, m.step (f s) e = (n.step s e).map f

section

variable {σ' : Type} {n : Machine σ' ε} {f : σ' → σ} {es : List ε} {t u : σ} {e : ε}

theorem Lockstep.runFrom (h : Lockstep n m f) (s : σ') (es : List ε) :
    m.runFrom (f s) es = (n.runFrom s es).map f := by
  induction es generalizing s with
  | nil => rfl
  | cons e es ih =>
    rw [runFrom_cons, runFrom_cons, h.step]
    cases n.step s e with
    | none => rfl
    | some t => exact ih t

theorem Lockstep.run (h : Lockstep n m f) (es : List ε) : m.run es = (n.run es).map f := by
  rw [Machine.run, ← h.init]
  exact h.runFrom n.init es

theorem Lockstep.run_eq (h : Lockstep n m f) (ht : m.run es = some t) :
    ∃ s, n.run es = some s ∧ f s = t := by
  rw [h.run es] at ht
  exact Option.map_eq_some_iff.mp ht

theorem Lockstep.reachable (h : Lockstep n m f) (ht : m.Reachable t) :
    ∃ s, n.Reachable s ∧ f s = t := by
  obtain ⟨es, hes⟩ := ht
  obtain ⟨s, hs, heq⟩ := h.run_eq hes
  exact ⟨s, ⟨es, hs⟩, heq⟩

theorem Lockstep.visits_iff (h : Lockstep n m f) :
    m.Visits es t ↔ ∃ s, n.Visits es s ∧ f s = t := by
  constructor
  · rintro ⟨before, hp, ht⟩
    obtain ⟨s, hs, heq⟩ := h.run_eq ht
    exact ⟨s, ⟨before, hp, hs⟩, heq⟩
  · rintro ⟨s, ⟨before, hp, hs⟩, rfl⟩
    exact ⟨before, hp, by rw [h.run before, hs]; rfl⟩

theorem Lockstep.takes_iff (h : Lockstep n m f) :
    m.Takes es t e u ↔ ∃ s s', n.Takes es s e s' ∧ f s = t ∧ f s' = u := by
  constructor
  · rintro ⟨before, hp, ht, hu⟩
    obtain ⟨s, hs, rfl⟩ := h.run_eq ht
    rw [h.step] at hu
    obtain ⟨s', hs', rfl⟩ := Option.map_eq_some_iff.mp hu
    exact ⟨s, s', ⟨before, hp, hs, hs'⟩, rfl, rfl⟩
  · rintro ⟨s, s', ⟨before, hp, hs, hs'⟩, rfl, rfl⟩
    exact ⟨before, hp, by rw [h.run before, hs]; rfl, by rw [h.step, hs']; rfl⟩

end

end Machine
