import Mathlib.Data.List.Destutter
import PatrolFleet.Lib.Machine

/-!
A publisher that holds back what repeats its newest message: its messages are what it
was given, without the repetitions.
-/

set_option autoImplicit false

namespace Changes

variable {β : Type} [DecidableEq β]

/-- The messages, newest first, after `b` unless `b` repeats the newest one. -/
def note (b : β) (messages : List β) : List β :=
  if messages.head? = some b then messages else b :: messages

@[simp] theorem head?_note (b : β) (messages : List β) : (note b messages).head? = some b := by
  unfold note
  split
  · assumption
  · rfl

theorem suffix_note (b : β) (messages : List β) : messages <:+ note b messages := by
  unfold note
  split
  · exact List.suffix_rfl
  · exact List.suffix_cons b messages

theorem destutter'_concat (a b : β) (given : List β) :
    (given ++ [b]).destutter' (· ≠ ·) a =
      if (given.destutter' (· ≠ ·) a).getLast? = some b then given.destutter' (· ≠ ·) a
      else given.destutter' (· ≠ ·) a ++ [b] := by
  induction given generalizing a with
  | nil => by_cases h : a = b <;> simp [h]
  | cons c given ih =>
    by_cases h : a = c
    · subst h
      simpa using ih a
    · have hlast : (a :: given.destutter' (· ≠ ·) c).getLast? =
          (given.destutter' (· ≠ ·) c).getLast? :=
        List.getLast?_cons_of_ne_nil (List.destutter'_ne_nil given (· ≠ ·))
      simp only [List.cons_append, List.destutter'_cons, ne_eq, h, not_false_eq_true, if_true]
      rw [ih c, hlast]
      split <;> rfl

theorem reverse_note (a b : β) (given : List β) :
    note b (given.destutter' (· ≠ ·) a).reverse =
      ((given ++ [b]).destutter' (· ≠ ·) a).reverse := by
  rw [destutter'_concat, note, List.head?_reverse]
  split <;> simp

/-- The messages of a run are the first one and what is reported of the steps. -/
theorem run_destutter {σ ε : Type} {m : Machine σ ε} {out : σ → ε → Option β}
    (messages : σ → List β) {a : β} (hinit : messages m.init = [a])
    (hstep : ∀ s e t, m.Reachable s → m.step s e = some t →
      messages t = (out s e).elim (messages s) fun b => note b (messages s))
    {es : List ε} {t : σ} (h : m.run es = some t) :
    messages t = ((a :: m.outputs out m.init es).destutter (· ≠ ·)).reverse := by
  induction es using List.reverseRecOn generalizing t with
  | nil =>
    cases h
    simpa [Machine.outputs] using hinit
  | append_singleton es e ih =>
    obtain ⟨u, hu, ht⟩ := m.run_concat_inv h
    have hgiven : m.outputs out m.init (es ++ [e]) =
        m.outputs out m.init es ++ (out u e).toList := Machine.outputs_concat hu ht
    rw [hstep u e t ⟨es, hu⟩ ht, hgiven, ih hu]
    cases out u e with
    | none => simp
    | some b => exact reverse_note a b _

end Changes
