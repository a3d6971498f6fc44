import Mathlib.Data.List.Perm.Basic
import Mathlib.Order.Bounds.Basic
import Mathlib.Order.MinMax

/-!
Writes that are scattered over a table: each item is combined into the cell that it
goes to. With an operation that does not care for the order of its items, neither
does the table.
-/

set_option autoImplicit false

namespace Scatter

variable {α β ι : Type}

def scatter (op : β → α → β) (table : List β) (writes : List (Nat × α)) : List β :=
  writes.foldl (fun t w => t.modify w.1 (op · w.2)) table

/-- What goes to the cell. -/
def hits (cell : Nat) (writes : List (Nat × α)) : List α :=
  (writes.filter fun w => w.1 = cell).map Prod.snd

variable {op : β → α → β} {table : List β} {writes writes' : List (Nat × α)} {cell : Nat}

theorem mem_hits {a : α} : a ∈ hits cell writes ↔ (cell, a) ∈ writes := by
  simp [hits]

@[simp] theorem length_scatter : (scatter op table writes).length = table.length := by
  induction writes generalizing table with
  | nil => rfl
  | cons w writes ih => exact ih.trans (List.length_modify ..)

/-- A cell ends with what was there, combined with what goes to it. -/
theorem getElem?_scatter :
    (scatter op table writes)[cell]? = table[cell]?.map fun b => (hits cell writes).foldl op b := by
  induction writes generalizing table with
  | nil => simp [scatter, hits]
  | cons w writes ih =>
    have hstep : scatter op table (w :: writes) =
        scatter op (table.modify w.1 (op · w.2)) writes := rfl
    rw [hstep, ih, List.getElem?_modify]
    by_cases hcell : w.1 = cell
    · simp [hits, hcell, Function.comp_def]
    · simp [hits, hcell]

theorem scatter_perm (hop : ∀ b a a', op (op b a) a' = op (op b a') a)
    (h : writes.Perm writes') : scatter op table writes = scatter op table writes' := by
  refine List.ext_getElem? fun cell => ?_
  have hhits : (hits cell writes).Perm (hits cell writes') := (h.filter _).map Prod.snd
  rw [getElem?_scatter, getElem?_scatter]
  congr 1
  funext b
  exact hhits.foldl_eq' (fun a _ a' _ b => hop b a a') b

/-! ### Cells that keep the largest item -/

section

variable [LinearOrder β] {bs : List β} {b c : β}

theorem le_foldl_max : b ≤ bs.foldl max b := by
  induction bs generalizing b with
  | nil => exact le_refl b
  | cons a bs ih => exact (le_max_left b a).trans ih

theorem foldl_max_mem (b : β) (bs : List β) : bs.foldl max b = b ∨ bs.foldl max b ∈ bs := by
  induction bs generalizing b with
  | nil => exact Or.inl rfl
  | cons a bs ih =>
    rcases ih (max b a) with h | h
    · rcases max_choice b a with hb | ha
      · exact Or.inl (h.trans hb)
      · exact Or.inr (List.mem_cons.mpr (Or.inl (h.trans ha)))
    · exact Or.inr (List.mem_cons_of_mem a h)

theorem mem_le_foldl_max (hc : c ∈ bs) : c ≤ bs.foldl max b := by
  induction bs generalizing b with
  | nil => cases hc
  | cons a bs ih =>
    rcases List.mem_cons.mp hc with rfl | hc
    · exact (le_max_right b c).trans le_foldl_max
    · exact ih hc

theorem foldl_max_isGreatest (hbelow : ∀ a ∈ bs, b < a) (hne : bs ≠ []) :
    IsGreatest {a | a ∈ bs} (bs.foldl max b) := by
  refine ⟨?_, fun a ha => mem_le_foldl_max ha⟩
  rcases foldl_max_mem b bs with heq | hmem
  · obtain ⟨a, ha⟩ := List.exists_mem_of_ne_nil bs hne
    have hlt : b < bs.foldl max b := (hbelow a ha).trans_le (mem_le_foldl_max ha)
    exact absurd heq hlt.ne'
  · exact hmem

end

/-! ### Loops that can fail -/

section

variable {ε σ : Type}

/-- A loop whose steps fail by their item alone either fails or does all of them. -/
theorem foldlM_except {f : σ → ι → Except ε σ} {read : ι → Option α} {error : ε}
    {write : σ → ι → α → σ} (hnone : ∀ s i, read i = none → f s i = .error error)
    (hsome : ∀ s i a, read i = some a → f s i = .ok (write s i a)) {items : List ι} {s : σ} :
    items.foldlM f s =
      if ∀ i ∈ items, (read i).isSome = true then
        .ok ((items.filterMap fun i => (read i).map (Prod.mk i)).foldl
          (fun s p => write s p.1 p.2) s)
      else .error error := by
  induction items generalizing s with
  | nil => simp [pure, Except.pure]
  | cons i items ih =>
    rw [List.foldlM_cons]
    cases hread : read i with
    | none =>
      rw [hnone s i hread]
      simp [hread, bind, Except.bind]
    | some a =>
      rw [hsome s i a hread]
      simp [hread, bind, Except.bind, ih]

/-- A loop each of whose steps writes to one cell, or to none, as long as the table
has a property that the writes keep. -/
theorem foldlM_scatter {P : List β → Prop} {f : List β → ι → Except ε (List β)}
    {write : ι → Option (Nat × α)} {items : List ι} (htable : P table)
    (hstep : ∀ t, P t → ∀ i ∈ items,
      f t i = .ok (scatter op t (write i).toList) ∧ P (scatter op t (write i).toList)) :
    items.foldlM f table = .ok (scatter op table (items.filterMap write)) := by
  induction items generalizing table with
  | nil => rfl
  | cons i items ih =>
    obtain ⟨hok, hnext⟩ := hstep table htable i (by simp)
    rw [List.foldlM_cons, hok, List.filterMap_cons]
    refine (ih hnext fun t ht j hj => hstep t ht j (by simp [hj])).trans ?_
    cases write i with
    | none => rfl
    | some w => rfl

theorem foldlM_flatMap {m : Type → Type} [Monad m] [LawfulMonad m] {f : σ → β → m σ}
    {g : ι → List β} {items : List ι} {s : σ} :
    (items.flatMap g).foldlM f s = items.foldlM (fun s i => (g i).foldlM f s) s := by
  induction items generalizing s with
  | nil => rfl
  | cons i items ih =>
    rw [List.flatMap_cons, List.foldlM_append, List.foldlM_cons]
    congr 1
    funext t
    exact ih

end

end Scatter
