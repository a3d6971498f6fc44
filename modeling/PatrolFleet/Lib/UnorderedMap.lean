import Mathlib.Data.List.AList

/-!
Hash maps as association lists without a repeated key. The order of the entries
is not part of the value: whoever iterates is given the order of the visit.
-/

set_option autoImplicit false

abbrev UnorderedMap (κ α : Type) := AList fun _ : κ => α

namespace UnorderedMap

variable {κ α β : Type}

/-- The orders in which an iteration may visit the entries. -/
def VisitOrder (m : UnorderedMap κ α) (visit : List (Sigma fun _ : κ => α)) : Prop :=
  visit.Perm m.entries

instance [DecidableEq κ] [DecidableEq α] (m : UnorderedMap κ α)
    (visit : List (Sigma fun _ : κ => α)) : Decidable (m.VisitOrder visit) :=
  inferInstanceAs (Decidable (visit.Perm m.entries))

/-- Rewrite each value in place, or erase its entry. -/
def filterMapVal (f : κ → α → Option β) (m : UnorderedMap κ α) : UnorderedMap κ β where
  entries := m.entries.filterMap fun e => (f e.1 e.2).map (Sigma.mk e.1)
  nodupKeys := by
    have hsub : ∀ l : List (Sigma fun _ : κ => α),
        (l.filterMap fun e => (f e.1 e.2).map (Sigma.mk (β := fun _ => β) e.1)).keys.Sublist
          l.keys := by
      intro l
      induction l with
      | nil => exact List.Sublist.slnil
      | cons e l ih =>
        cases hf : f e.1 e.2 with
        | none => simpa [hf] using ih.cons e.1
        | some b => simpa [hf] using ih
    exact (hsub m.entries).nodup m.nodupKeys

theorem mem_filterMapVal {f : κ → α → Option β} {m : UnorderedMap κ α}
    {e : Sigma fun _ : κ => β} :
    e ∈ (m.filterMapVal f).entries ↔ ∃ a, ⟨e.1, a⟩ ∈ m.entries ∧ f e.1 a = some e.2 := by
  simp only [filterMapVal, List.mem_filterMap, Option.map_eq_some_iff]
  constructor
  · rintro ⟨⟨k, a⟩, hm, b, hb, rfl⟩
    exact ⟨a, hm, hb⟩
  · rintro ⟨a, hm, hb⟩
    exact ⟨⟨e.1, a⟩, hm, e.2, hb, rfl⟩

variable [DecidableEq κ]

theorem lookup_eq_some_iff {m : UnorderedMap κ α} {k : κ} {a : α} :
    m.lookup k = some a ↔ ⟨k, a⟩ ∈ m.entries := by
  rw [← Option.mem_def, AList.mem_lookup_iff]

theorem lookup_filterMapVal {f : κ → α → Option β} {m : UnorderedMap κ α} {k : κ} :
    (m.filterMapVal f).lookup k = (m.lookup k).bind (f k) := by
  ext b
  rw [lookup_eq_some_iff, mem_filterMapVal, Option.bind_eq_some_iff]
  simp only [lookup_eq_some_iff]

theorem perm_kerase {m : UnorderedMap κ α} {k : κ} {a : α} (h : m.lookup k = some a) :
    (⟨k, a⟩ :: m.entries.kerase k).Perm m.entries := by
  have hmem := lookup_eq_some_iff.mp h
  obtain ⟨b, front, back, _, hsplit, hrest⟩ :=
    List.exists_of_kerase (List.mem_keys_of_mem hmem)
  have hb : m.lookup k = some b := by
    rw [lookup_eq_some_iff, hsplit]
    simp
  have hab : a = b := by simpa [h] using hb
  rw [hrest, hsplit, hab]
  exact List.perm_middle.symm

theorem kerase_of_lookup_none {m : UnorderedMap κ α} {k : κ} (h : m.lookup k = none) :
    m.entries.kerase k = m.entries :=
  List.kerase_of_notMem_keys (AList.lookup_eq_none.mp h)

theorem map_lookup_insert (f : α → β) (m : UnorderedMap κ α) (k : κ) (a : α) :
    (fun k' => ((m.insert k a).lookup k').map f) =
      Function.update (fun k' => (m.lookup k').map f) k (some (f a)) := by
  funext k'
  by_cases heq : k' = k
  · subst heq
    simp
  · rw [Function.update_of_ne heq, AList.lookup_insert_ne heq]

end UnorderedMap
