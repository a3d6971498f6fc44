import Mathlib.Data.List.Perm.Subperm
import Mathlib.Data.List.Nodup

/-!
A ledger of jobs that are retried under fresh names. A retry links the name of
the failed job to the name of its copy; a job and its retries form a lineage,
which is named by the job that was submitted. The ledger says which lineages
are still owed: those that were submitted and never closed.
-/

set_option autoImplicit false

structure Ledger (κ : Type) where
  links : List (κ × κ)
  submitted : List κ
  closed : List κ

namespace Ledger

variable {κ : Type} [DecidableEq κ]

/-- The submitted job that `name` is a retry of, along the recorded links. -/
def originAlong : List (κ × κ) → κ → κ
  | [], name => name
  | (parent, child) :: links, name =>
    if name = child then originAlong links parent else originAlong links name

def origin (l : Ledger κ) (name : κ) : κ := originAlong l.links name

def empty : Ledger κ := ⟨[], [], []⟩
def submit (l : Ledger κ) (name : κ) : Ledger κ := { l with submitted := name :: l.submitted }
def retry (l : Ledger κ) (parent child : κ) : Ledger κ :=
  { l with links := (parent, child) :: l.links }
def close (l : Ledger κ) (name : κ) : Ledger κ := { l with closed := name :: l.closed }

@[simp] theorem origin_submit (l : Ledger κ) (job name : κ) :
    (l.submit job).origin name = l.origin name := rfl

@[simp] theorem origin_close (l : Ledger κ) (job name : κ) :
    (l.close job).origin name = l.origin name := rfl

@[simp] theorem origin_retry_child (l : Ledger κ) (parent child : κ) :
    (l.retry parent child).origin child = l.origin parent := by
  simp [origin, retry, originAlong]

theorem origin_retry_ne (l : Ledger κ) (parent : κ) {child name : κ} (h : name ≠ child) :
    (l.retry parent child).origin name = l.origin name := by
  simp [origin, retry, originAlong, h]

theorem origin_retry_issued (l : Ledger κ) {issued : κ → Prop} (parent : κ) {child name : κ}
    (hf : ¬ issued child) (hn : issued name) :
    (l.retry parent child).origin name = l.origin name := by
  apply origin_retry_ne
  rintro rfl
  exact hf hn

/-- The lineage of `name` has been closed under one of its names. -/
def Closed (l : Ledger κ) (lineage : κ) : Prop := ∃ name ∈ l.closed, l.origin name = lineage

instance (l : Ledger κ) (lineage : κ) : Decidable (l.Closed lineage) :=
  inferInstanceAs (Decidable (∃ name ∈ l.closed, l.origin name = lineage))

/-- Every lineage still owed has a name among the names at hand. -/
def Conserved (l : Ledger κ) (names : List κ) : Prop :=
  ∀ job ∈ l.submitted, ¬ l.Closed job → ∃ name ∈ names, l.origin name = job

instance (l : Ledger κ) (names : List κ) : Decidable (l.Conserved names) :=
  inferInstanceAs
    (Decidable (∀ job ∈ l.submitted, ¬ l.Closed job → ∃ name ∈ names, l.origin name = job))

/-- The ledger only speaks of issued names, and no two names at hand belong to
one lineage. -/
structure Tracks (l : Ledger κ) (issued : κ → Prop) (names : List κ) : Prop where
  names_issued : ∀ name ∈ names, issued name
  parent_issued : ∀ link ∈ l.links, issued link.1
  child_issued : ∀ link ∈ l.links, issued link.2
  closed_issued : ∀ name ∈ l.closed, issued name
  lineages : (names.map l.origin).Nodup

theorem tracks_empty (issued : κ → Prop) : (empty : Ledger κ).Tracks issued [] :=
  ⟨by simp, by simp [empty], by simp [empty], by simp [empty], by simp⟩

theorem conserved_empty : (empty : Ledger κ).Conserved [] := by simp [Conserved, empty]

section

variable {l : Ledger κ} {issued : κ → Prop} {names : List κ}

theorem Tracks.names_nodup (h : l.Tracks issued names) : names.Nodup := h.lineages.of_map _

theorem Tracks.origin_fresh (h : l.Tracks issued names) {name : κ} (hn : ¬ issued name) :
    l.origin name = name := by
  have hlinks := h.child_issued
  unfold origin
  generalize l.links = links at hlinks
  induction links with
  | nil => rfl
  | cons link links ih =>
    have hne : name ≠ link.2 := by
      rintro rfl
      exact hn (hlinks link List.mem_cons_self)
    simp only [originAlong, hne, if_false]
    exact ih fun p hp => hlinks p (List.mem_cons_of_mem _ hp)

theorem Tracks.origin_issued (h : l.Tracks issued names) {name : κ} (hn : issued name) :
    issued (l.origin name) := by
  have hlinks := h.parent_issued
  unfold origin
  generalize l.links = links at hlinks
  induction links generalizing name with
  | nil => exact hn
  | cons link links ih =>
    have htail : ∀ p ∈ links, issued p.1 := fun p hp => hlinks p (List.mem_cons_of_mem _ hp)
    unfold originAlong
    split
    · exact ih (hlinks link List.mem_cons_self) htail
    · exact ih hn htail

theorem Tracks.subperm (h : l.Tracks issued names) {kept : List κ} (hk : kept.Subperm names) :
    l.Tracks issued kept where
  names_issued name hn := h.names_issued name (hk.subset hn)
  parent_issued := h.parent_issued
  child_issued := h.child_issued
  closed_issued := h.closed_issued
  lineages := by
    obtain ⟨sub, hp, hs⟩ := hk
    exact (hp.map l.origin).nodup_iff.mp (h.lineages.sublist (hs.map l.origin))

theorem Tracks.close (h : l.Tracks issued names) {name : κ} (hn : issued name) :
    (l.close name).Tracks issued names where
  names_issued := h.names_issued
  parent_issued := h.parent_issued
  child_issued := h.child_issued
  closed_issued other ho := by
    rcases List.mem_cons.mp ho with rfl | ho
    · exact hn
    · exact h.closed_issued other ho
  lineages := h.lineages

theorem Tracks.submit (h : l.Tracks issued names) {job : κ} {issued' : κ → Prop}
    (hi : ∀ name, issued name → issued' name) (hj : issued' job) (hf : ¬ issued job) :
    (l.submit job).Tracks issued' (job :: names) where
  names_issued := by
    rintro name hn
    rcases List.mem_cons.mp hn with rfl | hn
    · exact hj
    · exact hi name (h.names_issued name hn)
  parent_issued link hl := hi _ (h.parent_issued link hl)
  child_issued link hl := hi _ (h.child_issued link hl)
  closed_issued name hn := hi name (h.closed_issued name hn)
  lineages := by
    have hfresh : l.origin job = job := h.origin_fresh hf
    change ((job :: names).map l.origin).Nodup
    rw [List.map_cons, hfresh, List.nodup_cons]
    refine ⟨?_, h.lineages⟩
    intro hm
    obtain ⟨name, hn, heq⟩ := List.mem_map.mp hm
    exact hf (heq ▸ h.origin_issued (h.names_issued name hn))

theorem Tracks.retry {parent : κ} (h : l.Tracks issued (parent :: names)) {child : κ}
    {issued' : κ → Prop} (hi : ∀ name, issued name → issued' name) (hc : issued' child)
    (hf : ¬ issued child) : (l.retry parent child).Tracks issued' (child :: names) where
  names_issued := by
    rintro name hn
    rcases List.mem_cons.mp hn with rfl | hn
    · exact hc
    · exact hi name (h.names_issued name (List.mem_cons_of_mem _ hn))
  parent_issued link hl := by
    rcases List.mem_cons.mp hl with rfl | hl
    · exact hi _ (h.names_issued _ List.mem_cons_self)
    · exact hi _ (h.parent_issued link hl)
  child_issued link hl := by
    rcases List.mem_cons.mp hl with rfl | hl
    · exact hc
    · exact hi _ (h.child_issued link hl)
  closed_issued name hn := hi name (h.closed_issued name hn)
  lineages := by
    have hsame : names.map (l.retry parent child).origin = names.map l.origin :=
      List.map_congr_left fun name hn =>
        l.origin_retry_issued parent hf (h.names_issued name (List.mem_cons_of_mem _ hn))
    rw [List.map_cons, origin_retry_child, hsame]
    exact h.lineages

theorem Conserved.mono (h : l.Conserved names) {more : List κ} (hm : names ⊆ more) :
    l.Conserved more := by
  intro job hj hopen
  obtain ⟨name, hn, ho⟩ := h job hj hopen
  exact ⟨name, hm hn, ho⟩

theorem Conserved.submit (h : l.Conserved names) {job : κ} (hj : l.origin job = job) :
    (l.submit job).Conserved (job :: names) := by
  intro other ho hopen
  rcases List.mem_cons.mp ho with rfl | ho
  · exact ⟨other, List.mem_cons_self, hj⟩
  · obtain ⟨name, hn, heq⟩ := h other ho hopen
    exact ⟨name, List.mem_cons_of_mem _ hn, heq⟩

theorem Conserved.close {name : κ} (h : l.Conserved (name :: names)) :
    (l.close name).Conserved names := by
  intro job hj hopen
  have hstill : ¬ l.Closed job := by
    rintro ⟨other, ho, heq⟩
    exact hopen ⟨other, List.mem_cons_of_mem _ ho, heq⟩
  obtain ⟨other, ho, heq⟩ := h job hj hstill
  rcases List.mem_cons.mp ho with rfl | ho
  · exact absurd ⟨other, List.mem_cons_self, heq⟩ hopen
  · exact ⟨other, ho, heq⟩

theorem Conserved.retry {parent : κ} (h : l.Conserved (parent :: names))
    (ht : l.Tracks issued (parent :: names)) {child : κ} (hf : ¬ issued child) :
    (l.retry parent child).Conserved (child :: names) := by
  intro job hj hopen
  have hstill : ¬ l.Closed job := by
    rintro ⟨other, ho, heq⟩
    exact hopen ⟨other, ho, (l.origin_retry_issued parent hf (ht.closed_issued other ho)).trans heq⟩
  obtain ⟨name, hn, heq⟩ := h job hj hstill
  rcases List.mem_cons.mp hn with rfl | hmem
  · exact ⟨child, List.mem_cons_self, (origin_retry_child l name child).trans heq⟩
  · refine ⟨name, List.mem_cons_of_mem _ hmem, ?_⟩
    exact (l.origin_retry_issued parent hf (ht.names_issued name hn)).trans heq

end

end Ledger
