import Mathlib.Data.List.Nodup
import Mathlib.Data.List.Range

/-!
A log that several writers append to. Each names its own entries in the same
series of names, from the first one on.
-/

set_option autoImplicit false

namespace Numbering

theorem numbered_injective (label : String) :
    Function.Injective fun n : Nat => label ++ toString n := by
  intro a b h
  have hs : a.repr = b.repr := (String.append_right_inj label).mp h
  have hd : Nat.toDigits 10 a = Nat.toDigits 10 b := by
    rw [← Nat.toList_repr, ← Nat.toList_repr, hs]
  calc
    a = Nat.ofDigitChars 10 (Nat.toDigits 10 a) 0 :=
      (Nat.ofDigitChars_toDigits (by decide) (by decide)).symm
    _ = Nat.ofDigitChars 10 (Nat.toDigits 10 b) 0 := by rw [hd]
    _ = b := Nat.ofDigitChars_toDigits (by decide) (by decide)

variable {ω α : Type} [DecidableEq ω]

/-- What the writer has appended, in its order. -/
def written (writer : ω) (log : List (ω × α)) : List α :=
  (log.filter fun e => e.1 = writer).map Prod.snd

/-- Every writer has used the names of an initial part of the series. -/
def Numbered (name : Nat → α) (log : List (ω × α)) : Prop :=
  ∀ writer, ∃ count, written writer log = (List.range count).map name

variable {name : Nat → α} {log : List (ω × α)} {writer other : ω} {a : α}

theorem written_concat_self :
    written writer (log ++ [(writer, a)]) = written writer log ++ [a] := by
  simp [written]

theorem written_concat_other (h : other ≠ writer) :
    written writer (log ++ [(other, a)]) = written writer log := by
  simp [written, h]

theorem mem_written : a ∈ written writer log ↔ (writer, a) ∈ log := by
  simp [written]

theorem Numbered.nil : Numbered name ([] : List (ω × α)) := fun _ => ⟨0, rfl⟩

theorem Numbered.concat {count : Nat} (h : Numbered name log)
    (hcount : written writer log = (List.range count).map name) :
    Numbered name (log ++ [(writer, name count)]) := by
  intro reader
  by_cases heq : writer = reader
  · subst heq
    refine ⟨count + 1, ?_⟩
    rw [written_concat_self, hcount, List.range_succ, List.map_append, List.map_singleton]
  · rw [written_concat_other heq]
    exact h reader

theorem Numbered.first_mem (h : Numbered name log) (ha : (writer, a) ∈ log) :
    (writer, name 0) ∈ log := by
  obtain ⟨count, hcount⟩ := h writer
  have hmem := mem_written.mpr ha
  rw [← mem_written]
  rw [hcount] at hmem ⊢
  obtain ⟨n, hn, _⟩ := List.mem_map.mp hmem
  have hpos : 0 < count := Nat.zero_lt_of_lt (List.mem_range.mp hn)
  exact List.mem_map_of_mem (List.mem_range.mpr hpos)

theorem Numbered.nodup_iff (hname : Function.Injective name) (h : Numbered name log) :
    (log.map Prod.snd).Nodup ↔ ∀ w ∈ log.map Prod.fst, ∀ w' ∈ log.map Prod.fst, w = w' := by
  constructor
  · intro hnodup w hw w' hw'
    obtain ⟨⟨_, a⟩, ha, rfl⟩ := List.mem_map.mp hw
    obtain ⟨⟨_, a'⟩, ha', rfl⟩ := List.mem_map.mp hw'
    have hsame := List.inj_on_of_nodup_map hnodup (h.first_mem ha) (h.first_mem ha') rfl
    exact (Prod.mk.inj hsame).1
  · intro hone
    cases log with
    | nil => exact List.nodup_nil
    | cons e rest =>
      obtain ⟨count, hcount⟩ := h e.1
      have hall : (e :: rest).filter (fun d => d.1 = e.1) = e :: rest := by
        refine List.filter_eq_self.mpr fun d hd => decide_eq_true ?_
        exact hone _ (List.mem_map_of_mem hd) _ (List.mem_map_of_mem List.mem_cons_self)
      rw [written, hall] at hcount
      rw [hcount]
      exact List.nodup_range.map hname

end Numbering
