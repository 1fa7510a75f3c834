import Mathlib.Data.List.Nodup

/-!
# The last item for a key

A list may have several items for one key, of which only the last one counts. It is the one that a
search from the end comes to first, and where no two items have the same key it is any of them.
-/

namespace JobLauncher

variable {α β : Type} {κ ι : Type} {key : α → κ} {l l' : List α} {a : α}

/-- The item is in the list, and no later one has its key. -/
def IsLastFor (key : α → κ) (a : α) (l : List α) : Prop :=
  ∃ before after, l = before ++ a :: after ∧ ∀ b ∈ after, key b ≠ key a

namespace IsLastFor

theorem mem (h : IsLastFor key a l) : a ∈ l := by
  obtain ⟨before, after, rfl, -⟩ := h
  exact List.mem_append_right before List.mem_cons_self

/-- Where no key comes twice, every item is the last one for its own. -/
theorem of_nodup (h : (l.map key).Nodup) (hmem : a ∈ l) : IsLastFor key a l := by
  obtain ⟨before, after, rfl⟩ := List.append_of_mem hmem
  refine ⟨before, after, rfl, fun b hb heq => ?_⟩
  rw [List.map_append, List.map_cons] at h
  obtain ⟨-, hafter, -⟩ := List.nodup_append'.mp h
  exact (List.nodup_cons.mp hafter).1 (heq ▸ List.mem_map_of_mem hb)

/-- Different keys may come in any order. -/
theorem iff_of_perm (hperm : l.Perm l') (h : (l.map key).Nodup) :
    IsLastFor key a l ↔ IsLastFor key a l' := by
  have h' : (l'.map key).Nodup := (hperm.map key).nodup_iff.mp h
  exact ⟨fun hlast => of_nodup h' (hperm.mem_iff.mp hlast.mem),
    fun hlast => of_nodup h (hperm.mem_iff.mpr hlast.mem)⟩

/-- The last of what is made of a list is made of the last. -/
theorem map_iff {f : β → α} {l : List β} :
    IsLastFor key a (l.map f) ↔ ∃ b, f b = a ∧ IsLastFor (fun b => key (f b)) b l := by
  constructor
  · rintro ⟨before, after, hsplit, hafter⟩
    obtain ⟨before, rest, rfl, rfl, hrest⟩ := List.map_eq_append_iff.mp hsplit
    obtain ⟨b, after, rfl, rfl, rfl⟩ := List.map_eq_cons_iff.mp hrest
    exact ⟨b, rfl, before, after, rfl, fun c hc => hafter (f c) (List.mem_map_of_mem hc)⟩
  · rintro ⟨b, rfl, before, after, rfl, hafter⟩
    refine ⟨before.map f, after.map f, by rw [List.map_append, List.map_cons], fun c hc => ?_⟩
    obtain ⟨c, hmem, rfl⟩ := List.mem_map.mp hc
    exact hafter c hmem

/-- Which items are the last ones depends only on which of them have the same key. -/
theorem congr_key {key' : α → ι} (h : ∀ b ∈ l, ∀ c ∈ l, (key b = key c ↔ key' b = key' c)) :
    IsLastFor key a l ↔ IsLastFor key' a l := by
  refine exists_congr fun before => exists_congr fun after => and_congr_right ?_
  rintro rfl
  refine forall₂_congr fun b hb => not_congr (h b ?_ a ?_)
  · exact List.mem_append_right before (List.mem_cons_of_mem a hb)
  · exact List.mem_append_right before List.mem_cons_self

/-- The last item for a key is found from the end. -/
theorem find?_reverse_iff [DecidableEq κ] {k : κ} :
    l.reverse.find? (fun b => key b = k) = some a ↔ key a = k ∧ IsLastFor key a l := by
  rw [List.find?_eq_some_iff_append, decide_eq_true_eq]
  refine and_congr_right ?_
  rintro rfl
  constructor
  · rintro ⟨after, before, hsplit, hafter⟩
    refine ⟨before.reverse, after.reverse, ?_, fun b hb => ?_⟩
    · rw [← List.reverse_inj, hsplit]
      simp
    · simpa using hafter b (List.mem_reverse.mp hb)
  · rintro ⟨before, after, rfl, hafter⟩
    refine ⟨after.reverse, before.reverse, by simp, fun b hb => ?_⟩
    simpa using hafter b (List.mem_reverse.mp hb)

end IsLastFor

end JobLauncher
