import Mathlib.Data.List.Perm.Basic
import ModuleSharing.Child.Spec

/-! Members that are merged by their keys.  Merging puts later members in the places of earlier ones
with the same keys, so what is merged is, up to its order, the later members and those earlier ones
that none of them replaces (`perm_mergeMembers`). -/

namespace ModuleSharing

namespace Json

variable {k : String} {v : Json} {members : List (String × Json)}

theorem setMember_of_not_mem (h : k ∉ members.map Prod.fst) :
    setMember k v members = members ++ [(k, v)] := by
  induction members with
  | nil => rfl
  | cons p members ih =>
    rw [List.map_cons, List.mem_cons, not_or] at h
    rw [setMember, if_neg (by simpa using h.1), ih h.2, List.cons_append]

/-- Setting a member takes the one with the same key away. -/
theorem perm_setMember (h : (members.map Prod.fst).Nodup) :
    (setMember k v members).Perm ((k, v) :: members.filter fun p => p.1 ≠ k) := by
  induction members with
  | nil => exact .refl _
  | cons p members ih =>
    rw [List.map_cons, List.nodup_cons] at h
    by_cases hk : k = p.1
    · subst hk
      have hothers : members.filter (fun q => q.1 ≠ p.1) = members := by
        rw [List.filter_eq_self]
        intro q hq
        have hne : q.1 ≠ p.1 := fun heq => h.1 (heq ▸ List.mem_map_of_mem hq)
        simpa using hne
      rw [setMember, if_pos (by simp), List.filter_cons_of_neg (by simp), hothers]
    · rw [setMember, if_neg (by simpa using hk),
        List.filter_cons_of_pos (by simpa using Ne.symm hk)]
      exact ((ih h.2).cons p).trans (.swap _ _ _)

theorem nodup_keys_setMember (h : (members.map Prod.fst).Nodup) :
    ((setMember k v members).map Prod.fst).Nodup := by
  have hperm := (perm_setMember (v := v) (k := k) h).map Prod.fst
  rw [hperm.nodup_iff, List.map_cons, List.nodup_cons]
  constructor
  · simp
  · exact h.sublist (List.filter_sublist.map _)

end Json

namespace ChildSpec

open Json

variable {members later : List (String × Json)}

/-- Members with new keys are put behind the others. -/
theorem mergeMembers_of_disjoint (hlater : (later.map Prod.fst).Nodup)
    (h : ∀ k ∈ later.map Prod.fst, k ∉ members.map Prod.fst) :
    mergeMembers members later = members ++ later := by
  induction later generalizing members with
  | nil => exact (List.append_nil members).symm
  | cons p later ih =>
    rw [List.map_cons, List.nodup_cons] at hlater
    rw [List.map_cons, List.forall_mem_cons] at h
    have hrest : ∀ k ∈ later.map Prod.fst, k ∉ (members ++ [p]).map Prod.fst := by
      intro k hk hmem
      rw [List.map_append, List.mem_append] at hmem
      rcases hmem with hmem | hmem
      · exact h.2 k hk hmem
      · obtain rfl : k = p.1 := by simpa using hmem
        exact hlater.1 hk
    change mergeMembers (setMember p.1 p.2 members) later = _
    rw [setMember_of_not_mem h.1, ih hlater.2 hrest, List.append_assoc]
    rfl

theorem perm_mergeMembers (hmembers : (members.map Prod.fst).Nodup)
    (hlater : (later.map Prod.fst).Nodup) :
    (mergeMembers members later).Perm
      ((members.filter fun p => p.1 ∉ later.map Prod.fst) ++ later) := by
  induction later generalizing members with
  | nil => simp [mergeMembers]
  | cons p later ih =>
    rw [List.map_cons, List.nodup_cons] at hlater
    have hset := (perm_setMember (v := p.2) (k := p.1) hmembers).filter
      fun q => decide (q.1 ∉ later.map Prod.fst)
    rw [List.filter_cons_of_pos (by simpa using hlater.1), List.filter_filter] at hset
    refine (ih (nodup_keys_setMember hmembers) hlater.2).trans
      ((hset.append_right later).trans ?_)
    rw [List.cons_append]
    refine List.perm_middle.symm.trans (.of_eq ?_)
    congr 1
    refine List.filter_congr fun q _ => ?_
    rw [List.map_cons, ← Bool.decide_and]
    simp only [List.mem_cons, not_or, ne_eq, and_comm]

end ChildSpec

end ModuleSharing
