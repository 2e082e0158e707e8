/-!
# Fresh names

The least of a row of numbered names that is not taken yet. Among as many
different candidates as there are taken names, and one more, one is free
(`firstFree_not_mem`), and none below it is (`mem_of_lt_firstFree`).
-/

namespace Statecraft.Text

/-- The least number whose candidate is not taken. -/
def firstFree (candidate : Nat → String) (taken : List String) : Nat :=
  ((List.range taken.length).find? fun k => !taken.contains (candidate k)).getD taken.length

/-- No number below the first free one has a free candidate. -/
theorem mem_of_lt_firstFree {candidate : Nat → String} {taken : List String} {k : Nat}
    (h : k < firstFree candidate taken) : candidate k ∈ taken := by
  unfold firstFree at h
  cases found : (List.range taken.length).find? fun k => !taken.contains (candidate k) with
  | none =>
    rw [found] at h
    simpa using List.find?_range_eq_none.1 found k h
  | some m =>
    rw [found] at h
    simpa using (List.find?_range_eq_some.1 found).2.2 k h

/-- Different numbers have different candidates, so one of them is free. -/
theorem firstFree_not_mem {candidate : Nat → String} {taken : List String}
    (hc : ∀ {i j}, candidate i = candidate j → i = j) :
    candidate (firstFree candidate taken) ∉ taken := by
  unfold firstFree
  cases found : (List.range taken.length).find? fun k => !taken.contains (candidate k) with
  | some m => simpa using (List.find?_range_eq_some.1 found).1
  | none =>
    simp only [Option.getD_none]
    intro last
    have all_taken : (List.range (taken.length + 1)).map candidate ⊆ taken := by
      intro name hname
      obtain ⟨k, hk, rfl⟩ := List.mem_map.1 hname
      rcases Nat.lt_succ_iff_lt_or_eq.1 (List.mem_range.1 hk) with hlt | rfl
      · simpa using List.find?_range_eq_none.1 found k hlt
      · exact last
    have distinct : ((List.range (taken.length + 1)).map candidate).Nodup :=
      List.pairwise_map.2 (List.nodup_range.imp fun h e => h (hc e))
    have longer := distinct.length_le_of_subset all_taken
    rw [List.length_map, List.length_range] at longer
    omega

end Statecraft.Text
