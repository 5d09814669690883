import SpriteStage.Proofs.Snapshot.Change

/-!
# The lineup

Actors stand in a line, in the order in which they were brought in. Only two actions change the
identifiers in the line: an actor that is taken away goes out of it, and one that is brought in
stands at its end (`Snapshot.ids_after`). So two actors who stay keep their order, and who is gone
was taken away, and is back only if it is brought in again.
-/

namespace SpriteStage.Snapshot

/-- The identifiers of the actors, in order. -/
def ids (s : Snapshot) : List Datum := s.actors.map (·.id)

/-- An actor of the first identifier stands before one of the second. -/
def Precedes (s : Snapshot) (a b : Datum) : Prop := [a, b].Sublist s.ids

variable {s s' : Snapshot} {action : Action} {a b : Datum}

/-- What an action does to the line. -/
theorem ids_after (s : Snapshot) (action : Action) :
    (s.after action).ids = s.ids ∨
    (∃ id, action = .removeActor id ∧ (s.after action).ids = s.ids.filter (!·.sameValue id)) ∨
    ∃ actor, action = .addActor actor ∧ s.actor? actor.id = none ∧
      (s.after action).ids = s.ids ++ [actor.id] := by
  by_cases hadd : ∃ actor, action = .addActor actor
  · obtain ⟨actor, rfl⟩ := hadd
    rw [after_of_none rfl]
    simp only [after?, withActor?]
    split_ifs with htaken
    · exact .inl rfl
    · refine .inr (.inr ⟨actor, rfl, by simpa using htaken, ?_⟩)
      simp [ids]
  by_cases hremove : ∃ actorId, action = .removeActor actorId
  · obtain ⟨actorId, rfl⟩ := hremove
    rw [after_of_none rfl]
    simp only [after?, withoutActor?]
    by_cases hrefused : s.actors.length ≤ 1 || (s.actor? actorId).isNone
    · rw [if_pos hrefused]
      exact .inl rfl
    · rw [if_neg hrefused]
      refine .inr (.inl ⟨actorId, rfl, ?_⟩)
      simp only [ids, Option.getD_some, List.filter_map]
      rfl
  · refine .inl (after_of_after? (P := fun s' => s'.ids = s.ids) rfl fun s' h => ?_)
    exact (match_of_after? (not_exists.mp hadd) (not_exists.mp hremove) h).map_id

/-- Who is gone was taken away. -/
theorem eq_removeActor_of_not_mem (ha : a.IsText) (hs : a ∈ s.ids) (h : a ∉ (s.after action).ids) :
    action = .removeActor a := by
  obtain hids | ⟨id, rfl, hids⟩ | ⟨actor, rfl, -, hids⟩ := s.ids_after action
  · exact absurd (hids ▸ hs) h
  · rw [hids, List.mem_filter, not_and, Bool.not_eq_true', Bool.not_eq_false] at h
    rw [ha.sameValue_iff.mp (h hs)]
  · rw [hids] at h
    exact absurd (List.mem_append_left _ hs) h

/-- Who is new was brought in. -/
theorem eq_addActor_of_mem (hs : a ∉ s.ids) (h : a ∈ (s.after action).ids) :
    ∃ actor, action = .addActor actor ∧ actor.id = a := by
  obtain hids | ⟨id, rfl, hids⟩ | ⟨actor, rfl, -, hids⟩ := s.ids_after action
  · exact absurd (hids ▸ h) hs
  · rw [hids] at h
    exact absurd (List.mem_of_mem_filter h) hs
  · rw [hids] at h
    rcases List.mem_append.mp h with h | h
    · exact absurd h hs
    · exact ⟨actor, rfl, (List.mem_singleton.mp h).symm⟩

/-- Two actors who stay keep their order. -/
theorem Precedes.after (h : s.Precedes a b) (ha : a ∈ (s.after action).ids)
    (hb : b ∈ (s.after action).ids) : (s.after action).Precedes a b := by
  unfold Precedes at h ⊢
  obtain hids | ⟨id, -, hids⟩ | ⟨actor, -, -, hids⟩ := s.ids_after action
  · rw [hids]
    exact h
  · rw [hids] at ha hb ⊢
    have hleft := h.filter (!·.sameValue id)
    have hpair : [a, b].filter (!·.sameValue id) = [a, b] := by
      refine List.filter_eq_self.mpr fun c hc => ?_
      rcases List.mem_pair.mp hc with rfl | rfl
      · exact (List.mem_filter.mp ha).2
      · exact (List.mem_filter.mp hb).2
    rwa [hpair] at hleft
  · rw [hids]
    exact h.trans (List.sublist_append_left _ _)

/-! ### Identifiers that stand in the line once -/

theorem not_precedes_self (ha : a.IsText)
    (h : s.actors.Pairwise fun a b => ¬ a.id.sameValue b.id) : ¬ s.Precedes a a := by
  intro hself
  have hids : s.ids.Pairwise fun a b => ¬ a.sameValue b := List.pairwise_map.mpr h
  have hpair := hids.sublist hself
  exact (List.pairwise_cons.mp hpair).1 a (List.mem_singleton_self a) (ha.sameValue_iff.mpr rfl)

/-- A text does not come to stand in the line twice. -/
theorem not_precedes_self_after (ha : a.IsText) (h : ¬ s.Precedes a a) :
    ¬ (s.after action).Precedes a a := by
  unfold Precedes at h ⊢
  intro hself
  obtain hids | ⟨id, -, hids⟩ | ⟨actor, -, hfree, hids⟩ := s.ids_after action
  · exact h (hids ▸ hself)
  · rw [hids] at hself
    exact h (hself.trans (List.filter_sublist ..))
  · rw [hids] at hself
    obtain ⟨l, l', hl, hsub, hsub'⟩ := List.sublist_append_iff.mp hself
    rcases List.sublist_singleton.mp hsub' with rfl | rfl
    · rw [List.append_nil] at hl
      exact h (hl ▸ hsub)
    · have hpair : [a] ++ [a] = l ++ [actor.id] := hl
      obtain ⟨rfl, hend⟩ := List.append_inj' hpair rfl
      obtain rfl := List.singleton_injective hend
      obtain ⟨holder, hholder, hid⟩ := List.mem_map.mp (hsub.subset (List.mem_singleton_self _))
      have hhas : holder.hasId actor.id := hid ▸ ha.sameValue_iff.mpr rfl
      exact not_hasId_of_actor?_eq_none ha hfree holder hholder hhas

/-- If neither of two stands in a line twice, one of them stands before the other. -/
theorem Precedes.asymm (hab : a ≠ b) (ha : ¬ s.Precedes a a) (hb : ¬ s.Precedes b b)
    (h : s.Precedes a b) : ¬ s.Precedes b a := by
  unfold Precedes at *
  generalize s.ids = l at *
  intro hba
  induction l with
  | nil => cases h
  | cons c rest ih =>
    have ha' : ¬ [a, a].Sublist rest := fun hrest => ha (.cons _ hrest)
    have hb' : ¬ [b, b].Sublist rest := fun hrest => hb (.cons _ hrest)
    rcases List.sublist_cons_iff.mp h with hab' | ⟨r, hr, -⟩
    · rcases List.sublist_cons_iff.mp hba with hba' | ⟨r, hr, -⟩
      · exact ih ha' hb' hab' hba'
      · obtain ⟨rfl, -⟩ := List.cons.inj hr
        have hmem : b ∈ rest := hab'.subset (List.mem_cons_of_mem _ (List.mem_singleton_self _))
        exact hb (.cons_cons _ (List.singleton_sublist.mpr hmem))
    · obtain ⟨rfl, -⟩ := List.cons.inj hr
      rcases List.sublist_cons_iff.mp hba with hba' | ⟨r, hr, -⟩
      · have hmem : a ∈ rest := hba'.subset (List.mem_cons_of_mem _ (List.mem_singleton_self _))
        exact ha (.cons_cons _ (List.singleton_sublist.mpr hmem))
      · exact hab (List.cons.inj hr).1.symm

end SpriteStage.Snapshot
