import Tablewright.Proofs.Text.Tie
import Tablewright.Text.Cluster

/-!
# Ties within and between clusters

A cluster keeps together what is tied: an underscore shares its cluster with neighbours that it is
tied to and with no others, and nothing is tied across the end of a cluster.
-/

namespace Tablewright.Text

variable {c d : Char} {before back rest cs g : List Char}

/-- A control character is continued, at most, by another. -/
theorem isControl_eq_of_continues (continued : continues (c :: before) d) :
    isControl c = isControl d := by
  unfold continues at continued
  dsimp only at continued
  split at continued
  · rw [Bool.and_eq_true, decide_eq_true_iff, decide_eq_true_iff] at continued
    obtain ⟨rfl, rfl⟩ := continued
    rfl
  · next no_control =>
    split at continued
    · cases continued
    · next no_control_next =>
      rw [Bool.not_eq_true] at no_control no_control_next
      rw [no_control, no_control_next]

theorem continues_of_isTied
    (tied : isTied c d)
    (before : List Char) :
    continues (c :: before) d := by
  simp only [isTied, Bool.and_eq_true, Bool.not_eq_true'] at tied
  obtain ⟨⟨no_control, no_control_next⟩, attached⟩ := tied
  unfold continues
  dsimp only
  rw [no_control, no_control_next, if_neg Bool.false_ne_true, if_neg Bool.false_ne_true, attached,
    Bool.true_or]

/-- An underscore is in one cluster with its neighbour only if they are tied. -/
theorem isTied_of_continues
    (continued : continues (c :: before) d)
    (underscore : c = '_' ∨ d = '_') :
    isTied c d := by
  unfold continues at continued
  dsimp only at continued
  split at continued
  · rw [Bool.and_eq_true, decide_eq_true_iff, decide_eq_true_iff] at continued
    obtain ⟨rfl, rfl⟩ := continued
    rcases underscore with no | no <;> cases no
  · next no_control =>
    split at continued
    · cases continued
    · next no_control_next =>
      rw [Bool.not_eq_true] at no_control no_control_next
      have no_pictographs : (decide (c = joiner) && isPictograph d) = false := by
        rcases underscore with rfl | rfl
        · rfl
        · exact Bool.and_false _
      rw [no_pictographs, Bool.false_and, Bool.or_false] at continued
      rw [isTied, no_control, no_control_next, continued]
      rfl

/-- What a cluster of a text is like. -/
structure IsCluster (g : List Char) : Prop where
  /-- It has characters. -/
  ne_nil : g ≠ []
  /-- An underscore in it is tied unless it is all there is. -/
  whole : g ≠ ['_'] → IsWhole none g
  /-- Control characters are among themselves. -/
  control : ∀ c ∈ g, ∀ d ∈ g, isControl c = isControl d

namespace IsCluster

theorem singleton (c : Char) : IsCluster [c] where
  ne_nil := List.cons_ne_nil c []
  whole other := by
    refine IsWhole.of_notMem fun member => other ?_
    rw [List.mem_singleton.mp member]
  control := by
    simp only [List.mem_singleton]
    rintro _ rfl _ rfl
    rfl

/-- A cluster with the character that continues it. -/
theorem reverse_cons
    (cluster : IsCluster back.reverse)
    (continued : continues back c) :
    IsCluster (c :: back).reverse := by
  obtain _ | ⟨last, before⟩ := back
  · cases continued
  rw [List.reverse_cons]
  refine ⟨List.append_ne_nil_of_right_ne_nil _ (List.cons_ne_nil c []), fun _ => ?_, ?_⟩
  · by_cases alone : (last :: before).reverse = ['_']
    · obtain ⟨rfl, rfl⟩ : last = '_' ∧ before = [] := by
        rwa [List.reverse_eq_iff, List.reverse_singleton, List.cons_eq_cons] at alone
      have tied := isTied_of_continues continued (Or.inl rfl)
      have other : c ≠ '_' := by
        rintro rfl
        cases tied
      refine ⟨fun _ free => ?_, fun underscore => absurd underscore other, trivial⟩
      simp [isFree, tied] at free
    · refine (cluster.whole alone).append ⟨fun underscore free => ?_, trivial⟩
      have tied := isTied_of_continues continued (Or.inr underscore)
      rw [underscore] at tied
      simp [isFree, tied] at free
  · have same : ∀ d ∈ (last :: before).reverse, isControl d = isControl c := by
      intro d member
      rw [← isControl_eq_of_continues continued]
      exact cluster.control d member last (List.mem_reverse.mpr List.mem_cons_self)
    simp only [List.mem_append, List.mem_singleton]
    rintro c₁ (inside₁ | rfl) c₂ (inside₂ | rfl)
    · exact cluster.control c₁ inside₁ c₂ inside₂
    · exact same c₁ inside₁
    · exact (same c₂ inside₂).symm
    · rfl

end IsCluster

theorem isCluster_of_mem_clustersAfter
    (opened : IsCluster back.reverse)
    (member : g ∈ clustersAfter back rest) :
    IsCluster g := by
  induction rest generalizing back with
  | nil =>
    rw [clustersAfter, List.mem_singleton] at member
    exact member ▸ opened
  | cons c rest ih =>
    rw [clustersAfter] at member
    split at member
    · next continued => exact ih (opened.reverse_cons continued) member
    · rcases List.mem_cons.mp member with rfl | later
      · exact opened
      · have single : IsCluster [c].reverse := .singleton c
        exact ih single later

theorem isCluster_of_mem_clusters (member : g ∈ clusters cs) : IsCluster g := by
  cases cs with
  | nil => cases member
  | cons c cs =>
    have single : IsCluster [c].reverse := .singleton c
    exact isCluster_of_mem_clustersAfter single member

/-- Neither of two texts, one behind the other, is tied to the other. -/
def IsUntied (cs ds : List Char) : Prop :=
  areTied cs.getLast? ds.head? = false

theorem exists_clustersAfter_eq_cons
    (back rest : List Char) :
    ∃ more others, clustersAfter back rest = (back.reverse ++ more) :: others := by
  induction rest generalizing back with
  | nil => exact ⟨[], [], by simp [clustersAfter]⟩
  | cons c rest ih =>
    rw [clustersAfter]
    split
    · obtain ⟨more, others, rest_eq⟩ := ih (c :: back)
      exact ⟨c :: more, others, by simp [rest_eq]⟩
    · exact ⟨[], clustersAfter [c] rest, by simp⟩

theorem isChain_clustersAfter
    (c : Char)
    (before rest : List Char) :
    (clustersAfter (c :: before) rest).IsChain IsUntied := by
  induction rest generalizing c before with
  | nil => exact List.isChain_singleton _
  | cons d rest ih =>
    rw [clustersAfter]
    split
    · exact ih d (c :: before)
    · next not_continued =>
      obtain ⟨more, others, rest_eq⟩ := exists_clustersAfter_eq_cons [d] rest
      have later := ih d []
      rw [rest_eq] at later ⊢
      refine List.isChain_cons_cons.mpr ⟨?_, later⟩
      have untied : isTied c d = false := by
        rw [← Bool.not_eq_true]
        exact fun tied => not_continued (continues_of_isTied tied before)
      simpa [IsUntied] using untied

theorem isChain_clusters (cs : List Char) : (clusters cs).IsChain IsUntied := by
  cases cs with
  | nil => exact List.isChain_nil
  | cons c cs => exact isChain_clustersAfter c [] cs

end Tablewright.Text
