import GeneticRepair.Coverage.Metric
import GeneticRepair.Proofs.Collection.Sorted

/-!
# Suspicious lines

Every line of a localization has a positive score, whatever the metric.
-/

namespace GeneticRepair

variable {R L : Type} [Scalar R]

namespace Localization

/-- The line has a positive score. -/
def Suspects (l : Localization R L) (line : L) : Prop :=
  ∃ score, (line, score) ∈ l.scores ∧ isSuspicious score = true

/-- No line is listed that is not suspicious. -/
def Pruned (l : Localization R L) : Prop :=
  ∀ score ∈ l.scores.map Prod.snd, isSuspicious score = true

theorem pruned_empty : (empty : Localization R L).Pruned :=
  nofun

theorem Pruned.suspects_iff {l : Localization R L} (h : l.Pruned) {line : L} :
    l.Suspects line ↔ line ∈ l.lines := by
  constructor
  · rintro ⟨score, hmem, -⟩
    exact List.mem_map_of_mem hmem
  · intro hmem
    obtain ⟨⟨line, score⟩, hentry, rfl⟩ := List.mem_map.mp hmem
    exact ⟨score, hentry, h score (List.mem_map_of_mem hentry)⟩

variable [BEq L] [LT L] [DecidableLT L]

theorem pruned_ofScores {scores : List (L × R)} {l : Localization R L}
    (h : ofScores scores = .ok l) : l.Pruned := by
  simp only [ofScores] at h
  split at h
  · cases h
  · obtain rfl := Except.ok.inj h
    intro score hscore
    obtain ⟨entry, hentry, rfl⟩ := List.mem_map.mp (Sorted.value_mem_ofEntries hscore)
    exact (List.mem_filter.mp hentry).2

end Localization

theorem Metric.pruned_localize {metric : Metric} {s : Spectra} {l : Localization R}
    (h : metric.localize s = .ok l) : l.Pruned := by
  unfold Metric.localize Metric.localizeWith at h
  split at h
  · cases h
  · split at h
    · rename_i hscores
      obtain rfl := Except.ok.inj h
      exact Localization.pruned_ofScores hscores
    · cases h

end GeneticRepair
