import GeneticRepair.Proofs.Candidate.ClassicMutation
import GeneticRepair.Proofs.Candidate.Crossover

/-!
# Crossover of lines

A cut of two lists of lines exchanges what stands behind it, so that no line is lost or invented and
a second cut at the same place undoes the first. Raw crossover cuts the nonblank lines of its
candidates, at a place that both of them have.
-/

namespace GeneticRepair

open GeneticRepair.Text

namespace Candidate

/-! ## Cuts -/

section Cuts

variable {cut i : Nat} {p q : List String}

private theorem length_splice_fst (hp : cut ≤ p.length) (hq : cut ≤ q.length) :
    (splice cut p q).1.length = q.length := by
  simp only [splice, List.length_append, List.length_take, List.length_drop]
  omega

private theorem length_splice_snd (hp : cut ≤ p.length) (hq : cut ≤ q.length) :
    (splice cut p q).2.length = p.length :=
  length_splice_fst hq hp

private theorem getElem?_splice_fst_of_lt (hp : cut ≤ p.length) (hi : i < cut) :
    (splice cut p q).1[i]? = p[i]? := by
  have hlt : i < (p.take cut).length := by
    rw [List.length_take]
    omega
  rw [splice, List.getElem?_append_left hlt, List.getElem?_take_of_lt hi]

private theorem getElem?_splice_fst_of_le (hp : cut ≤ p.length) (hi : cut ≤ i) :
    (splice cut p q).1[i]? = q[i]? := by
  have hlength : (p.take cut).length = cut := List.length_take_of_le hp
  rw [splice, List.getElem?_append_right (hlength.symm ▸ hi), hlength, List.getElem?_drop]
  congr 1
  omega

private theorem splice_perm (cut : Nat) (p q : List String) :
    ((splice cut p q).1 ++ (splice cut p q).2).Perm (p ++ q) := by
  refine List.perm_iff_count.mpr fun line => ?_
  have hp := congrArg (List.count line) (List.take_append_drop cut p)
  have hq := congrArg (List.count line) (List.take_append_drop cut q)
  simp only [splice, List.count_append] at hp hq ⊢
  omega

private theorem splice_splice (hp : cut ≤ p.length) (hq : cut ≤ q.length) :
    splice cut (splice cut p q).1 (splice cut p q).2 = (p, q) := by
  have hrestored : ∀ {p q : List String}, cut ≤ p.length → cut ≤ q.length →
      (p.take cut ++ q.drop cut).take cut ++ (q.take cut ++ p.drop cut).drop cut = p := by
    intro p q hp hq
    rw [List.take_append_of_le_length (by simp [hp]), List.take_take, Nat.min_self,
      List.drop_append_of_le_length (by simp [hq]), List.drop_take, Nat.sub_self, List.take_zero,
      List.nil_append, List.take_append_drop]
  exact Prod.ext (hrestored hp hq) (hrestored hq hp)

/-- Two lists of lines come of two others by an exchange of what stands behind a cut. -/
structure Exchanged (cut : Nat) (p q a b : List String) : Prop where
  length_left : a.length = q.length
  length_right : b.length = p.length
  before : ∀ i < cut, a[i]? = p[i]? ∧ b[i]? = q[i]?
  behind : ∀ i, cut ≤ i → a[i]? = q[i]? ∧ b[i]? = p[i]?
  perm : (a ++ b).Perm (p ++ q)
  undone : splice cut a b = (p, q)

private theorem exchanged_splice (hp : cut ≤ p.length) (hq : cut ≤ q.length) :
    Exchanged cut p q (splice cut p q).1 (splice cut p q).2 where
  length_left := length_splice_fst hp hq
  length_right := length_splice_snd hp hq
  before _ hi := ⟨getElem?_splice_fst_of_lt hp hi, getElem?_splice_fst_of_lt hq hi⟩
  behind _ hi := ⟨getElem?_splice_fst_of_le hp hi, getElem?_splice_fst_of_le hq hi⟩
  perm := splice_perm cut p q
  undone := splice_splice hp hq

end Cuts

/-! ## Candidates -/

variable {R T G : Type} {c d : Candidate R}

private theorem content_ne_nil_iff : c.content ≠ [] ↔ 0 < c.content.length :=
  List.length_pos_iff.symm

private theorem content_eq_lines (h : ∀ line ∈ c.lines, isBlank line = false) :
    c.content = c.lines :=
  List.filter_eq_self.mpr (by simpa using h)

variable [RandomSource G]

private theorem returns_crossLines_self (h : c.content = [] ∨ d.content = []) (lab : Lab T G) :
    Returns (c.crossLines d) lab (c, d) lab := by
  have hlimit : (min c.content.length d.content.length == 0) = true := by
    rcases h with h | h <;> simp [h]
  rw [crossLines]
  simp only [hlimit, if_true]
  exact returns_pure.mpr ⟨rfl, rfl⟩

/-- The place of a cut that both candidates have, and the source after it has been drawn. -/
def drawCut (c d : Candidate R) (g : G) : Nat × G :=
  RandomSource.below (min c.content.length d.content.length) g

private theorem drawCut_lt (hc : c.content ≠ []) (hd : d.content ≠ []) (g : G) :
    (c.drawCut d g).1 < c.content.length ∧ (c.drawCut d g).1 < d.content.length := by
  rw [content_ne_nil_iff] at hc hd
  exact lt_min_iff.mp (RandomSource.below_lt _ g (lt_min hc hd))

private theorem exists_crossLines (hc : c.content ≠ []) (hd : d.content ≠ []) (lab : Lab T G) :
    ∃ u v lab', Returns (c.crossLines d) lab (u, v) lab' ∧ c.Kin u ∧ d.Kin v ∧
      (u.lines, v.lines) = splice (c.drawCut d lab.random).1 c.content d.content ∧
      lab'.random = (c.drawCut d lab.random).2 := by
  have hlimit : (min c.content.length d.content.length == 0) = false := by
    rw [content_ne_nil_iff] at hc hd
    rw [beq_eq_false_iff_ne]
    omega
  have hcut : ∀ uv lab', Returns (do
      return (← c.derive (splice (c.drawCut d lab.random).1 c.content d.content).1,
        ← d.derive (splice (c.drawCut d lab.random).1 c.content d.content).2))
      { lab with random := (c.drawCut d lab.random).2 } uv lab' →
      Returns (c.crossLines d) lab uv lab' := by
    intro uv lab' h
    rw [crossLines]
    simp only [hlimit, Bool.false_eq_true, if_false]
    exact returns_bind.mpr ⟨_, _, Lab.returns_draw.mpr ⟨_, rfl, rfl⟩, h⟩
  exact ⟨_, _, _, hcut _ _ (returns_derive_both _ _ _), ⟨rfl, rfl, rfl⟩, ⟨rfl, rfl, rfl⟩, rfl, rfl⟩

/-- If a candidate has no nonblank line, raw crossover leaves both as they are and draws nothing. Or
else it draws a cut and exchanges the nonblank lines behind it, each offspring belonging to its own
candidate, and a crossover of the offspring with the same cut gives back the lines of both. -/
theorem crossover_raw (hraw : c.strategies.crossover = .raw) (lab : Lab T G) :
    (c.content = [] ∨ d.content = [] → Returns (c.crossover d) lab (c, d) lab) ∧
    (c.content ≠ [] → d.content ≠ [] → ∃ cut u v lab',
      c.drawCut d lab.random = (cut, lab'.random) ∧
      cut < c.content.length ∧ cut < d.content.length ∧
      Returns (c.crossover d) lab (u, v) lab' ∧ c.Kin u ∧ d.Kin v ∧
      Exchanged cut c.content d.content u.lines v.lines ∧
      (∀ line ∈ u.lines ++ v.lines, isBlank line = false) ∧
      ∀ s : Lab T G, (u.drawCut v s.random).1 = cut → ∃ x y s',
        Returns (u.crossover v) s (x, y) s' ∧ x.lines = c.content ∧ y.lines = d.content) := by
  have hcrossover : ∀ {c d : Candidate R}, c.strategies.crossover = .raw →
      (c.crossover d : Action T G _) = c.crossLines d := by
    intro c d h
    rw [crossover, h]
  refine ⟨fun h => ?_, fun hc hd => ?_⟩
  · rw [hcrossover hraw]
    exact returns_crossLines_self h lab
  obtain ⟨u, v, lab', hreturns, hu, hv, hlines, hrandom⟩ := exists_crossLines hc hd lab
  obtain ⟨hltc, hltd⟩ := drawCut_lt hc hd lab.random
  have hexchanged := exchanged_splice hltc.le hltd.le
  generalize hcut : (c.drawCut d lab.random).1 = cut at hltc hltd hexchanged hlines
  rw [← hlines] at hexchanged
  have hblank : ∀ line ∈ u.lines ++ v.lines, isBlank line = false := by
    intro line hline
    rcases List.mem_append.mp (hexchanged.perm.subset hline) with hline | hline
    · exact (mem_nonblank.mp hline).2
    · exact (mem_nonblank.mp hline).2
  refine ⟨cut, u, v, lab', Prod.ext hcut hrandom.symm, hltc, hltd, ?_, hu, hv, hexchanged, hblank,
    fun s hs => ?_⟩
  · rwa [hcrossover hraw]
  · have hcontent : u.content = u.lines ∧ v.content = v.lines :=
      ⟨content_eq_lines fun line h => hblank line (List.mem_append_left _ h),
        content_eq_lines fun line h => hblank line (List.mem_append_right _ h)⟩
    have hne : u.content ≠ [] ∧ v.content ≠ [] := by
      rw [content_ne_nil_iff, content_ne_nil_iff, hcontent.1, hcontent.2,
        hexchanged.length_left, hexchanged.length_right]
      omega
    obtain ⟨x, y, s', hback, -, -, hrestored, -⟩ := exists_crossLines hne.1 hne.2 s
    rw [hs, hcontent.1, hcontent.2, hexchanged.undone, Prod.mk.injEq] at hrestored
    refine ⟨x, y, s', ?_, hrestored⟩
    rwa [hcrossover (hu.strategies ▸ hraw)]

end Candidate

/-! ## Candidates of different lengths -/

namespace Uneven

def candidate (lines : List String) (memo : Nat) : Candidate Quantity :=
  ⟨"xyz", lines, ⟨"test_z.py", [], []⟩, ⟨.classic true, .raw, .genprog, ⟨.ofInt 1, .ofInt 10⟩⟩, memo⟩

def long : Candidate Quantity :=
  candidate ["a = 1", "", "b = 2", "c = 3"] 0

def short : Candidate Quantity :=
  candidate ["x = 1", "y = 2", "\t"] 1

def lab : Lab Unit Counter :=
  ⟨(), #[.empty, .empty], none, ⟨1⟩⟩

end Uneven

namespace Candidate

theorem crossover_raw_of_uneven :
    Uneven.long.strategies.crossover = .raw ∧ Uneven.long.content ≠ [] ∧ Uneven.short.content ≠ [] ∧
      ∃ u v lab', Returns (Uneven.long.crossover Uneven.short) Uneven.lab (u, v) lab' ∧
        Uneven.long.Kin u ∧ Uneven.short.Kin v ∧
        Exchanged 1 ["a = 1", "b = 2", "c = 3"] ["x = 1", "y = 2"] u.lines v.lines := by
  have hlong : Uneven.long.content = ["a = 1", "b = 2", "c = 3"] := by decide +kernel
  have hshort : Uneven.short.content = ["x = 1", "y = 2"] := by decide +kernel
  have hdraw : (Uneven.long.drawCut Uneven.short Uneven.lab.random).1 = 1 := by
    rw [drawCut, hlong, hshort]
    rfl
  have hne : Uneven.long.content ≠ [] ∧ Uneven.short.content ≠ [] := by simp [hlong, hshort]
  obtain ⟨cut, u, v, lab', hdrawn, -, -, hreturns, hu, hv, hexchanged, -⟩ :=
    (crossover_raw (c := Uneven.long) (d := Uneven.short) rfl Uneven.lab).2 hne.1 hne.2
  obtain rfl : cut = 1 := by rw [← hdraw, hdrawn]
  rw [hlong, hshort] at hexchanged
  exact ⟨rfl, hne.1, hne.2, u, v, lab', hreturns, hu, hv, hexchanged⟩

end Candidate

end GeneticRepair
