import GeneticRepair.Proofs.Collection.Sorted
import GeneticRepair.Proofs.File.DirectPath
import Mathlib.Data.List.Sort

/-!
# Trees that grow

Making directories and writing files changes a tree at known places only. What lies in a directory is
what paths lead to beyond it.
-/

namespace GeneticRepair

open GeneticRepair.Path (isName)

namespace FileTree

variable {t t' t'' : FileTree} {p : String} {front place place' more : List String}

/-! ## Direct paths in a tree -/

private theorem stepFrom_eq {part : String} (hpart : part ≠ "..")
    (h : stepFrom front part = .ok place) :
    place = front ++ [part].filter isName := by
  by_cases hname : isName part = true
  · rw [List.filter_cons_of_pos hname, List.filter_nil]
    simp only [isName, Bool.and_eq_true, bne_iff_ne] at hname
    simp only [stepFrom, beq_iff_eq, Bool.or_eq_true, hname, hpart, or_self, if_false] at h
    split at h
    · cases h
    · exact (Except.ok.inj h).symm
  · rw [List.filter_cons_of_neg hname, List.filter_nil, List.append_nil]
    simp only [isName, Bool.and_eq_true, bne_iff_ne, not_and_or, not_not] at hname
    rw [stepFrom, if_pos (by simpa using hname)] at h
    exact (Except.ok.inj h).symm

private theorem walk_eq (hforward : ".." ∉ more) (h : t.walk front more = .ok place) :
    place = front ++ more.filter isName := by
  induction more generalizing front with
  | nil => simpa using (Except.ok.inj h).symm
  | cons part more ih =>
    rw [List.mem_cons, not_or] at hforward
    obtain ⟨-, next, hstep, hrest⟩ := walk_cons.mp h
    rw [ih hforward.2 hrest, stepFrom_eq (Ne.symm hforward.1) hstep, List.append_assoc,
      ← List.filter_append, List.singleton_append]

private theorem resolve_eq (hp : Path.Direct p) (h : t.resolve p = .ok place) :
    place = Path.parts p := by
  rw [walk_eq hp.forward (resolve_eq_ok.mp h).2, hp.parts_eq, List.nil_append]

private theorem filter_split_withoutEndSlashes (p : String) :
    (Path.split (withoutEndSlashes p)).filter isName = (Path.split p).filter isName := by
  have hchars : ∀ cs : List Char,
      (Path.split (String.ofList (cs.reverse.dropWhile (· == '/')).reverse)).filter isName =
        (Path.split (String.ofList cs)).filter isName := by
    intro cs
    induction cs using List.reverseRecOn with
    | nil => rfl
    | append_singleton cs c ih =>
      rw [List.reverse_append, List.reverse_singleton, List.singleton_append]
      by_cases hc : c = '/'
      · have happend : String.ofList (cs ++ ['/']) = String.ofList cs ++ "/" ++ "" := by
          rw [← String.toList_inj]
          simp
        rw [hc, List.dropWhile_cons_of_pos rfl, ih, happend, Path.split_append_slash,
          show Path.split "" = [""] by decide, List.filter_append]
        simp [isName]
      · rw [List.dropWhile_cons_of_neg (by simpa using hc)]
        simp
  have h := hchars p.toList
  rwa [String.ofList_toList] at h

/-! ## What is added -/

/-- The tree has grown by files and by directories on the way to a place. -/
structure Grows (place : List String) (written : List (List String)) (t t' : FileTree) : Prop where
  mem_files_iff : ∀ file, file ∈ t'.files.map Prod.fst ↔
    file ∈ t.files.map Prod.fst ∨ file ∈ written
  contents : ∀ file ∉ written, t'.files.lookup file = t.files.lookup file
  kept : ∀ directory ∈ t.directories, directory ∈ t'.directories
  onTheWay : ∀ directory ∈ t'.directories, directory ∈ t.directories ∨ directory <+: place

namespace Grows

variable {written written' : List (List String)}

private theorem refl (t : FileTree) : Grows place [] t t where
  mem_files_iff _ := by simp
  contents _ _ := rfl
  kept _ h := h
  onTheWay _ h := .inl h

theorem trans (h : Grows place written t t') (h' : Grows place' written' t' t'')
    (hplace : place <+: place') : Grows place' (written ++ written') t t'' where
  mem_files_iff file := by
    rw [h'.mem_files_iff, h.mem_files_iff, List.mem_append, or_assoc]
  contents file hfile := by
    rw [List.mem_append, not_or] at hfile
    rw [h'.contents file hfile.2, h.contents file hfile.1]
  kept directory hdirectory := h'.kept directory (h.kept directory hdirectory)
  onTheWay directory hdirectory := by
    rcases h'.onTheWay directory hdirectory with hmem | hbefore
    · exact (h.onTheWay directory hmem).imp_right fun hbefore => hbefore.trans hplace
    · exact .inr hbefore

theorem trans_nil (h : Grows place [] t t') (h' : Grows place' written t' t'')
    (hplace : place <+: place') : Grows place' written t t'' := by
  have hboth := h.trans h' hplace
  rwa [List.nil_append] at hboth

theorem keeps (h : Grows place written t t') : t.Keeps t' := by
  intro parts hparts
  simp only [hasDirectory, Bool.or_eq_true, List.any_eq_true, List.contains_iff_mem] at hparts ⊢
  rcases hparts with ((hempty | hmem) | ⟨directory, hmem, hbefore⟩) | ⟨⟨file, content⟩, hmem, hbelow⟩
  · exact .inl (.inl (.inl hempty))
  · exact .inl (.inl (.inr (h.kept _ hmem)))
  · exact .inl (.inr ⟨directory, h.kept _ hmem, hbefore⟩)
  · obtain ⟨entry, hentry, rfl⟩ := List.mem_map.mp
      ((h.mem_files_iff file).mpr (.inl (List.mem_map_of_mem hmem)))
    exact .inr ⟨entry, hentry, hbelow⟩

theorem content? (h : Grows place written t t') {content : ByteArray} {file : List String}
    (hresolve : t.resolve p = .ok file) (hfile : file ∉ written)
    (hcontent : t.content? p = some content) : t'.content? p = some content := by
  obtain ⟨found, hfound, hlookup⟩ := content?_eq_some.mp hcontent
  obtain rfl : file = found := Except.ok.inj (hresolve.symm.trans hfound)
  exact content?_eq_some.mpr ⟨file, h.keeps.resolve hresolve, (h.contents file hfile).trans hlookup⟩

end Grows

private theorem makeDirectoryAt_grows (h : t.makeDirectoryAt place = .ok t') :
    Grows place [] t t' ∧ t'.hasDirectory place = true := by
  rw [makeDirectoryAt] at h
  split at h
  · rename_i hplace
    obtain rfl := Except.ok.inj h
    exact ⟨.refl t, hplace⟩
  · split at h
    · cases h
    · obtain rfl := Except.ok.inj h
      refine ⟨⟨fun _ => by simp, fun _ _ => rfl, ?_, ?_⟩, ?_⟩
      · exact fun directory hdirectory => List.mem_append_left _ hdirectory
      · intro directory hdirectory
        refine (List.mem_append.mp hdirectory).imp_right fun hlast => ?_
        obtain rfl := List.mem_singleton.mp hlast
        exact List.prefix_rfl
      · simp [hasDirectory]

private theorem walkMaking_grows (hforward : ".." ∉ more) (hfront : t.hasDirectory front = true)
    (h : t.walkMaking front more = .ok t') :
    Grows (front ++ more.filter isName) [] t t' ∧
      t'.hasDirectory (front ++ more.filter isName) = true := by
  induction more generalizing t front with
  | nil =>
    obtain rfl := Except.ok.inj h
    rw [List.filter_nil, List.append_nil]
    exact ⟨.refl t, hfront⟩
  | cons part more ih =>
    rw [List.mem_cons, not_or] at hforward
    obtain ⟨next, hstep, hrest⟩ := bind_eq_ok.mp h
    obtain rfl := stepFrom_eq (Ne.symm hforward.1) hstep
    split at hrest
    · exact absurd hrest throw_bind_ne_ok
    · obtain ⟨t₁, hmade, hwalk⟩ := bind_eq_ok.mp hrest
      obtain ⟨hgrows, hnext⟩ := makeDirectoryAt_grows hmade
      obtain ⟨hgrows', hplace⟩ := ih hforward.2 hnext hwalk
      have hboth := hgrows.trans_nil hgrows' (List.prefix_append _ _)
      rw [List.append_assoc, ← List.filter_append, List.singleton_append] at hboth hplace
      exact ⟨hboth, hplace⟩

private theorem forward_withoutEndSlashes (h : ".." ∉ Path.split p) :
    ".." ∉ Path.split (withoutEndSlashes p) := by
  intro hmem
  have hname : ".." ∈ (Path.split (withoutEndSlashes p)).filter isName :=
    List.mem_filter.mpr ⟨hmem, by decide⟩
  rw [filter_split_withoutEndSlashes] at hname
  exact h (List.mem_filter.mp hname).1

private theorem hasDirectory_nil (t : FileTree) : t.hasDirectory [] = true := by
  simp [hasDirectory]

theorem makeDirectories_grows (hp : Path.Direct p) (h : t.makeDirectories p = .ok t') :
    Grows (Path.parts p) [] t t' ∧ t'.hasDirectory (Path.parts p) = true := by
  rw [hp.parts_eq, ← filter_split_withoutEndSlashes]
  rw [makeDirectories] at h
  split at h
  · rename_i hempty
    obtain rfl := Except.ok.inj h
    simp only [Bool.and_eq_true, String.isEmpty_iff] at hempty
    rw [hempty.1, show (Path.split "").filter isName = [] by decide]
    exact ⟨.refl t, hasDirectory_nil t⟩
  · obtain ⟨parts, hparts, hwalk⟩ := bind_eq_ok.mp h
    obtain rfl := lookupParts_eq hparts
    have hgrows := walkMaking_grows (forward_withoutEndSlashes hp.forward) (hasDirectory_nil t) hwalk
    rwa [List.nil_append] at hgrows

theorem write_grows (hp : Path.Direct p) {content : ByteArray} (h : t.write p content = .ok t')
    (place : List String) : Grows place [Path.parts p] t t' := by
  obtain ⟨found, hfound, rfl⟩ := exists_of_write h
  rw [← resolve_eq hp hfound]
  refine ⟨fun file => ?_, fun file hfile => ?_, fun _ hmem => hmem, fun _ hmem => .inl hmem⟩
  · rw [Entries.mem_keys_set_iff, List.mem_singleton, or_comm]
  · exact Entries.lookup_set_of_ne (by simpa using hfile)

/-! ## What lies in a directory -/

/-- Something is beyond the place. -/
def Reaches (t : FileTree) (place : List String) : Prop :=
  ∃ reached ∈ t.files.map Prod.fst ++ t.directories, place <+: reached

theorem mem_list {name : String} : name ∈ t.list p ↔ t.Reaches (Path.parts p ++ [name]) := by
  simp only [list, Sorted.mem_ofList, List.mem_filterMap, List.mem_filter, Bool.and_eq_true,
    List.isPrefixOf_iff_prefix, decide_eq_true_eq, Reaches]
  constructor
  · rintro ⟨reached, ⟨hmem, ⟨more, rfl⟩, -⟩, hname⟩
    refine ⟨_, hmem, ?_⟩
    rw [List.getElem?_append_right (Nat.le_refl _), Nat.sub_self] at hname
    cases more with
    | nil => cases hname
    | cons first more =>
      obtain rfl := Option.some.inj hname
      exact ⟨more, by simp⟩
  · rintro ⟨reached, hmem, more, rfl⟩
    exact ⟨_, ⟨hmem, ⟨name :: more, by simp⟩, by simp⟩, by simp⟩

private theorem pairwise_list (t : FileTree) (p : String) : (t.list p).Pairwise (· < ·) :=
  Sorted.pairwise_ofList _

theorem nodup_list (t : FileTree) (p : String) : (t.list p).Nodup := by
  refine (t.pairwise_list p).imp ?_
  rintro name _ hlt rfl
  exact String.lt_irrefl _ hlt

theorem reaches_of_hasDirectory (hplace : place ≠ []) (h : t.hasDirectory place = true) :
    t.Reaches place := by
  simp only [hasDirectory, Bool.or_eq_true, List.any_eq_true, List.contains_iff_mem,
    List.isEmpty_iff, hplace, false_or, Bool.and_eq_true, List.isPrefixOf_iff_prefix] at h
  rcases h with (hmem | ⟨directory, hmem, hbefore⟩) | ⟨⟨file, content⟩, hmem, hbefore, -⟩
  · exact ⟨place, List.mem_append_right _ hmem, List.prefix_rfl⟩
  · exact ⟨directory, List.mem_append_right _ hmem, hbefore⟩
  · exact ⟨file, List.mem_append_left _ (List.mem_map_of_mem hmem), hbefore⟩

namespace Grows

variable {written : List (List String)}

private theorem reaches (h : Grows place written t t') {beyond : List String}
    (hbeyond : t.Reaches beyond) :
    t'.Reaches beyond := by
  obtain ⟨reached, hmem, hbefore⟩ := hbeyond
  refine ⟨reached, ?_, hbefore⟩
  rcases List.mem_append.mp hmem with hfile | hdirectory
  · exact List.mem_append_left _ ((h.mem_files_iff reached).mpr (.inl hfile))
  · exact List.mem_append_right _ (h.kept reached hdirectory)

private theorem reaches_cases (h : Grows place written t t') {beyond : List String}
    (hbeyond : t'.Reaches beyond) :
    t.Reaches beyond ∨ (∃ file ∈ written, beyond <+: file) ∨ beyond <+: place := by
  obtain ⟨reached, hmem, hbefore⟩ := hbeyond
  rcases List.mem_append.mp hmem with hfile | hdirectory
  · rcases (h.mem_files_iff reached).mp hfile with hfile | hfile
    · exact .inl ⟨reached, List.mem_append_left _ hfile, hbefore⟩
    · exact .inr (.inl ⟨reached, hfile, hbefore⟩)
  · rcases h.onTheWay reached hdirectory with hmem | hway
    · exact .inl ⟨reached, List.mem_append_right _ hmem, hbefore⟩
    · exact .inr (.inr (hbefore.trans hway))

theorem mem_list_iff {name name' : String} (h : Grows (Path.parts p ++ [name]) written t t')
    (hdirectory : t'.hasDirectory (Path.parts p ++ [name]) = true)
    (hwritten : ∀ file ∈ written, Path.parts p ++ [name] <+: file) :
    name' ∈ t'.list p ↔ name' ∈ t.list p ∨ name' = name := by
  have hsame : ∀ {reached : List String}, Path.parts p ++ [name'] <+: reached →
      Path.parts p ++ [name] <+: reached → name' = name := by
    intro reached hbefore hbefore'
    have heq : Path.parts p ++ [name'] = Path.parts p ++ [name] := by
      rw [List.prefix_iff_eq_take.mp hbefore, List.prefix_iff_eq_take.mp hbefore']
      simp
    exact List.singleton_inj.mp (List.append_cancel_left heq)
  rw [mem_list, mem_list]
  constructor
  · intro hreaches
    rcases h.reaches_cases hreaches with hreaches | ⟨file, hfile, hbefore⟩ | hbefore
    · exact .inl hreaches
    · exact .inr (hsame hbefore (hwritten file hfile))
    · exact .inr (hsame hbefore List.prefix_rfl)
  · rintro (hreaches | rfl)
    · exact h.reaches hreaches
    · exact reaches_of_hasDirectory (by simp) hdirectory

theorem list_eq (h : Grows (Path.parts p) [] t t') : t'.list p = t.list p := by
  refine (t'.pairwise_list p).eq_of_mem_iff (t.pairwise_list p) fun name => ?_
  rw [mem_list, mem_list]
  refine ⟨fun hreaches => ?_, h.reaches⟩
  rcases h.reaches_cases hreaches with hreaches | ⟨file, hfile, -⟩ | hbefore
  · exact hreaches
  · exact absurd hfile List.not_mem_nil
  · have hlength := hbefore.length_le
    rw [List.length_append, List.length_singleton] at hlength
    omega

end Grows

end FileTree

end GeneticRepair
