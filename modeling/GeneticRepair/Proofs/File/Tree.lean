import GeneticRepair.File.Path
import GeneticRepair.File.Tree
import GeneticRepair.Proofs.Collection.Entries
import GeneticRepair.Proofs.Outcome
import Mathlib.Tactic.Common

/-!
# Files that stay

A path leads to the same place as long as no directory goes away, and no work on files takes one
away. So two files of different names in one directory can be written one after the other, and both
can be read.

A name is plain if it has no slash and is not one of the two dots. It is the last part of every path
that it is joined to.
-/

namespace GeneticRepair

/-! ## Plain names -/

namespace Path

variable {a b directory name : String}

/-- The name of something in a directory. -/
structure Plain (name : String) : Prop where
  ne_empty : name ≠ ""
  ne_dot : name ≠ "."
  ne_dots : name ≠ ".."
  slash_notMem : '/' ∉ name.toList

theorem split_append_slash (a b : String) : split (a ++ "/" ++ b) = split a ++ split b := by
  have hchars : (a ++ "/" ++ b).toList = a.toList ++ '/' :: b.toList := by simp
  rw [split, hchars, List.splitOn_append_cons_self, List.map_append, split, split]

namespace Plain

theorem split_eq (h : Plain name) : split name = [name] := by
  rw [split, List.splitOn_eq_singleton h.slash_notMem]
  simp

theorem isAbsolute_eq (h : Plain name) : isAbsolute name = false := by
  by_contra habsolute
  simp only [isAbsolute, Bool.not_eq_false, beq_iff_eq] at habsolute
  exact h.slash_notMem (List.mem_of_head? habsolute)

end Plain

theorem exists_append_slash (h : a.toList.getLast? = some '/') : ∃ b, a = b ++ "/" := by
  obtain ⟨cs, hcs⟩ := List.getLast?_eq_some_iff.mp h
  refine ⟨String.ofList cs, ?_⟩
  rw [← String.toList_inj, String.toList_append, String.toList_ofList, hcs]
  rfl

private theorem join_plain (directory : String) :
    (∀ name, Plain name → join directory name = name) ∨
      ∃ front, ∀ name, Plain name → join directory name = front ++ "/" ++ name := by
  by_cases hempty : directory.isEmpty = true
  · refine .inl fun name hname => ?_
    obtain rfl := String.isEmpty_iff.mp hempty
    simp [join, hname.isAbsolute_eq]
  · by_cases hslash : directory.toList.getLast? = some '/'
    · obtain ⟨front, rfl⟩ := exists_append_slash hslash
      exact .inr ⟨front, fun name hname => by simp [join, hname.isAbsolute_eq]⟩
    · exact .inr ⟨directory, fun name hname => by
        simp [join, hname.isAbsolute_eq, hslash, hempty]⟩

private theorem exists_split_join (directory : String) :
    ∃ front, ∀ name, Plain name → split (join directory name) = front ++ [name] := by
  rcases join_plain directory with hjoin | ⟨front, hjoin⟩
  · exact ⟨[], fun name hname => by rw [hjoin name hname, hname.split_eq, List.nil_append]⟩
  · exact ⟨split front, fun name hname => by
      rw [hjoin name hname, split_append_slash, hname.split_eq]⟩

private theorem takeWhile_reverse (h : '/' ∉ b.toList) (cs : List Char) :
    (b.toList.reverse ++ cs).takeWhile (· != '/') =
      b.toList.reverse ++ cs.takeWhile (· != '/') := by
  refine List.takeWhile_append_of_pos fun c hc => ?_
  rw [bne_iff_ne]
  rintro rfl
  exact h (List.mem_reverse.mp hc)

theorem name_join (h : Plain name) : Path.name (join directory name) = name := by
  rcases join_plain directory with hjoin | ⟨front, hjoin⟩
  · have htaken := takeWhile_reverse h.slash_notMem []
    rw [List.append_nil] at htaken
    simp [hjoin name h, Path.name, htaken]
  · have hchars : (front ++ "/" ++ name).toList.reverse =
        name.toList.reverse ++ '/' :: front.toList.reverse := by
      simp
    rw [hjoin name h, Path.name, hchars, takeWhile_reverse h.slash_notMem,
      List.takeWhile_cons_of_neg (by simp), List.append_nil, List.reverse_reverse,
      String.ofList_toList]

end Path

/-! ## Directories -/

namespace FileTree

variable {t t' : FileTree} {p directory a b : String} {parts front place : List String}
  {content content' : ByteArray}

/-- Every directory of the first tree is one of the second. -/
def Keeps (t t' : FileTree) : Prop :=
  ∀ parts, t.hasDirectory parts = true → t'.hasDirectory parts = true

private theorem checkDirectory_eq_ok {u : Unit} :
    t.checkDirectory parts = .ok u ↔ t.hasDirectory parts = true := by
  rw [checkDirectory]
  split
  · simp_all [pure, Except.pure]
  · simp_all [throw, throwThe, MonadExceptOf.throw]

@[simp] theorem throw_bind_ne_ok {ε α β : Type} {e : ε} {f : α → Except ε β} {b : β} :
    ¬ (throw e >>= f) = .ok b := by
  simp [throw, throwThe, MonadExceptOf.throw, bind, Except.bind]

theorem walk_cons {part : String} : t.walk front (part :: parts) = .ok place ↔
    t.hasDirectory front = true ∧
      ∃ next, stepFrom front part = .ok next ∧ t.walk next parts = .ok place := by
  simp only [walk, bind_eq_ok, checkDirectory_eq_ok, exists_const]

private theorem walk_append_singleton : t.walk front (parts ++ [a]) = .ok place ↔
    ∃ last, t.walk front parts = .ok last ∧ t.hasDirectory last = true ∧
      stepFrom last a = .ok place := by
  induction parts generalizing front with
  | nil =>
    rw [List.nil_append, walk_cons]
    simp [walk, pure, Except.pure]
  | cons part parts ih =>
    rw [List.cons_append, walk_cons]
    simp only [walk_cons, ih]
    constructor
    · rintro ⟨hfront, next, hstep, last, hwalk, hlast⟩
      exact ⟨last, ⟨hfront, next, hstep, hwalk⟩, hlast⟩
    · rintro ⟨last, ⟨hfront, next, hstep, hwalk⟩, hlast⟩
      exact ⟨hfront, next, hstep, last, hwalk, hlast⟩

private theorem Keeps.walk (h : t.Keeps t') (hwalk : t.walk front parts = .ok place) :
    t'.walk front parts = .ok place := by
  induction parts generalizing front with
  | nil => exact hwalk
  | cons part parts ih =>
    obtain ⟨hfront, next, hstep, hrest⟩ := walk_cons.mp hwalk
    exact walk_cons.mpr ⟨h front hfront, next, hstep, ih hrest⟩

theorem lookupParts_eq (h : lookupParts p = .ok parts) : parts = Path.split p := by
  unfold lookupParts at h
  split at h
  · cases h
  · split at h
    · cases h
    · split at h
      · cases h
      · exact (Except.ok.inj h).symm

theorem resolve_eq_ok : t.resolve p = .ok place ↔
    lookupParts p = .ok (Path.split p) ∧ t.walk [] (Path.split p) = .ok place := by
  rw [resolve, bind_eq_ok]
  constructor
  · rintro ⟨parts, hparts, hwalk⟩
    obtain rfl := lookupParts_eq hparts
    exact ⟨hparts, hwalk⟩
  · rintro ⟨hparts, hwalk⟩
    exact ⟨_, hparts, hwalk⟩

theorem Keeps.resolve (h : t.Keeps t') (hresolve : t.resolve p = .ok place) :
    t'.resolve p = .ok place := by
  obtain ⟨hparts, hwalk⟩ := resolve_eq_ok.mp hresolve
  exact resolve_eq_ok.mpr ⟨hparts, h.walk hwalk⟩

private theorem stepFrom_plain (ha : Path.Plain a) (h : stepFrom front a = .ok place) :
    place = front ++ [a] := by
  simp only [stepFrom, beq_iff_eq, Bool.or_eq_true, ha.ne_empty, ha.ne_dot, ha.ne_dots, or_self,
    if_false] at h
  split at h
  · cases h
  · exact (Except.ok.inj h).symm

private theorem ne_of_resolve_join (ha : Path.Plain a) (hb : Path.Plain b) (hne : a ≠ b)
    {place' : List String} (h : t.resolve (Path.join directory a) = .ok place)
    (h' : t.resolve (Path.join directory b) = .ok place') : place ≠ place' := by
  obtain ⟨front, hsplit⟩ := Path.exists_split_join directory
  have hwalk := (resolve_eq_ok.mp h).2
  have hwalk' := (resolve_eq_ok.mp h').2
  rw [hsplit a ha] at hwalk
  rw [hsplit b hb] at hwalk'
  obtain ⟨last, -, -, hstep⟩ := walk_append_singleton.mp hwalk
  obtain ⟨last', -, -, hstep'⟩ := walk_append_singleton.mp hwalk'
  rw [stepFrom_plain ha hstep, stepFrom_plain hb hstep']
  intro heq
  exact hne (List.cons.inj (List.append_inj_right' heq rfl)).1

/-! ## Writing -/

private theorem keeps_set (t : FileTree) (parts : List String) (content : ByteArray) :
    t.Keeps { t with files := Entries.set parts content t.files } := by
  intro directory h
  simp only [hasDirectory, Bool.or_eq_true, List.any_eq_true] at h ⊢
  refine h.imp_right fun hfile => ?_
  obtain ⟨⟨file, old⟩, hmem, hbelow⟩ := hfile
  have hkey : file ∈ (Entries.set parts content t.files).map Prod.fst :=
    Entries.mem_keys_set (List.mem_map_of_mem hmem)
  obtain ⟨entry, hentry, hfile⟩ := List.mem_map.mp hkey
  exact ⟨entry, hentry, by rw [hfile]; exact hbelow⟩

/-- Writing changes the file at the place that the path leads to. -/
theorem exists_of_write (h : t.write p content = .ok t') :
    ∃ place, t.resolve p = .ok place ∧
      t' = { t with files := Entries.set place content t.files } := by
  by_cases hnamed : withoutEndSlashes p = p
  · simp only [write, hnamed, ite_self, bne_self_eq_false, Bool.false_eq_true, if_false] at h
    obtain ⟨place, hplace, hrest⟩ := bind_eq_ok.mp h
    split at hrest
    · exact absurd hrest throw_bind_ne_ok
    · obtain ⟨-, -, hset⟩ := bind_eq_ok.mp hrest
      exact ⟨place, hplace, (Except.ok.inj hset).symm⟩
  · have hdiffers : (withoutEndSlashes p != p) = true := by simpa using hnamed
    simp only [write, hdiffers, if_true] at h
    split at h
    all_goals
      obtain ⟨place, -, hrest⟩ := bind_eq_ok.mp h
      split at hrest
      · exact absurd hrest throw_bind_ne_ok
      · obtain ⟨-, -, hthrow⟩ := bind_eq_ok.mp hrest
        exact absurd hthrow throw_bind_ne_ok

theorem content?_eq_some : t.content? p = some content ↔
    ∃ place, t.resolve p = .ok place ∧ t.files.lookup place = some content := by
  rw [content?]
  cases t.resolve p with
  | error e => simp
  | ok place => simp

/-- What has been written can be read. -/
theorem content?_of_write (h : t.write p content = .ok t') : t'.content? p = some content := by
  obtain ⟨place, hplace, rfl⟩ := exists_of_write h
  exact content?_eq_some.mpr
    ⟨place, (keeps_set t place content).resolve hplace, Entries.lookup_set_self⟩

/-- Writing a file leaves those of other names in the directory as they are. -/
theorem content?_of_write_of_ne (ha : Path.Plain a) (hb : Path.Plain b) (hne : a ≠ b)
    (h : t.content? (Path.join directory a) = some content)
    (hwrite : t.write (Path.join directory b) content' = .ok t') :
    t'.content? (Path.join directory a) = some content := by
  obtain ⟨place, hplace, hfile⟩ := content?_eq_some.mp h
  obtain ⟨place', hplace', rfl⟩ := exists_of_write hwrite
  have hplaces := ne_of_resolve_join ha hb hne hplace hplace'
  refine content?_eq_some.mpr ⟨place, (keeps_set t place' content').resolve hplace, ?_⟩
  exact (Entries.lookup_set_of_ne hplaces).trans hfile

end FileTree

/-! ## Work on files -/

theorem returns_changeFiles {change : FileTree → Except FileError FileTree} {t t' : FileTree}
    {u : Unit} : Returns (changeFiles change) t u t' ↔ change t = .ok t' := by
  rw [changeFiles, returns_get_bind, returns_bind]
  constructor
  · rintro ⟨changed, s, hchanged, hset⟩
    obtain ⟨hchange, rfl⟩ := returns_liftExcept.mp hchanged
    cases hset
    exact hchange
  · intro hchange
    exact ⟨t', t, returns_liftExcept.mpr ⟨hchange, rfl⟩, rfl⟩

end GeneticRepair
