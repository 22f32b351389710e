import GeneticRepair.Proofs.Candidate.Directory
import GeneticRepair.Proofs.File.Growth
import GeneticRepair.Session.Basic

/-!
# Outcomes beside each other

A session saves its outcome in a directory that is numbered by the count of what is there already.
Nothing else changes. If the outcomes were numbered one after another, the directory is a new one.
Once an earlier outcome has been taken away, it can be that of a later one, whose files are then
replaced.
-/

namespace GeneticRepair

open FileTree (Grows)

variable {R : Type} {t t' t'' : FileTree} {patches : String}

/-! ## Candidates in directories of their own -/

namespace Candidate

variable {c : Candidate R} {directory : String}

/-- The two files of the candidate can be in one directory. -/
structure Named (c : Candidate R) : Prop where
  identity : '/' ∉ c.identity.toList
  filename : Path.Plain c.suite.filename

def places (c : Candidate R) (place : List String) : List (List String) :=
  [place ++ [c.identity ++ ".py"], place ++ [c.suite.filename]]

private theorem prefix_of_mem_places {place file : List String} (h : file ∈ c.places place) :
    place <+: file := by
  rcases List.mem_pair.mp h with rfl | rfl
  · exact List.prefix_append _ _
  · exact List.prefix_append _ _

private theorem save_grows (hc : c.Named) (hdirectory : Path.Direct directory) {u : Unit}
    (h : Returns (c.save directory) t u t') :
    Grows (Path.parts directory) (c.places (Path.parts directory)) t t' ∧
      t'.hasDirectory (Path.parts directory) = true := by
  obtain ⟨_, t₁, hmade, hrest⟩ := returns_bind.mp h
  obtain ⟨_, t₂, hprogram, htests⟩ := returns_bind.mp hrest
  obtain ⟨hgrows, hplace⟩ := FileTree.makeDirectories_grows hdirectory (returns_changeFiles.mp hmade)
  obtain ⟨hdirect, hparts⟩ := hdirectory.join (Path.plain_append_py hc.identity)
  obtain ⟨hdirect', hparts'⟩ := hdirectory.join hc.filename
  have hprogram : t₁.write _ _ = .ok t₂ := returns_changeFiles.mp hprogram
  have htests : t₂.write _ _ = .ok t' := returns_changeFiles.mp htests
  have hgrows₁ := FileTree.write_grows hdirect hprogram (Path.parts directory)
  have hgrows₂ := FileTree.write_grows hdirect' htests (Path.parts directory)
  rw [hparts] at hgrows₁
  rw [hparts'] at hgrows₂
  have hwritten := hgrows₁.trans hgrows₂ List.prefix_rfl
  rw [List.singleton_append] at hwritten
  exact ⟨hgrows.trans_nil hwritten List.prefix_rfl, hwritten.keeps _ hplace⟩

end Candidate

namespace Session

variable {r r' : SearchResult Quantity}

/-! ## Numbered outcomes -/

private theorem toList_outcomeName (n : Nat) (r : SearchResult Quantity) :
    ∃ status, (outcomeName n r).toList = Nat.toDigits 10 n ++ '_' :: status ∧ '/' ∉ status := by
  have hdigits : (toString n).toList = Nat.toDigits 10 n := by simp
  rw [outcomeName, String.toList_append, hdigits]
  split
  · exact ⟨"succeeded".toList, rfl, by decide⟩
  · exact ⟨"failed".toList, rfl, by decide⟩

private theorem plain_outcomeName (n : Nat) (r : SearchResult Quantity) :
    Path.Plain (outcomeName n r) := by
  obtain ⟨status, hchars, hstatus⟩ := toList_outcomeName n r
  have hunderscore : '_' ∈ (outcomeName n r).toList := by
    rw [hchars]
    exact List.mem_append_right _ List.mem_cons_self
  have hne : ∀ s : String, '_' ∉ s.toList → outcomeName n r ≠ s := by
    rintro s hs rfl
    exact hs hunderscore
  refine ⟨hne _ (by decide), hne _ (by decide), hne _ (by decide), ?_⟩
  rw [hchars, List.mem_append, List.mem_cons, not_or, not_or]
  refine ⟨fun hslash => ?_, by decide, hstatus⟩
  exact absurd (Nat.isDigit_of_mem_toDigits (by decide) (by decide) hslash) (by decide)

private theorem eq_of_outcomeName_eq {n m : Nat} (h : outcomeName n r = outcomeName m r') :
    n = m := by
  obtain ⟨status, hchars, -⟩ := toList_outcomeName n r
  obtain ⟨status', hchars', -⟩ := toList_outcomeName m r'
  rw [h, hchars'] at hchars
  have hdigits := congrArg (List.takeWhile (· != '_')) hchars
  have hall : ∀ k : Nat, ∀ status : List Char,
      (Nat.toDigits 10 k ++ '_' :: status).takeWhile (· != '_') = Nat.toDigits 10 k := by
    intro k status
    rw [List.takeWhile_append_of_pos, List.takeWhile_cons_of_neg (by simp), List.append_nil]
    intro c hc
    rw [bne_iff_ne]
    rintro rfl
    exact Nat.underscore_not_in_toDigits hc
  rw [hall, hall] at hdigits
  rw [← Nat.ofDigitChars_ten_toDigits (n := n), ← hdigits, Nat.ofDigitChars_ten_toDigits]

/-- Where the next outcome is saved. -/
def outcomePlace (t : FileTree) (patches : String) (r : SearchResult Quantity) : List String :=
  Path.parts patches ++ [outcomeName (t.list patches).length r]

private theorem saveResult_grows (hpatches : Path.Direct patches) (hr : r.candidate.Named)
    {u : Unit}
    (h : Returns (saveResult patches r) t u t') :
    Grows (outcomePlace t patches r) (r.candidate.places (outcomePlace t patches r)) t t' ∧
      t'.hasDirectory (outcomePlace t patches r) = true := by
  obtain ⟨_, t₁, hmade, hrest⟩ := returns_bind.mp h
  obtain ⟨hgrows, -⟩ := FileTree.makeDirectories_grows hpatches (returns_changeFiles.mp hmade)
  have hsave := returns_get_bind.mp hrest
  rw [hgrows.list_eq] at hsave
  obtain ⟨hdirect, hparts⟩ := hpatches.join (plain_outcomeName (t.list patches).length r)
  obtain ⟨hgrows', hplace⟩ := Candidate.save_grows hr hdirect hsave
  rw [hparts] at hgrows' hplace
  exact ⟨hgrows.trans_nil hgrows' (List.prefix_append _ _), hplace⟩

private theorem not_reaches_outcomePlace
    (hfresh : outcomeName (t.list patches).length r ∉ t.list patches) :
    ¬ t.Reaches (outcomePlace t patches r) :=
  fun hreaches => hfresh (FileTree.mem_list.mpr hreaches)

private theorem saveResult_spares (hpatches : Path.Direct patches) (hr : r.candidate.Named)
    (h : Returns (saveResult patches r) t () t')
    (hfresh : outcomeName (t.list patches).length r ∉ t.list patches) :
    t.hasDirectory (outcomePlace t patches r) = false ∧
      ∀ p content, t.content? p = some content → t'.content? p = some content := by
  obtain ⟨hgrows, -⟩ := saveResult_grows hpatches hr h
  have hbeyond := not_reaches_outcomePlace hfresh
  constructor
  · by_contra hdirectory
    rw [Bool.not_eq_false] at hdirectory
    exact hbeyond (FileTree.reaches_of_hasDirectory (by simp [outcomePlace]) hdirectory)
  · intro p content hcontent
    obtain ⟨place, hresolve, hlookup⟩ := FileTree.content?_eq_some.mp hcontent
    refine hgrows.content? hresolve (fun hplace => hbeyond ⟨place, ?_, ?_⟩) hcontent
    · obtain ⟨before, after, hfiles, -⟩ := List.lookup_eq_some_iff.mp hlookup
      simp [hfiles]
    · exact Candidate.prefix_of_mem_places hplace

variable {T G : Type} {s : Session T G}

/-- A session that is closed changes the two files of its outcome only. All files keep their contents
if no outcome has the name of the new one. -/
theorem close_spares (hresult : s.result = some r) (hpatches : Path.Direct s.patches)
    (hr : r.candidate.Named) (h : Returns s.close t () t') :
    t'.hasDirectory (outcomePlace t s.patches r) = true ∧ t.Keeps t' ∧
      (∀ p place content, t.resolve p = .ok place →
        place ∉ r.candidate.places (outcomePlace t s.patches r) →
          t.content? p = some content → t'.content? p = some content) ∧
      (outcomeName (t.list s.patches).length r ∉ t.list s.patches →
        t.hasDirectory (outcomePlace t s.patches r) = false ∧
          ∀ p content, t.content? p = some content → t'.content? p = some content) := by
  rw [close, hresult] at h
  obtain ⟨hgrows, hdirectory⟩ := saveResult_grows hpatches hr h
  exact ⟨hdirectory, hgrows.keeps, fun p place content hresolve hplace hcontent =>
    hgrows.content? hresolve hplace hcontent, fun hfresh => saveResult_spares hpatches hr h hfresh⟩

end Session

namespace SelfTested

def session : Session Unit Unit where
  patches := "/patches"
  settings := .defaults
  seed := candidate "test_prog.py"
  coverage := .empty
  localization := .empty
  search := .new (.new (.new ()) ())
  subscriptions := .none
  result := some ⟨candidate "test_prog.py", .ofInt 1, true, .ofInt 0, .ofInt 0⟩

/-- One earlier outcome is left, in a directory of the name. -/
def leftover (name : String) : FileTree :=
  .ofFiles [("/patches/" ++ name ++ "/prog.py", "x = 2\n".toUTF8)]

private theorem named : (candidate "test_prog.py").Named :=
  ⟨storable.identity, storable.filename⟩

end SelfTested

namespace Session

/-- The outcome after the first one is saved beside it. -/
theorem close_spares_first : ∃ t',
    Returns SelfTested.session.close (SelfTested.leftover "0_failed") () t' ∧
      t'.hasDirectory ["patches", "1_succeeded"] = true ∧
      t'.content? "/patches/0_failed/prog.py" = some "x = 2\n".toUTF8 := by
  have hsaved : (SelfTested.session.close.run.run (SelfTested.leftover "0_failed")).1.toBool =
      true := by
    decide +kernel
  obtain ⟨⟨⟩, t', hreturns⟩ := exists_returns hsaved
  obtain ⟨hdirectory, -, -, hfresh⟩ :=
    close_spares rfl ⟨by decide, by decide⟩ SelfTested.named hreturns
  have hplace : outcomePlace (SelfTested.leftover "0_failed") "/patches"
      ⟨SelfTested.candidate "test_prog.py", .ofInt 1, true, .ofInt 0, .ofInt 0⟩ =
        ["patches", "1_succeeded"] := by
    decide +kernel
  obtain ⟨-, hkept⟩ := hfresh (by decide +kernel)
  exact ⟨t', hreturns, hplace ▸ hdirectory, hkept _ _ (by decide +kernel)⟩

/-- The outcome after the second one replaces it if the first one has been taken away. -/
theorem close_replaces_second : ∃ t',
    Returns SelfTested.session.close (SelfTested.leftover "1_succeeded") () t' ∧
      (SelfTested.leftover "1_succeeded").hasDirectory ["patches", "1_succeeded"] = true ∧
      (SelfTested.leftover "1_succeeded").content? "/patches/1_succeeded/prog.py" =
        some "x = 2\n".toUTF8 ∧
      t'.content? "/patches/1_succeeded/prog.py" ≠ some "x = 2\n".toUTF8 := by
  have hsaved : (SelfTested.session.close.run.run (SelfTested.leftover "1_succeeded")).1.toBool =
      true := by
    decide +kernel
  have hreplaced : (SelfTested.session.close.run.run (SelfTested.leftover "1_succeeded")).2.content?
      "/patches/1_succeeded/prog.py" ≠ some "x = 2\n".toUTF8 := by
    decide +kernel
  obtain ⟨⟨⟩, t', hreturns⟩ := exists_returns hsaved
  rw [show _ = (Except.ok (), t') from hreturns] at hreplaced
  exact ⟨t', hreturns, by decide +kernel, by decide +kernel, hreplaced⟩

/-! ## Outcomes that are numbered one after another -/

/-- Whatever is in the directory is named as one of as many outcomes. -/
def Numbered (t : FileTree) (patches : String) : Prop :=
  ∀ name ∈ t.list patches, ∃ n r, n < (t.list patches).length ∧ name = outcomeName n r

/-- Outcomes are saved in a directory one after another. -/
inductive Saves (patches : String) : FileTree → FileTree → Prop
  | none {t : FileTree} : Saves patches t t
  | next {t t' t'' : FileTree} {r : SearchResult Quantity} (named : r.candidate.Named)
      (first : Returns (saveResult patches r) t () t') (rest : Saves patches t' t'') :
      Saves patches t t''

namespace Numbered

private theorem fresh (h : Numbered t patches) (r : SearchResult Quantity) :
    outcomeName (t.list patches).length r ∉ t.list patches := by
  intro hmem
  obtain ⟨n, r', hn, hname⟩ := h _ hmem
  exact absurd (eq_of_outcomeName_eq hname) hn.ne'

private theorem saveResult (h : Numbered t patches) (hpatches : Path.Direct patches)
    (hr : r.candidate.Named) (hsave : Returns (saveResult patches r) t () t') :
    Numbered t' patches := by
  obtain ⟨hgrows, hdirectory⟩ := saveResult_grows hpatches hr hsave
  have hmem : ∀ name, name ∈ t'.list patches ↔
      name ∈ t.list patches ∨ name = outcomeName (t.list patches).length r := fun name =>
    hgrows.mem_list_iff hdirectory fun _ => Candidate.prefix_of_mem_places
  have hperm : (t'.list patches).Perm
      (outcomeName (t.list patches).length r :: t.list patches) := by
    refine (List.perm_ext_iff_of_nodup (FileTree.nodup_list _ _) ?_).mpr fun name => ?_
    · exact List.nodup_cons.mpr ⟨h.fresh r, FileTree.nodup_list _ _⟩
    · rw [hmem, List.mem_cons, or_comm]
  intro name hname
  rw [hperm.length_eq, List.length_cons]
  rcases (hmem name).mp hname with hold | rfl
  · obtain ⟨n, r', hn, hname⟩ := h name hold
    exact ⟨n, r', by omega, hname⟩
  · exact ⟨_, r, Nat.lt_succ_self _, rfl⟩

/-- No outcome is lost as long as none is taken away. -/
theorem content?_of_saves (h : Numbered t patches) (hpatches : Path.Direct patches)
    (hsaves : Saves patches t t') {p : String} {content : ByteArray}
    (hcontent : t.content? p = some content) : t'.content? p = some content := by
  induction hsaves with
  | none => exact hcontent
  | next named first rest ih =>
    obtain ⟨-, hkept⟩ := saveResult_spares hpatches named first (h.fresh _)
    exact ih (h.saveResult hpatches named first) (hkept p content hcontent)

end Numbered

end Session

/-! ## Configured directories -/

namespace Config

variable {here : Surroundings} {directory : Option String} {o : Overrides} {v : Value} {c : Config}

private theorem of_require {holds : Bool} {m : Misconfiguration} {u : Unit}
    (h : require holds m = .ok u) : holds = true := by
  cases holds with
  | true => rfl
  | false => cases h

private theorem exists_of_resolve {name path found : String}
    (h : resolve directory name path = .ok found) :
    ∃ p, found = Path.normalize p := by
  unfold resolve at h
  split at h
  · exact ⟨path, (Except.ok.inj h).symm⟩
  · split at h
    · exact ⟨_, (Except.ok.inj h).symm⟩
    · cases h

private theorem exists_of_patchesOf {given : Option Value} {found : String}
    (h : patchesOf here directory given v = .ok found) : ∃ p, found = Path.normalize p := by
  unfold patchesOf at h
  dsimp only at h
  split at h
  · rw [pure_bind] at h
    exact exists_of_resolve h
  · exact absurd h FileTree.throw_bind_ne_ok
  · obtain ⟨_, -, hresolve⟩ := bind_eq_ok.mp h
    exact exists_of_resolve hresolve

/-- A session that is configured saves its outcome by a direct path. -/
theorem direct_patches (h : ofValue here directory o v = .ok c) : Path.Direct c.patches := by
  unfold ofValue at h
  simp only [bind_eq_ok] at h
  obtain ⟨_, -, _, -, patches, hpatches, _, -, _, -, _, -, _, -, _, -, _, -, _, -, _, -, _, -, _, -,
    _, -, _, -, _, -, _, -, _, habsolute, _, -, _, -, h⟩ := h
  obtain rfl := Except.ok.inj h
  obtain ⟨p, rfl⟩ := exists_of_patchesOf hpatches
  dsimp only
  exact Path.direct_normalize (of_require habsolute)

end Config

end GeneticRepair
