import GeneticRepair.Text.Lines
import Mathlib.Tactic.Common

/-!
# Lines of files

Lines without line boundaries are the lines of the file that holds them, blank ones included, and
no others are. Whatever a file holds, its lines have no boundaries, so that nothing is lost when they
are written again.
-/

namespace GeneticRepair.Text

variable {c : Char} {cs line : List Char} {lines : List String}

/-- The line does not end before its last character. -/
def Unbroken (line : String) : Prop :=
  ∀ c ∈ line.toList, isLineBoundary c = false

instance (line : String) : Decidable (Unbroken line) :=
  List.decidableBAll (isLineBoundary · = false) line.toList

private theorem ne_carriageReturn (h : isLineBoundary c = false) : c ≠ '\r' := by
  rintro rfl
  exact absurd h (by decide)

private theorem unifyNewlines_cons (h : c ≠ '\r') :
    unifyNewlines (c :: cs) = c :: unifyNewlines cs := by
  rw [unifyNewlines, if_neg (by simpa using h)]
  intro _ hc
  exact absurd hc h

private theorem unifyNewlines_eq_self (h : ∀ c ∈ cs, c ≠ '\r') : unifyNewlines cs = cs := by
  induction cs with
  | nil => rfl
  | cons c cs ih =>
    rw [unifyNewlines_cons (h c List.mem_cons_self), ih fun d hd => h d (List.mem_cons_of_mem c hd)]

private theorem splitChars_cons (h : isLineBoundary c = false) :
    splitChars (c :: cs) = consChar c (splitChars cs) := by
  rw [splitChars, if_neg (by simp [h])]
  intro _ hc
  exact absurd hc (ne_carriageReturn h)

private theorem splitChars_lineFeed : splitChars ('\n' :: cs) = [] :: splitChars cs := by
  rw [splitChars, if_pos (by decide)]
  intro _ hc
  cases hc

private theorem splitChars_append (h : ∀ c ∈ line, isLineBoundary c = false) :
    splitChars (line ++ '\n' :: cs) = line :: splitChars cs := by
  induction line with
  | nil => exact splitChars_lineFeed
  | cons c line ih =>
    have hrest := ih fun d hd => h d (List.mem_cons_of_mem c hd)
    rw [List.cons_append, splitChars_cons (h c List.mem_cons_self), hrest, consChar]

private theorem toList_endLines_cons (line : String) (lines : List String) :
    (endLines (line :: lines)).toList = line.toList ++ '\n' :: (endLines lines).toList := by
  simp [endLines, String.join_cons]

private theorem splitLines_endLines (h : ∀ line ∈ lines, Unbroken line) :
    splitLines (endLines lines) = lines := by
  induction lines with
  | nil => rfl
  | cons line lines ih =>
    have hrest := ih fun l hl => h l (List.mem_cons_of_mem line hl)
    rw [splitLines] at hrest ⊢
    rw [toList_endLines_cons, splitChars_append (h line List.mem_cons_self), List.map_cons, hrest,
      String.ofList_toList]

private theorem mem_endLines (h : ∀ line ∈ lines, Unbroken line) :
    ∀ c ∈ (endLines lines).toList, c ≠ '\r' := by
  induction lines with
  | nil => simp [endLines]
  | cons line lines ih =>
    intro c hc
    rw [toList_endLines_cons, List.mem_append, List.mem_cons] at hc
    rcases hc with hc | rfl | hc
    · exact ne_carriageReturn (h line List.mem_cons_self c hc)
    · decide
    · exact ih (fun l hl => h l (List.mem_cons_of_mem line hl)) c hc

private theorem decodeSource_toUTF8 (s : String) : decodeSource s.toUTF8 = s.toList := by
  have hdecoded : String.fromUTF8? s.toUTF8 = some s := by
    rw [String.fromUTF8?, String.toUTF8_eq_toByteArray, dif_pos s.isValidUTF8]
    rfl
  rw [decodeSource, hdecoded]

/-- What is written as lines is read as these lines. -/
theorem readLines_writeLines (h : ∀ line ∈ lines, Unbroken line) :
    readLines (writeLines lines) = lines := by
  rw [readLines, readSource, writeLines, decodeSource_toUTF8, unifyNewlines_eq_self (mem_endLines h),
    String.ofList_toList, splitLines_endLines h]

/-! ## Lines of any file -/

private theorem mem_consChar {lines : List (List Char)} (hc : isLineBoundary c = false)
    (hlines : ∀ line ∈ lines, ∀ d ∈ line, isLineBoundary d = false) :
    ∀ line ∈ consChar c lines, ∀ d ∈ line, isLineBoundary d = false := by
  cases lines with
  | nil =>
    intro line hline d hd
    rw [List.mem_singleton.mp hline, List.mem_singleton] at hd
    rw [hd, hc]
  | cons first lines =>
    obtain ⟨hfirst, hlines⟩ := List.forall_mem_cons.mp hlines
    exact List.forall_mem_cons.mpr ⟨List.forall_mem_cons.mpr ⟨hc, hfirst⟩, hlines⟩

private theorem mem_splitChars (cs : List Char) :
    ∀ line ∈ splitChars cs, ∀ c ∈ line, isLineBoundary c = false := by
  fun_induction splitChars cs with
  | case1 => simp
  | case2 cs ih => simpa using ih
  | case3 c cs hnot hboundary ih => simpa using ih
  | case4 c cs hnot hboundary ih =>
    exact mem_consChar (Bool.eq_false_iff.mpr hboundary) ih

private theorem unbroken_of_mem_splitLines {s line : String} (h : line ∈ splitLines s) :
    Unbroken line := by
  obtain ⟨cs, hcs, rfl⟩ := List.mem_map.mp h
  intro c hc
  rw [String.toList_ofList] at hc
  exact mem_splitChars s.toList cs hcs c hc

/-- The lines that are read from a file are unbroken, in whichever way it is decoded. -/
theorem unbroken_of_mem_readLines {bytes : ByteArray} {line : String}
    (h : line ∈ readLines bytes) : Unbroken line :=
  unbroken_of_mem_splitLines h

/-- Written and read again, lines are the same if none of them is broken, and only then. The lines
of a file, whatever its bytes are, are unbroken, and so survive being written. -/
theorem lines_survive :
    (∀ lines, readLines (writeLines lines) = lines ↔ ∀ line ∈ lines, Unbroken line) ∧
      ∀ bytes, (∀ line ∈ readLines bytes, Unbroken line) ∧
        readLines (writeLines (readLines bytes)) = readLines bytes := by
  have hread : ∀ bytes, ∀ line ∈ readLines bytes, Unbroken line :=
    fun bytes line => unbroken_of_mem_readLines
  refine ⟨fun lines => ⟨fun heq => ?_, readLines_writeLines⟩, fun bytes => ⟨hread bytes, ?_⟩⟩
  · rw [← heq]
    exact hread (writeLines lines)
  · exact readLines_writeLines (hread bytes)

/-- Blank lines survive. A file that is no UTF-8 has other lines as Latin-1 than its bytes suggest:
the byte `0x85` is a boundary there. -/
theorem lines_survive_of_latin1 :
    readLines (writeLines ["", "  ", "x"]) = ["", "  ", "x"] ∧
      readLines ⟨#[0xe9, 0x85, 0x0d, 0x0a, 0x78]⟩ = ["é", "", "x"] ∧
      readLines (writeLines (readLines ⟨#[0xe9, 0x85, 0x0d, 0x0a, 0x78]⟩)) = ["é", "", "x"] := by
  have hlines : readLines ⟨#[0xe9, 0x85, 0x0d, 0x0a, 0x78]⟩ = ["é", "", "x"] := by
    decide +kernel
  refine ⟨(lines_survive.1 _).mpr (by decide), hlines, ?_⟩
  rw [(lines_survive.2 _).2, hlines]

end GeneticRepair.Text
