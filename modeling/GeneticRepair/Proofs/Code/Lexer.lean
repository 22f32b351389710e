import GeneticRepair.Code.Lexer
import Mathlib.Data.List.Chain

/-!
# The order of tokens

Tokens come in the order of their lines, and what is indented is not empty: an `indent` is only made
in front of a token of its line.
-/

namespace GeneticRepair.Code

/-- How one token follows another: lines never decrease, and no block ends where it begins. -/
def Token.Before (t u : Token) : Prop :=
  t.line ≤ u.line ∧ (t.lexeme = .indent → u.lexeme ≠ .dedent)

namespace Lexer

variable {line line' fuel newlines : Nat} {i i' : Indentation} {joined : Option Nat}
  {cs rest : List Char} {l : Lexeme} {st : State} {found tokens : List Token}

/-! ## Indentation -/

private theorem spec_measure (h : measure line i joined cs = some (line', i', rest)) :
    line ≤ line' ∧ ∀ c ∈ rest.head?, isGap c = false ∧ c ≠ '\\' := by
  have hrest : ∀ cs : List Char, (∀ tail, cs = ' ' :: tail → False) →
      (∀ tail, cs = '\t' :: tail → False) → (∀ tail, cs = '\x0c' :: tail → False) →
      (∀ tail, cs = '\\' :: tail → False) → ∀ c ∈ cs.head?, isGap c = false ∧ c ≠ '\\' := by
    intro cs hblank htab hfeed hbackslash c hc
    cases cs with
    | nil => cases hc
    | cons d tail =>
      obtain rfl : d = c := by simpa using hc
      have hne : ∀ e, (∀ tail', d :: tail = e :: tail' → False) → d ≠ e := by
        rintro e he rfl
        exact he tail rfl
      simp [isGap, hne _ hblank, hne _ htab, hne _ hfeed, hne _ hbackslash]
  fun_induction measure line i joined cs with
  | case1 line i joined cs ih => exact ih h
  | case2 line i joined cs ih => exact ih h
  | case3 line i joined cs ih => exact ih h
  | case4 line i joined c cs first ih =>
    exact ⟨(Nat.le_succ line).trans (ih h).1, (ih h).2⟩
  | case5 => cases h
  | case6 line i cs hblank htab hfeed hbackslash w =>
    cases h
    exact ⟨Nat.le_refl _, hrest _ hblank htab hfeed hbackslash⟩
  | case7 line i cs hblank htab hfeed hbackslash =>
    cases h
    exact ⟨Nat.le_refl _, hrest _ hblank htab hfeed hbackslash⟩

private theorem not_begun_of_place {blocks enclosing : List Indentation} {ended : Nat}
    {begun : Bool}
    (h : place ⟨0, 0⟩ blocks = some (ended, begun, enclosing)) : begun = false := by
  induction blocks generalizing ended begun with
  | nil =>
    simp [place, place.placeIn] at h
    exact h.2.1
  | cons b blocks ih =>
    rw [place] at h
    split at h
    · obtain ⟨⟨ended', begun', enclosing'⟩, -, h⟩ := Option.bind_eq_some_iff.mp h
      dsimp only at h
      split at h
      · cases h
      · cases h
        rfl
    · unfold place.placeIn at h
      split at h
      · split at h
        · cases h
          rfl
        · cases h
      · simp at h

/-! ## Lexemes -/

private theorem lexeme_ne_layout (h : lexeme cs = some (l, rest, newlines)) :
    l ≠ .indent ∧ l ≠ .dedent := by
  unfold lexeme at h
  split at h
  · cases h
  · split at h
    · obtain ⟨⟨n, rest'⟩, -, h⟩ := Option.map_eq_some_iff.mp h
      cases h
      simp
    · dsimp only at h
      split at h
      · obtain ⟨body, -, h⟩ := Option.map_eq_some_iff.mp h
        cases h
        simp
      · split at h
        · obtain ⟨s, -, h⟩ := Option.map_eq_some_iff.mp h
          cases h
          simp
        · split at h
          · cases h
            simp
          · split at h
            · cases h
              simp
            · cases h

/-! ## Scanning -/

/-- A character that may begin a token. -/
def BeginsToken (c : Char) : Prop :=
  isGap c = false ∧ c ≠ '\\' ∧ c ≠ '#' ∧ c ≠ '\n'

/-- The tokens, last first, are in order up to the given line, and no `indent` comes last. -/
structure Settled (line : Nat) (found : List Token) : Prop where
  chain : found.IsChain fun u t => t.Before u
  line_le : ∀ t ∈ found.head?, t.line ≤ line
  ne_indent : ∀ t ∈ found.head?, t.lexeme ≠ .indent

/-- What has been found, last first, is in order. If an `indent` comes last, the text goes on with a
token of its line. -/
structure InOrder (st : State) (cs : List Char) (found : List Token) : Prop where
  chain : found.IsChain fun u t => t.Before u
  line_le : ∀ t ∈ found.head?, t.line ≤ st.line
  indent : ∀ t ∈ found.head?, t.lexeme = .indent →
    st.lineStart = false ∧ ∃ c ∈ cs.head?, BeginsToken c

private theorem Settled.inOrder (h : Settled st.line found) : InOrder st cs found :=
  ⟨h.chain, h.line_le, fun t ht hindent => absurd hindent (h.ne_indent t ht)⟩

private theorem Settled.mono (h : Settled line found) (hle : line ≤ line') : Settled line' found :=
  ⟨h.chain, fun t ht => (h.line_le t ht).trans hle, h.ne_indent⟩

private theorem InOrder.settled (h : InOrder st cs found)
    (hno : st.lineStart = true ∨ ∀ c ∈ cs.head?, ¬ BeginsToken c) : Settled st.line found := by
  refine ⟨h.chain, h.line_le, fun t ht hindent => ?_⟩
  obtain ⟨hstart, c, hc, hbegins⟩ := h.indent t ht hindent
  rcases hno with htrue | hno
  · rw [htrue] at hstart
    cases hstart
  · exact hno c hc hbegins

private theorem InOrder.cons {t : Token} (h : InOrder st cs found) (hline : t.line = st.line)
    (hindent : t.lexeme ≠ .indent) (hdedent : t.lexeme ≠ .dedent) :
    Settled st.line (t :: found) where
  chain := List.isChain_cons.mpr ⟨fun u hu => ⟨hline ▸ h.line_le u hu, fun _ => hdedent⟩, h.chain⟩
  line_le := by
    rintro _ ⟨⟩
    exact hline.le
  ne_indent := by
    rintro _ ⟨⟩
    exact hindent

private theorem Settled.dedents (h : Settled line found) (ended : Nat) :
    Settled line (List.replicate ended ⟨.dedent, line, line⟩ ++ found) := by
  induction ended with
  | zero => exact h
  | succ ended ih =>
    rw [List.replicate_succ, List.cons_append]
    refine ⟨List.isChain_cons.mpr ⟨fun u hu => ⟨ih.line_le u hu, fun hindent => ?_⟩, ih.chain⟩,
      ?_, ?_⟩
    · exact absurd hindent (ih.ne_indent u hu)
    · rintro _ ⟨⟩
      exact Nat.le_refl line
    · rintro _ ⟨⟩
      simp

private theorem Settled.indent {c : Char} (h : Settled st.line found)
    (hstart : st.lineStart = false)
    (hc : c ∈ cs.head?) (hbegins : BeginsToken c) :
    InOrder st cs (⟨.indent, st.line, st.line⟩ :: found) where
  chain := List.isChain_cons.mpr ⟨fun u hu => ⟨h.line_le u hu, fun _ => by simp⟩, h.chain⟩
  line_le := by
    rintro _ ⟨⟩
    exact Nat.le_refl st.line
  indent _ _ _ := ⟨hstart, c, hc, hbegins⟩

/-- The blocks that end or begin where a line is placed, with the tokens that tell so. -/
theorem Settled.inOrder_of_place {blocks enclosing : List Indentation} {ended : Nat} {begun : Bool}
    (h : Settled st.line found) (hstart : st.lineStart = false)
    (hcs : ∀ c ∈ cs.head?, BeginsToken c)
    (hplace : place (if cs.isEmpty then ⟨0, 0⟩ else i) blocks = some (ended, begun, enclosing)) :
    InOrder st cs (if begun then
        ⟨.indent, st.line, st.line⟩ :: (List.replicate ended ⟨.dedent, st.line, st.line⟩ ++ found)
      else List.replicate ended ⟨.dedent, st.line, st.line⟩ ++ found) := by
  have hdedents := h.dedents ended
  cases begun with
  | false => exact hdedents.inOrder
  | true =>
    cases cs with
    | nil => cases not_begun_of_place hplace
    | cons c tail => exact hdedents.indent hstart rfl (hcs c rfl)

private theorem not_beginsToken {c : Char} (h : cs.dropWhile isGap = c :: rest)
    (hc : ¬ BeginsToken c) :
    ∀ c ∈ cs.head?, ¬ BeginsToken c := by
  cases cs with
  | nil => cases h
  | cons d cs =>
    rintro _ ⟨⟩ hbegins
    rw [List.dropWhile_cons_of_neg (by simp [hbegins.1])] at h
    obtain ⟨rfl, -⟩ := List.cons.inj h
    exact hc hbegins

private theorem isChain_of_scan (hfound : InOrder st cs found)
    (h : scan fuel st cs found = some tokens) :
    tokens.IsChain fun u t => t.Before u := by
  induction fuel generalizing st cs found with
  | zero => cases h
  | succ fuel ih =>
    rw [scan] at h
    split at h
    · rename_i hstart
      obtain ⟨⟨line, i, rest⟩, hmeasure, h⟩ := Option.bind_eq_some_iff.mp h
      obtain ⟨hle, hrest⟩ := spec_measure hmeasure
      have hsettled := (hfound.settled (.inl hstart)).mono hle
      dsimp only at h
      split at h
      · exact ih (Settled.inOrder hsettled) h
      · split at h
        · exact ih (Settled.inOrder (hsettled.mono (Nat.le_succ line))) h
        · exact ih (Settled.inOrder (hsettled.mono (Nat.le_succ line))) h
        · rename_i hcomment hnewline
          obtain ⟨⟨ended, begun, blocks⟩, hplace, h⟩ := Option.bind_eq_some_iff.mp h
          have hbegins : ∀ c ∈ rest.head?, BeginsToken c := by
            intro c hc
            obtain ⟨tail, rfl⟩ := List.head?_eq_some_iff.mp hc
            obtain ⟨hgap, hbackslash⟩ := hrest c hc
            refine ⟨hgap, hbackslash, ?_, ?_⟩
            · rintro rfl
              exact hcomment tail rfl
            · rintro rfl
              exact hnewline tail rfl
          exact ih (Settled.inOrder_of_place hsettled rfl hbegins hplace) h
    · rename_i hstart
      split at h
      · rename_i hrest
        split at h
        · cases h
          exact hfound.chain
        · cases h
      · rename_i tail hrest
        have hsettled := hfound.settled (.inr (not_beginsToken hrest (by simp [BeginsToken])))
        exact ih (Settled.inOrder hsettled) h
      · rename_i tail hrest
        have hsettled := hfound.settled (.inr (not_beginsToken hrest (by simp [BeginsToken])))
        refine ih (Settled.inOrder ?_) h
        split
        · exact (hfound.cons rfl (by simp) (by simp)).mono (Nat.le_succ _)
        · exact hsettled.mono (Nat.le_succ _)
      · rename_i c tail hrest
        have hsettled := hfound.settled (.inr (not_beginsToken hrest (by simp [BeginsToken])))
        exact ih (Settled.inOrder (hsettled.mono (Nat.le_succ _))) h
      · obtain ⟨⟨lexeme, rest, newlines⟩, hlexeme, h⟩ := Option.bind_eq_some_iff.mp h
        obtain ⟨hindent, hdedent⟩ := lexeme_ne_layout hlexeme
        have htoken : Settled (st.line + newlines)
            (⟨lexeme, st.line, st.line + newlines⟩ :: found) :=
          (hfound.cons rfl hindent hdedent).mono (Nat.le_add_right _ _)
        dsimp only at h
        split at h
        · obtain ⟨brackets, -, h⟩ := Option.bind_eq_some_iff.mp h
          exact ih (Settled.inOrder htoken) h
        · exact ih (Settled.inOrder htoken) h

end Lexer

/-- The tokens of a program come in the order of their lines. -/
theorem isChain_of_tokenize {line : Nat} {cs : List Char} {tokens : List Token}
    (h : tokenize line cs = some tokens) : tokens.IsChain Token.Before := by
  obtain ⟨found, hfound, rfl⟩ := Option.map_eq_some_iff.mp h
  rw [List.isChain_reverse]
  exact Lexer.isChain_of_scan ⟨.nil, by simp, by simp⟩ hfound

end GeneticRepair.Code
