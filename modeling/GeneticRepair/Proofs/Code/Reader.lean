import GeneticRepair.Code.Reader
import GeneticRepair.Proofs.Code.Lexer

/-!
# What readers do

Readers are followed by three judgements, each with a rule for every way in which a reader is made
of others; nothing is said of readers that fail. `Yields` bounds the values that a reader gives,
whatever tokens it reads. `Advances` says that it takes tokens from the front and puts none back.
`Adds` says that nodes begin on the lines of tokens, in the order of the tokens.
-/

namespace GeneticRepair.Code

/-! ## Passing tokens -/

/-- Tokens on the given lines are passed, in this order, before the rest is left. -/
def Covers (tokens : List Token) (ls : List Nat) (rest : List Token) : Prop :=
  ∃ taken, tokens = taken ++ rest ∧ ls.Sublist (taken.map Token.line)

/-- The lines are passed as soon as one more token is taken. -/
def Awaits (tokens : List Token) (ls : List Nat) (rest : List Token) : Prop :=
  ∀ t left, rest = t :: left → Covers tokens ls left

section

variable {tokens middle rest : List Token} {ks ls : List Nat} {t : Token}

theorem covers_of_suffix (h : rest <:+ tokens) : Covers tokens [] rest := by
  obtain ⟨taken, rfl⟩ := h
  exact ⟨taken, rfl, List.nil_sublist _⟩

theorem Covers.suffix (h : Covers tokens ls rest) : rest <:+ tokens := by
  obtain ⟨taken, rfl, -⟩ := h
  exact List.suffix_append taken rest

theorem Covers.trans (h : Covers tokens ks middle) (h' : Covers middle ls rest) :
    Covers tokens (ks ++ ls) rest := by
  obtain ⟨taken, rfl, hks⟩ := h
  obtain ⟨taken', rfl, hls⟩ := h'
  refine ⟨taken ++ taken', (List.append_assoc _ _ _).symm, ?_⟩
  rw [List.map_append]
  exact hks.append hls

theorem Awaits.of_suffix (h : Awaits tokens ls middle) (hrest : rest <:+ middle) :
    Awaits tokens ls rest := by
  rintro t left rfl
  obtain ⟨taken, rfl⟩ := hrest
  cases taken with
  | nil => exact h t left rfl
  | cons u taken =>
    have hleft : left <:+ taken ++ t :: left :=
      (List.suffix_cons t left).trans (List.suffix_append taken _)
    simpa using (h u _ rfl).trans (covers_of_suffix hleft)

theorem awaits_nil (h : rest <:+ []) : Awaits [] ls rest := by
  rintro t left rfl
  simp at h

private theorem covers_cons : Covers (t :: rest) [t.line] rest :=
  ⟨[t], rfl, List.Sublist.refl _⟩

theorem Covers.awaits (h : Covers tokens ls rest) : Awaits tokens ls rest := by
  rintro t left rfl
  simpa using h.trans (covers_of_suffix (List.suffix_cons t left))

theorem awaits_head (h : rest <:+ t :: tokens) : Awaits (t :: tokens) [t.line] rest := by
  rintro u left rfl
  obtain ⟨taken, htaken⟩ := h
  cases taken with
  | nil =>
    obtain ⟨rfl, rfl⟩ := List.cons.inj htaken
    exact covers_cons
  | cons t' taken =>
    obtain ⟨rfl, rfl⟩ := List.cons.inj htaken
    refine ⟨t' :: taken ++ [u], by simp, ?_⟩
    exact (List.nil_sublist _).cons_cons t'.line

theorem Covers.trans_awaits (h : Covers tokens ks middle) (h' : Awaits middle ls rest) :
    Awaits tokens (ks ++ ls) rest :=
  fun t left hrest => h.trans (h' t left hrest)

end

/-- The line of the next token. Behind the last one it is where the last token taken ends. -/
def Cursor.line (c : Cursor) : Nat :=
  (c.tokens.head?.map Token.line).getD c.lastLine

theorem Cursor.line_eq {c : Cursor} {t : Token} {rest : List Token} (h : c.tokens = t :: rest) :
    c.line = t.line := by
  rw [line, h]
  rfl

namespace Reader

variable {α β : Type} {P : α → Prop} {c c' : Cursor} {a : α} {l : Lexeme}

/-! ## Runs -/

theorem bind_eq_some {r : Reader β} {f : β → Reader α} :
    (r >>= f) c = some (a, c') ↔ ∃ b c₁, r c = some (b, c₁) ∧ f b c₁ = some (a, c') := by
  change (r c).bind (fun p => f p.1 p.2) = some (a, c') ↔ _
  simp only [Option.bind_eq_some_iff, Prod.exists]

theorem exists_of_loop {step : α → Reader (Option α)} {I : α → Cursor → Prop} {b : α}
    (hstep : ∀ a c b c', I a c → step a c = some (some b, c') → I b c') (ha : I a c)
    (h : loop step a c = some (b, c')) : ∃ c₁, I b c₁ ∧ step b c₁ = some (none, c') := by
  have hiterate : ∀ fuel a c, I a c → iterate step fuel a c = some (b, c') →
      ∃ c₁, I b c₁ ∧ step b c₁ = some (none, c') := by
    intro fuel
    induction fuel with
    | zero => exact fun a c _ hread => nomatch hread
    | succ fuel ih =>
      intro a c ha hread
      obtain ⟨o, c₁, ho, hrest⟩ := bind_eq_some.mp hread
      cases o with
      | none =>
        cases hrest
        exact ⟨c, ha, ho⟩
      | some a' => exact ih a' c₁ (hstep a c a' c₁ ha ho) hrest
  exact hiterate c.rounds a c ha h

theorem loop_invariant {step : α → Reader (Option α)} {I : α → Cursor → Prop} {b : α}
    (hstep : ∀ a c o c', I a c → step a c = some (o, c') → I (o.getD a) c') (ha : I a c)
    (h : loop step a c = some (b, c')) : I b c' := by
  obtain ⟨c₁, hb, hlast⟩ := exists_of_loop (fun a c b c' => hstep a c (some b) c') ha h
  exact hstep b c₁ none c' hb hlast

theorem tokens_of_accept (h : accept l c = some (true, c')) :
    ∃ t, c.tokens = t :: c'.tokens ∧ t.lexeme = l := by
  obtain ⟨next, c₁, hpeek, hrest⟩ := bind_eq_some.mp h
  obtain ⟨rfl, rfl⟩ : (c.tokens.head?.map Token.lexeme) = next ∧ c = c₁ := by
    cases hpeek
    exact ⟨rfl, rfl⟩
  split at hrest
  · rename_i heq
    obtain ⟨tokens, last, rounds⟩ := c
    cases tokens with
    | nil => cases heq
    | cons t tokens =>
      cases hrest
      exact ⟨t, rfl, by simpa using heq⟩
  · cases hrest

theorem tokens_of_expect {u : Unit} (h : expect l c = some (u, c')) :
    ∃ t, c.tokens = t :: c'.tokens ∧ t.lexeme = l := by
  obtain ⟨taken, c₁, haccept, hrest⟩ := bind_eq_some.mp h
  cases taken with
  | false => cases hrest
  | true =>
    cases hrest
    exact tokens_of_accept haccept

/-! ## Values -/

/-- Every value that the reader gives satisfies the predicate. -/
def Yields (r : Reader α) (P : α → Prop) : Prop :=
  ∀ c a c', r c = some (a, c') → P a

theorem yields_pure {a : α} (h : P a) : Yields (pure a) P := by
  intro c b c' hr
  cases hr
  exact h

theorem yields_failure : Yields (failure : Reader α) P := by
  intro c a c' hr
  cases hr

theorem Yields.bind {Q : β → Prop} {r : Reader β} {f : β → Reader α} (hr : Yields r Q)
    (hf : ∀ b, Q b → Yields (f b) P) : Yields (r >>= f) P := by
  intro c a c' h
  obtain ⟨b, c₁, hb, ha⟩ := bind_eq_some.mp h
  exact hf b (hr c b c₁ hb) c₁ a c' ha

theorem yields_lift {o : Option α} (h : ∀ a, o = some a → P a) :
    Yields (StateT.lift o : Reader α) P := by
  intro c a c' hr
  obtain ⟨b, hb, heq⟩ := Option.bind_eq_some_iff.mp hr
  cases heq
  exact h a hb

theorem yields_bind {r : Reader β} {f : β → Reader α} (hf : ∀ b, Yields (f b) P) :
    Yields (r >>= f) P := by
  have hr : Yields r fun _ => True := fun _ _ _ _ => trivial
  exact hr.bind fun b _ => hf b

theorem yields_ite {p : Prop} [Decidable p] {r s : Reader α} (hr : Yields r P) (hs : Yields s P) :
    Yields (if p then r else s) P := by
  split
  · exact hr
  · exact hs

theorem yields_ite_bind {Q : β → Prop} {p : Prop} [Decidable p] {r s : Reader β}
    {rest : β → Reader α} (hr : Yields r Q) (hs : Yields s Q)
    (hrest : ∀ b, Q b → Yields (rest b) P) :
    Yields (if p then r >>= rest else s >>= rest) P :=
  yields_ite (hr.bind hrest) (hs.bind hrest)

theorem yields_guard {p : Prop} [Decidable p] {rest : PUnit → Reader α}
    (h : ∀ u, Yields (rest u) P) :
    Yields (if p then rest () else failure >>= rest) P :=
  yields_ite (h ()) (yields_bind h)

theorem yields_loop {step : α → Reader (Option α)}
    (hstep : ∀ a, P a → Yields (step a) fun o => ∀ b, o = some b → P b) {a : α} (ha : P a) :
    Yields (loop step a) P := by
  intro c b c' h
  refine loop_invariant (I := fun a _ => P a) (fun a c o c' ha ho => ?_) ha h
  cases o with
  | none => exact ha
  | some b => exact hstep a ha c (some b) c' ho b rfl

theorem yields_commaTail {begins : Reader Bool} {item : Reader α} {first : α}
    (hitem : Yields item P) (hfirst : P first) :
    Yields (commaTail begins item first) fun found => ∀ a ∈ found.1, P a := by
  refine Yields.bind
    (yields_loop (P := fun found : List α × Bool => ∀ a ∈ found.1, P a) ?_ (by simpa)) ?_
  · rintro ⟨found, closed⟩ hfound
    refine yields_ite (yields_pure fun _ h => nomatch h) ?_
    refine yields_bind fun comma => yields_ite ?_ (yields_pure fun _ h => nomatch h)
    refine yields_bind fun more => yields_ite ?_ (yields_pure ?_)
    · refine hitem.bind fun a ha => yields_pure ?_
      rintro _ ⟨⟩
      exact List.forall_mem_cons.mpr ⟨ha, hfound⟩
    · rintro _ ⟨⟩
      exact hfound
  · rintro ⟨found, closed⟩ hfound
    exact yields_pure fun a ha => hfound a (List.mem_reverse.mp ha)

/-! ## Tokens that are left -/

/-- What the reader leaves is the rest of the tokens that it was given. -/
class Advances (r : Reader α) : Prop where
  suffix : ∀ {c a c'}, r c = some (a, c') → c'.tokens <:+ c.tokens

instance advances_pure {a : α} : Advances (pure a : Reader α) where
  suffix h := by
    cases h
    exact List.suffix_refl _

instance advances_failure : Advances (failure : Reader α) where
  suffix h := nomatch h

theorem advances_bind {r : Reader β} {f : β → Reader α} [hr : Advances r]
    (hf : ∀ b, Advances (f b)) : Advances (r >>= f) where
  suffix h := by
    obtain ⟨b, c₁, hb, ha⟩ := bind_eq_some.mp h
    exact ((hf b).suffix ha).trans (hr.suffix hb)

instance {r : Reader β} {f : β → Reader α} [Advances r] [hf : ∀ b, Advances (f b)] :
    Advances (r >>= f) :=
  advances_bind hf

theorem advances_ite {p : Prop} [Decidable p] {r s : Reader α} (hr : Advances r) (hs : Advances s) :
    Advances (if p then r else s) := by
  split
  · exact hr
  · exact hs

instance {p : Prop} [Decidable p] {r s : Reader α} [hr : Advances r] [hs : Advances s] :
    Advances (if p then r else s) :=
  advances_ite hr hs

instance {o : Option α} : Advances (StateT.lift o : Reader α) where
  suffix h := by
    obtain ⟨b, -, heq⟩ := Option.bind_eq_some_iff.mp h
    cases heq
    exact List.suffix_refl _

instance : Advances (get : Reader Cursor) where
  suffix h := by
    cases h
    exact List.suffix_refl _

instance : Advances skip where
  suffix {c a c'} h := by
    obtain ⟨tokens, last, rounds⟩ := c
    cases tokens with
    | nil => cases h
    | cons t tokens =>
      cases h
      exact List.suffix_cons t tokens

instance : Advances peek := by unfold peek; infer_instance

instance : Advances peekSecond := by unfold peekSecond; infer_instance

instance : Advances here := by unfold here; infer_instance

instance : Advances lastLine := by unfold lastLine; infer_instance

instance {l : Lexeme} : Advances (accept l) := by unfold accept; infer_instance

instance {l : Lexeme} : Advances (expect l) := by unfold expect; infer_instance

instance {s : String} : Advances (acceptSign s) := by unfold acceptSign; infer_instance

instance {s : String} : Advances (expectSign s) := by unfold expectSign; infer_instance

instance {w : String} : Advances (acceptWord w) := by unfold acceptWord; infer_instance

instance {w : String} : Advances (expectWord w) := by unfold expectWord; infer_instance

instance {s : String} : Advances (nextIsSign s) := by unfold nextIsSign; infer_instance

instance {w : String} : Advances (nextIsWord w) := by unfold nextIsWord; infer_instance

instance : Advances identifier := by
  unfold identifier
  refine advances_bind fun next => ?_
  split <;> infer_instance

instance {step : α → Reader (Option α)} [hstep : ∀ a, Advances (step a)] {fuel : Nat} {a : α} :
    Advances (iterate step fuel a) := by
  induction fuel generalizing a with
  | zero => exact advances_failure
  | succ fuel ih =>
    refine advances_bind fun o => ?_
    cases o with
    | none => exact advances_pure
    | some b => exact ih

instance {step : α → Reader (Option α)} [∀ a, Advances (step a)] {a : α} :
    Advances (loop step a) := by
  unfold loop
  infer_instance

instance {begins : Reader Bool} {item : Reader α} [Advances begins] [Advances item] :
    Advances (many begins item) := by
  unfold many
  infer_instance

instance {begins : Reader Bool} {item : Reader α} {first : α} [Advances begins] [Advances item] :
    Advances (commaTail begins item first) := by
  unfold commaTail
  infer_instance

instance {item : Reader α} [Advances item] : Advances (commaSeparated item) := by
  unfold commaSeparated
  infer_instance

instance {r : Reader α} [hr : Advances r] : Advances (attempt r) where
  suffix {c a c'} h := by
    unfold attempt at h
    split at h
    · rename_i b c₁ hb
      cases h
      exact hr.suffix hb
    · cases h
      exact List.suffix_refl _

/-! ## Lines of tokens -/

variable {F : α → List Nat → Prop} {G : β → List Nat → Prop} {pre : List Nat} {line : Nat}

/-- At a token on the given line, the reader takes tokens whose lines, behind those that were passed
before, belong to its value. -/
def AddsOn (line : Nat) (r : Reader α) (pre : List Nat) (F : α → List Nat → Prop) : Prop :=
  ∀ c a c', c.tokens.IsChain Token.Before → c.line = line → r c = some (a, c') →
    ∃ ls, F a (pre ++ ls) ∧ Covers c.tokens ls c'.tokens

/-- The same on every line. -/
abbrev Adds (r : Reader α) (pre : List Nat) (F : α → List Nat → Prop) : Prop :=
  ∀ line, AddsOn line r pre F

theorem addsOn_pure (h : F a pre) : AddsOn line (pure a) pre F := by
  intro c b c' _ _ hr
  cases hr
  exact ⟨[], by rwa [List.append_nil], covers_of_suffix (List.suffix_refl _)⟩

theorem addsOn_failure : AddsOn line (failure : Reader α) pre F := by
  intro c b c' _ _ hr
  cases hr

theorem AddsOn.trans {r : Reader β} {f : β → Reader α} (hr : AddsOn line r pre G)
    (hf : ∀ b ls, G b ls → Adds (f b) ls F) : AddsOn line (r >>= f) pre F := by
  intro c a c' hchain hline h
  obtain ⟨b, c₁, hb, ha⟩ := bind_eq_some.mp h
  obtain ⟨ks, hG, hks⟩ := hr c b c₁ hchain hline hb
  obtain ⟨ls, hF, hls⟩ := hf b _ hG _ c₁ a c' (hchain.suffix hks.suffix) rfl ha
  exact ⟨ks ++ ls, by rwa [← List.append_assoc], hks.trans hls⟩

theorem AddsOn.bind {r : Reader β} {f : β → Reader α} (hr : AddsOn line r [] G)
    (hf : ∀ b ls, G b ls → Adds (f b) (pre ++ ls) F) : AddsOn line (r >>= f) pre F := by
  have hframe : AddsOn line r pre fun b ls => ∃ ks, ls = pre ++ ks ∧ G b ks := by
    intro c b c' hchain hline hb
    obtain ⟨ks, hG, hks⟩ := hr c b c' hchain hline hb
    exact ⟨ks, ⟨ks, rfl, hG⟩, hks⟩
  refine hframe.trans ?_
  rintro b _ ⟨ks, rfl, hG⟩
  exact hf b ks hG

theorem addsOn_bind {r : Reader β} {f : β → Reader α} [hr : Advances r]
    (hf : ∀ b, Adds (f b) pre F) : AddsOn line (r >>= f) pre F := by
  intro c a c' hchain _ h
  obtain ⟨b, c₁, hb, ha⟩ := bind_eq_some.mp h
  have hsuffix := hr.suffix hb
  obtain ⟨ls, hF, hls⟩ := hf b _ c₁ a c' (hchain.suffix hsuffix) rfl ha
  exact ⟨ls, hF, (covers_of_suffix hsuffix).trans hls⟩

theorem addsOn_failure_bind {f : β → Reader α} : AddsOn line (failure >>= f) pre F := by
  intro c a c' _ _ h
  obtain ⟨b, c₁, hb, -⟩ := bind_eq_some.mp h
  cases hb

theorem addsOn_ite {p : Prop} [Decidable p] {r s : Reader α} (hr : AddsOn line r pre F)
    (hs : AddsOn line s pre F) : AddsOn line (if p then r else s) pre F := by
  split
  · exact hr
  · exact hs

theorem addsOn_guard {p : Prop} [Decidable p] {rest : PUnit → Reader α}
    (h : AddsOn line (rest ()) pre F) :
    AddsOn line (if p then rest () else failure >>= rest) pre F :=
  addsOn_ite h (addsOn_failure_bind)

theorem addsOn_ite_bind {p : Prop} [Decidable p] {r s : Reader β} {rest : β → Reader α}
    (hr : AddsOn line r [] G) (hs : AddsOn line s [] G)
    (hrest : ∀ b ls, G b ls → Adds (rest b) (pre ++ ls) F) :
    AddsOn line (if p then r >>= rest else s >>= rest) pre F :=
  addsOn_ite (hr.bind hrest) (hs.bind hrest)

theorem AddsOn.mono {r : Reader α} {F' : α → List Nat → Prop} (hr : AddsOn line r pre F)
    (h : ∀ a ls, F a ls → F' a ls) : AddsOn line r pre F' := by
  intro c a c' hchain hline hread
  obtain ⟨ls, hF, hls⟩ := hr c a c' hchain hline hread
  exact ⟨ls, h a _ hF, hls⟩

/-! ### The next token -/

theorem addsOn_peek {f : Option Lexeme → Reader α} (h : ∀ next, AddsOn line (f next) pre F) :
    AddsOn line (peek >>= f) pre F :=
  fun c a c' hchain hline hread => h _ c a c' hchain hline hread

theorem addsOn_here {f : Nat → Reader α} (h : AddsOn line (f line) pre F) :
    AddsOn line (here >>= f) pre F := by
  rintro c a c' hchain rfl hread
  exact h c a c' hchain rfl hread

theorem addsOn_skip {f : Unit → Reader α} (h : Adds (f ()) (pre ++ [line]) F) :
    AddsOn line (skip >>= f) pre F := by
  rintro ⟨tokens, last, rounds⟩ a c' hchain hline hread
  cases tokens with
  | nil => cases hread
  | cons t tokens =>
    obtain ⟨ls, hF, hls⟩ := h _ ⟨tokens, _, rounds⟩ a c' hchain.tail rfl hread
    obtain rfl : t.line = line := hline
    exact ⟨t.line :: ls, by simpa using hF, covers_cons.trans hls⟩

private theorem addsOn_accept {f : Bool → Reader α} (htrue : Adds (f true) (pre ++ [line]) F)
    (hfalse : AddsOn line (f false) pre F) : AddsOn line (accept l >>= f) pre F := by
  unfold accept
  simp only [bind_assoc]
  refine addsOn_peek fun next => ?_
  split
  · simp only [bind_assoc, pure_bind]
    exact addsOn_skip htrue
  · simp only [pure_bind]
    exact hfalse

theorem addsOn_accept_ite {r s : Reader α} (hr : Adds r (pre ++ [line]) F)
    (hs : AddsOn line s pre F) :
    AddsOn line (accept l >>= fun taken => if taken then r else s) pre F :=
  addsOn_accept (by simpa using hr) (by simpa using hs)

theorem addsOn_expect {f : Unit → Reader α} (h : Adds (f ()) (pre ++ [line]) F) :
    AddsOn line (expect l >>= f) pre F := by
  unfold expect
  simp only [bind_assoc]
  exact addsOn_accept (by simpa using h) (by simpa using addsOn_failure)

theorem addsOn_attempt {r : Reader β} {f : Option β → Reader α} (hr : AddsOn line r [] G)
    (hsome : ∀ b ls, G b ls → Adds (f (some b)) (pre ++ ls) F)
    (hnone : AddsOn line (f none) pre F) : AddsOn line (attempt r >>= f) pre F := by
  intro c a c' hchain hline h
  obtain ⟨o, c₁, ho, hread⟩ := bind_eq_some.mp h
  unfold attempt at ho
  split at ho
  · rename_i b c₂ hb
    cases ho
    obtain ⟨ks, hG, hks⟩ := hr c b c₁ hchain hline hb
    obtain ⟨ls, hF, hls⟩ := hsome b ks hG _ c₁ a c' (hchain.suffix hks.suffix) rfl hread
    exact ⟨ks ++ ls, by rwa [← List.append_assoc], hks.trans hls⟩
  · cases ho
    exact hnone c a c' hchain hline hread

/-! ### Repetitions -/

theorem addsOn_loop {step : α → Reader (Option α)}
    (hstep : ∀ a ls, F a ls → Adds (step a) ls fun o ls => F (o.getD a) ls) (ha : F a pre) :
    AddsOn line (loop step a) pre F := by
  intro c b c' hchain _ h
  refine loop_invariant (I := fun a c₁ => ∃ ls, F a (pre ++ ls) ∧ Covers c.tokens ls c₁.tokens)
    ?_ ⟨[], by rwa [List.append_nil], covers_of_suffix (List.suffix_refl _)⟩ h
  rintro a c₁ o c₂ ⟨ks, hF, hks⟩ ho
  obtain ⟨ls, hF', hls⟩ := hstep a _ hF _ c₁ o c₂ (hchain.suffix hks.suffix) rfl ho
  exact ⟨ks ++ ls, by rwa [← List.append_assoc], hks.trans hls⟩

end Reader

end GeneticRepair.Code
