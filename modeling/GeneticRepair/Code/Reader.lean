import GeneticRepair.Code.Lexer
import GeneticRepair.Text.Normalization
/-!
# Reading tokens

A reader takes a value from the front of a list of tokens, or fails. The cursor also remembers the
line on which the last token that was taken ends; newlines and indentation do not count. Every round
of a repetition takes a token, so the number of tokens at the start bounds all repetitions.
-/

namespace GeneticRepair.Code

open GeneticRepair.Text

structure Cursor where
  tokens : List Token
  lastLine : Nat
  /-- A bound on the rounds of a repetition. -/
  rounds : Nat

abbrev Reader (α : Type) := StateT Cursor Option α

namespace Reader

variable {α : Type}

def run? (r : Reader α) (tokens : List Token) : Option α :=
  (StateT.run r ⟨tokens, 1, tokens.length + 1⟩).map Prod.fst

def peek : Reader (Option Lexeme) :=
  return (← get).tokens.head?.map Token.lexeme

def peekSecond : Reader (Option Lexeme) :=
  return (← get).tokens.tail.head?.map Token.lexeme

def here : Reader Nat := do
  let c ← get
  return (c.tokens.head?.map Token.line).getD c.lastLine

def lastLine : Reader Nat :=
  return (← get).lastLine

def isLayout : Lexeme → Bool
  | .newline | .indent | .dedent => true
  | _ => false

def skip : Reader Unit := do
  let c ← get
  match c.tokens with
  | [] => failure
  | t :: tokens =>
    set { c with tokens, lastLine := if isLayout t.lexeme then c.lastLine else t.endLine }

def accept (l : Lexeme) : Reader Bool := do
  if (← peek) == some l then
    skip
    return true
  else
    return false

def expect (l : Lexeme) : Reader Unit := do
  unless ← accept l do failure

def acceptSign (s : String) : Reader Bool :=
  accept (.sign s)

def expectSign (s : String) : Reader Unit :=
  expect (.sign s)

def acceptWord (w : String) : Reader Bool :=
  accept (.keyword w)

def expectWord (w : String) : Reader Unit :=
  expect (.keyword w)

def nextIsSign (s : String) : Reader Bool :=
  return (← peek) == some (.sign s)

def nextIsWord (w : String) : Reader Bool :=
  return (← peek) == some (.keyword w)

/-- The normal form of a name. Words with a meaning of their own are told from names before. -/
def identifier : Reader String := do
  match ← peek with
  | some (.name id) =>
    skip
    return normalName id
  | _ => failure

/-- The value of a reader, or nothing if it fails; a failing reader takes no tokens. -/
def attempt (r : Reader α) : Reader (Option α) :=
  fun c => match r c with
    | some (a, c) => some (some a, c)
    | none => some (none, c)

def iterate (step : α → Reader (Option α)) : Nat → α → Reader α
  | 0, _ => failure
  | fuel + 1, a => do
    match ← step a with
    | some b => iterate step fuel b
    | none => return a

def loop (step : α → Reader (Option α)) (a : α) : Reader α := do
  iterate step (← get).rounds a

def many (begins : Reader Bool) (item : Reader α) : Reader (List α) := do
  let found ← loop (fun found => do
    if ← begins then return some ((← item) :: found) else return none) []
  return found.reverse

/-- Items after the first one, each behind a comma. The flag tells whether a final comma with no
item behind it was taken. -/
def commaTail (begins : Reader Bool) (item : Reader α) (first : α) : Reader (List α × Bool) := do
  let (found, closed) ← loop (fun (found, closed) => do
    if closed then return none
    else if ← acceptSign "," then
      if ← begins then return some ((← item) :: found, false) else return some (found, true)
    else return none) ([first], false)
  return (found.reverse, closed)

def commaSeparated (item : Reader α) : Reader (List α) := do
  let first ← item
  many (acceptSign ",") item >>= fun rest => return first :: rest

end Reader

end GeneticRepair.Code
