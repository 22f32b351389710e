import GeneticRepair.Number.Digits
import GeneticRepair.Text.Search
/-!
# Options

How the words of a command are told apart. A word that begins with a dash names an option, unless it
is a negative number or holds a blank; the long name of an option may be cut short as long as no
other option begins that way. Whatever follows two dashes is an operand.
-/

namespace GeneticRepair.CommandLine

inductive Argument where
  | flag
  | text
  | int
  | oneOf (words : List String)
  deriving DecidableEq

/-- An option, by its name behind two dashes, and by a letter behind one dash if it has one. -/
structure OptionSpec where
  name : String
  letter : Option Char
  argument : Argument
  deriving DecidableEq

inductive Interruption where
  | help
  | version
  | misuse
  deriving Repr, DecidableEq

def helpOption : OptionSpec :=
  ⟨"help", some 'h', .flag⟩

def versionOption : OptionSpec :=
  ⟨"version", none, .flag⟩

def quietOption : OptionSpec :=
  ⟨"quiet", some 'q', .flag⟩

def debugOption : OptionSpec :=
  ⟨"debug", some 'd', .flag⟩

inductive Word where
  | operand
  | terminator
  | option (o : OptionSpec) (value : Option String)
  /-- Flags by their letters. -/
  | letters (cs : List Char)
  | unknown
  | ambiguous
  deriving DecidableEq

def isDecimal (c : Char) : Bool :=
  (Text.decimalValue? c).isSome

/-- Digits, perhaps with a point before the last of them. -/
def isNumber (cs : List Char) : Bool :=
  match cs.dropWhile isDecimal with
  | [] => !cs.isEmpty
  | '.' :: places => !places.isEmpty && places.all isDecimal
  | _ => false

/-- A number behind a dash. An end of the line behind it does not count. -/
def isNegativeNumber : List Char → Bool
  | '-' :: cs => isNumber (if cs.getLast? = some '\n' then cs.dropLast else cs)
  | _ => false

def unmatched (cs : List Char) : Word :=
  if isNegativeNumber cs || cs.contains ' ' then .operand else .unknown

def longOption (specs : List OptionSpec) (cs : List Char) : Word :=
  let name := cs.takeWhile (· != '=')
  let value := (cs.dropWhile (· != '=')).tail?.map String.ofList
  match specs.find? (·.name.toList == name), specs.filter (name.isPrefixOf ·.name.toList) with
  | some o, _ => .option o value
  | none, [o] => .option o value
  | none, _ :: _ => .ambiguous
  | none, [] => unmatched ('-' :: '-' :: cs)

def furtherLetters : List Char → List Char
  | '=' :: c :: cs => c :: cs
  | cs => cs

def readWord (specs : List OptionSpec) (s : String) : Word :=
  match s.toList with
  | ['-', '-'] => .terminator
  | '-' :: '-' :: cs => longOption specs cs
  | '-' :: c :: cs =>
    match specs.find? (·.letter == some c), cs with
    | some o, [] => .option o none
    | some _, cs => .letters (c :: furtherLetters cs)
    | none, cs => unmatched ('-' :: c :: cs)
  | _ => .operand

structure Given where
  operands : List String
  /-- What was given for each option, by its name. -/
  values : List (String × String)
  /-- Whether some word named no option. -/
  unknown : Bool

namespace Given

def none : Given :=
  ⟨[], [], false⟩

def has (g : Given) (name : String) : Bool :=
  (g.values.lookup name).isSome

def text? (g : Given) (name : String) : Option String :=
  g.values.lookup name

def int? (g : Given) (name : String) : Option Int :=
  (g.text? name).bind Number.readInt?

def add (g : Given) (o : OptionSpec) (value : String) : Given :=
  { g with values := (o.name, value) :: g.values }

end Given

def takeFlag (o : OptionSpec) (g : Given) : Except Interruption Given :=
  if o = helpOption then throw .help
  else if o = versionOption then throw .version
  else return g.add o ""

def accepts : Argument → String → Bool
  | .flag, _ => false
  | .text, _ => true
  | .int, s => (Number.readInt? s).isSome
  | .oneOf words, s => words.contains s

def takeValue (o : OptionSpec) (value : String) (g : Given) : Except Interruption Given :=
  if accepts o.argument value then return g.add o value else throw .misuse

def takeLetters (specs : List OptionSpec) (cs : List Char) (g : Given) :
    Except Interruption Given := do
  let flags := cs.map fun c => specs.find? fun o => o.letter == some c && o.argument = .flag
  if flags.all Option.isSome then (flags.filterMap id).foldlM (fun g o => takeFlag o g) g
  else throw .misuse

def readWords (specs : List OptionSpec) : List String → Given → Except Interruption Given
  | [], g => return g
  | w :: ws, g =>
    match readWord specs w with
    | .terminator => return { g with operands := g.operands ++ ws }
    | .operand => readWords specs ws { g with operands := g.operands ++ [w] }
    | .unknown => readWords specs ws { g with unknown := true }
    | .ambiguous => throw .misuse
    | .letters cs => do readWords specs ws (← takeLetters specs cs g)
    | .option o (some value) => do readWords specs ws (← takeValue o value g)
    | .option o none =>
      if o.argument = .flag then do readWords specs ws (← takeFlag o g)
      else match ws with
        | value :: ws =>
          if readWord specs value = .operand then do readWords specs ws (← takeValue o value g)
          else throw .misuse
        | [] => throw .misuse

def anyAmbiguous (specs : List OptionSpec) (ws : List String) : Bool :=
  (ws.takeWhile (· != "--")).any fun w => readWord specs w = .ambiguous

/-- Reads the words of a command. No word may be ambiguous, wherever it stands. -/
def readGiven (specs : List OptionSpec) (ws : List String) : Except Interruption Given :=
  if anyAmbiguous specs ws then throw .misuse else readWords specs ws .none

end GeneticRepair.CommandLine
