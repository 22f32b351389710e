import GeneticRepair.Code.Statement
/-!
# Parts and their attributes

Whatever a step of a path can lead to is a part: a node, a term, a word or nothing. A part has
attributes, each under a name. Some of them are lists of further parts, which can be changed; a few
hold words that can only be looked at, and most have no positions at all.

A term put into a block becomes a loose node, and a simple statement put among terms becomes a term.
What fits nowhere is refused.
-/

namespace GeneticRepair.Code

inductive PathError where
  /-- A position lies outside its list, or the path is empty. -/
  | outOfRange
  /-- There is no attribute of that name. -/
  | noAttribute (field : Field)
  /-- Something has no positions, cannot be changed, or is asked for what is no position. -/
  | unsuited
  /-- A position is too large to be inserted at. -/
  | tooLarge
  /-- A word, or nothing, would stand where a node or a term has to. -/
  | misplacedWord
  /-- Something else would stand in a list of operators. -/
  | notOperator
  /-- Something else would stand in a list of words. -/
  | notWord
  deriving Repr, DecidableEq

inductive Part where
  | node (n : Node)
  | term (t : Term)
  | word (s : String)
  | absent

namespace Head

def patternKind? : Head → Option String
  | valuePattern => some "MatchValue"
  | singletonPattern _ => some "MatchSingleton"
  | sequencePattern => some "MatchSequence"
  | mappingPattern _ => some "MatchMapping"
  | classPattern _ => some "MatchClass"
  | starPattern _ => some "MatchStar"
  | bindingPattern _ => some "MatchAs"
  | orPattern => some "MatchOr"
  | _ => none

def kind : Head → String
  | name _ => "Name"
  | constant _ => "Constant"
  | joined => "JoinedStr"
  | interpolation _ => "FormattedValue"
  | tuple => "Tuple"
  | list => "List"
  | set => "Set"
  | dict _ => "Dict"
  | listComp => "ListComp"
  | setComp => "SetComp"
  | generator => "GeneratorExp"
  | dictComp => "DictComp"
  | clause _ => "comprehension"
  | connective _ => "BoolOp"
  | binary _ => "BinOp"
  | unary _ => "UnaryOp"
  | comparison _ => "Compare"
  | conditional => "IfExp"
  | assigned => "NamedExpr"
  | await => "Await"
  | yield => "Yield"
  | yieldFrom => "YieldFrom"
  | call _ => "Call"
  | keyword _ => "keyword"
  | .attribute _ => "Attribute"
  | subscript => "Subscript"
  | starred => "Starred"
  | slice .. => "Slice"
  | lambda => "Lambda"
  | parameters _ => "arguments"
  | parameter _ => "arg"
  | managed => "withitem"
  | imported .. => "alias"
  | operator op => op.name
  | statement l _ => l.kind
  | h => h.patternKind?.getD ""

def attributes : Head → List String
  | name _ => ["id", "ctx"]
  | constant _ => ["value", "kind"]
  | joined => ["values"]
  | interpolation _ => ["value", "conversion", "format_spec"]
  | tuple | list => ["elts", "ctx"]
  | set => ["elts"]
  | dict _ => ["keys", "values"]
  | listComp | setComp | generator => ["elt", "generators"]
  | dictComp => ["key", "value", "generators"]
  | clause _ => ["target", "iter", "ifs", "is_async"]
  | connective _ => ["op", "values"]
  | binary _ => ["left", "op", "right"]
  | unary _ => ["op", "operand"]
  | comparison _ => ["left", "ops", "comparators"]
  | conditional => ["test", "body", "orelse"]
  | assigned => ["target", "value"]
  | await | yield | yieldFrom => ["value"]
  | call _ => ["func", "args", "keywords"]
  | keyword _ => ["arg", "value"]
  | .attribute _ => ["value", "attr", "ctx"]
  | subscript => ["value", "slice", "ctx"]
  | starred => ["value", "ctx"]
  | slice .. => ["lower", "upper", "step"]
  | lambda => ["args", "body"]
  | managed => ["context_expr", "optional_vars"]
  | imported .. => ["name", "asname"]
  | _ => []

def hasSpan : Head → Bool
  | clause _ | managed | operator _ => false
  | _ => true

def word? : Head → String → Option String
  | name id, "id" => some id
  | constant (.text cs _), "value" => some (String.ofList (cs.map Char.ofNat))
  | constant (.text _ true), "kind" => some "u"
  | keyword (some w), "arg" => some w
  | .attribute w, "attr" => some w
  | imported w _, "name" => some w
  | imported _ (some w), "asname" => some w
  | _, _ => none

/-- Which of the children form the list under a name: the first of them, and how many. -/
def listAt? : Head → Nat → String → Option (Nat × Nat)
  | tuple, count, "elts" | list, count, "elts" | set, count, "elts" => some (0, count)
  | joined, count, "values" | connective _, count, "values" => some (0, count)
  | dict keyed, count, "values" => some (keyed.countP id, count - keyed.countP id)
  | listComp, count, "generators" | setComp, count, "generators"
  | generator, count, "generators" => some (1, count - 1)
  | dictComp, count, "generators" | clause _, count, "ifs" => some (2, count - 2)
  | comparison _, count, "comparators" => some (1, count - 1)
  | call positional, _, "args" => some (1, positional)
  | call positional, count, "keywords" => some (1 + positional, count - 1 - positional)
  | _, _, _ => none

def resize (length : Nat) : Head → String → Head
  | call _, "args" => call length
  | h, _ => h

end Head

namespace Label

def attributes : Label → List String
  | module => ["body", "type_ignores"]
  | function .. => ["name", "args", "body", "decorator_list", "returns", "type_comment"]
  | classDef .. => ["name", "bases", "keywords", "body", "decorator_list"]
  | returning | expression => ["value"]
  | delete => ["targets"]
  | assign => ["targets", "value", "type_comment"]
  | augmented _ => ["target", "op", "value"]
  | annotated _ => ["target", "annotation", "value", "simple"]
  | forLoop _ => ["target", "iter", "body", "orelse", "type_comment"]
  | whileLoop | conditional => ["test", "body", "orelse"]
  | withBlock _ => ["items", "body", "type_comment"]
  | matching => ["subject", "cases"]
  | raise => ["exc", "cause"]
  | tryBlock _ => ["body", "handlers", "orelse", "finalbody"]
  | assertion => ["test", "msg"]
  | importing | global _ | nonlocal _ => ["names"]
  | importFrom .. => ["module", "names", "level"]
  | pass | breakLoop | continueLoop | loose => []
  | handler _ => ["type", "name", "body"]
  | matchCase => ["pattern", "guard", "body"]

def word? : Label → String → Option String
  | function name .., "name" | classDef name .., "name" => some name
  | importFrom source _, "module" => if source.isEmpty then none else some source
  | handler (some name), "name" => some name
  | _, _ => none

def listAt? : Label → Nat → String → Option (Nat × Nat)
  | function _ _ decorators, _, "decorator_list" => some (1, decorators)
  | classDef _ bases _, _, "bases" => some (0, bases)
  | classDef _ bases keywords, _, "keywords" => some (bases, keywords)
  | classDef _ bases keywords, count, "decorator_list" =>
    some (bases + keywords, count - (bases + keywords))
  | delete, count, "targets" | withBlock _, count, "items" | importing, count, "names"
  | importFrom .., count, "names" => some (0, count)
  | assign, count, "targets" => some (0, count - 1)
  | _, _, _ => none

def resize (length : Nat) : Label → String → Label
  | function name isAsync _, "decorator_list" => function name isAsync length
  | classDef name _ keywords, "bases" => classDef name length keywords
  | classDef name bases _, "keywords" => classDef name bases length
  | l, _ => l

end Label

def spanAttributes : List String := ["lineno", "col_offset", "end_lineno", "end_col_offset"]

inductive Attribute where
  /-- Parts that can be changed. -/
  | list (ps : List Part)
  /-- Words that can be looked at. -/
  | fixed (words : List String)
  /-- Something without positions. -/
  | value

/-- The attributes of anything, apart from its lists: the names of its attributes and of those that
tell where it stands, the words it has, and the rest. -/
def plainAttribute (attributes spans : List String) (word : Option String) (name : String) :
    Option Attribute :=
  match word with
  | some w => some (.fixed (w.toList.map String.singleton))
  | none =>
    if name == "_fields" then some (.fixed attributes)
    else if name == "_attributes" then some (.fixed spans)
    else if attributes.contains name || spans.contains name then some .value
    else none

def replaceSlice (ts : List Term) (start length : Nat) (new : List Term) : List Term :=
  ts.take start ++ new ++ ts.drop (start + length)

def Node.toPart : Node → Part
  | .mk .loose _ [t] .. => .term t
  | n => .node n

def Term.toPart : Term → Part
  | .node (.statement l endLine) line ts => .node (.simple l ⟨line, endLine⟩ ts)
  | t => .term t

namespace Part

def kind : Part → String
  | node n => n.label.kind
  | term t => t.head.kind
  | word _ => "str"
  | absent => "NoneType"

def toNode : Part → Except PathError Node
  | node n => return n
  | term t => return .simple .loose default [t]
  | word _ | absent => throw .misplacedWord

def toTerm : Part → Except PathError Term
  | node n =>
    if n.label.fields.isEmpty then
      return .node (.statement n.label n.span.endLine) n.span.line n.terms
    else throw .misplacedWord
  | term t => return t
  | word _ | absent => throw .misplacedWord

def toWord : Part → Except PathError String
  | word s => return s
  | _ => throw .notWord

def toOperator : Part → Except PathError Operator
  | term (.node (.operator op) ..) => return op
  | _ => throw .notOperator

/-- The keys of a dictionary, each absent where a mapping is unpacked. -/
def ofKeys : List Bool → List Term → List Part
  | true :: keyed, t :: ts => t.toPart :: ofKeys keyed ts
  | true :: keyed, [] => absent :: ofKeys keyed []
  | false :: keyed, ts => absent :: ofKeys keyed ts
  | [], _ => []

def toKeys : List Part → Except PathError (List Bool × List Term)
  | [] => return ([], [])
  | absent :: ps => do
    let (keyed, ts) ← toKeys ps
    return (false :: keyed, ts)
  | p :: ps => do
    let t ← p.toTerm
    let (keyed, ts) ← toKeys ps
    return (true :: keyed, t :: ts)

end Part

def Node.list? (n : Node) (field : Field) : Option (List Part) :=
  if n.hasBlock field then some ((n.rawBlock field).map Node.toPart)
  else match n.label, field.name with
    | .module, "type_ignores" => some []
    | .global names, "names" | .nonlocal names, "names" => some (names.map Part.word)
    | l, name => (l.listAt? n.terms.length name).map fun (start, length) =>
      ((n.terms.drop start).take length).map Term.toPart

def Node.setList (n : Node) (field : Field) (ps : List Part) : Except PathError Node := do
  if n.hasBlock field then return n.setBlock field (← ps.mapM Part.toNode)
  else match n with
    | .mk l s ts b o h f c =>
      match l, field.name with
      | .global _, "names" => return .mk (.global (← ps.mapM Part.toWord)) s ts b o h f c
      | .nonlocal _, "names" => return .mk (.nonlocal (← ps.mapM Part.toWord)) s ts b o h f c
      | l, name =>
        match l.listAt? ts.length name with
        | some (start, length) =>
          let new ← ps.mapM Part.toTerm
          return .mk (l.resize new.length name) s (replaceSlice ts start length new) b o h f c
        | none => throw .misplacedWord

def Term.list? : Term → String → Option (List Part)
  | .node h line ts, name =>
    match h, name with
    | .comparison ops, "ops" => some (ops.map fun op => .term (.node (.operator op) line []))
    | .dict keyed, "keys" => some (Part.ofKeys keyed (ts.take (keyed.countP id)))
    | h, name => (h.listAt? ts.length name).map fun (start, length) =>
      ((ts.drop start).take length).map Term.toPart

def Term.setList (t : Term) (name : String) (ps : List Part) : Except PathError Term := do
  match t with
  | .node h line ts =>
    match h, name with
    | .comparison _, "ops" => return .node (.comparison (← ps.mapM Part.toOperator)) line ts
    | .dict keyed, "keys" =>
      let (flags, keys) ← Part.toKeys ps
      return .node (.dict flags) line (replaceSlice ts 0 (keyed.countP id) keys)
    | h, name =>
      match h.listAt? ts.length name with
      | some (start, length) =>
        let new ← ps.mapM Part.toTerm
        return .node (h.resize new.length name) line (replaceSlice ts start length new)
      | none => throw .misplacedWord

namespace Part

def list? : Part → Field → Option (List Part)
  | node n, field => n.list? field
  | term t, field => t.list? field.name
  | _, _ => none

def get (p : Part) (field : Field) : Except PathError Attribute :=
  match p.list? field, p, field with
  | _, _, .nameless => throw .unsuited
  | some ps, _, _ => return .list ps
  | none, node n, field =>
    match plainAttribute n.label.attributes (if n.label.hasSpan then spanAttributes else [])
      (n.label.word? field.name) field.name with
    | some a => return a
    | none => throw (.noAttribute field)
  | none, term t, field =>
    match plainAttribute t.head.attributes (if t.head.hasSpan then spanAttributes else [])
      (t.head.word? field.name) field.name with
    | some a => return a
    | none => throw (.noAttribute field)
  | none, _, field => throw (.noAttribute field)

def setList (p : Part) (field : Field) (ps : List Part) : Except PathError Part := do
  match p with
  | node n => return node (← n.setList field ps)
  | term t => return term (← t.setList field.name ps)
  | _ => throw .misplacedWord

end Part

end GeneticRepair.Code
