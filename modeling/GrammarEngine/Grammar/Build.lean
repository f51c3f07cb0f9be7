import GrammarEngine.Grammar.Description
import GrammarEngine.Media.Slice
import GrammarEngine.Parser.Number

/-!
# Building grammars

Building a description turns its nodes into parsers and numbers its cells: each deferred node and
each reference gets one. A pattern that does not compile, wherever it stands, leaves the grammar
unbuilt. So all patterns are compiled before any cell is built, and the factories have their parsers
at hand.
-/

namespace GrammarEngine

/-- Why a description cannot be built. -/
inductive BuildError
  | pattern (e : PatternError)
  | unknownRule (name : String)
deriving DecidableEq

/-- What a cell will hold. -/
inductive Entry (M : Medium)
  | parser (p : Parser M)
  | rule (name : String)

/-- Building with the cells numbered so far. -/
abbrev Build (M : Medium) := StateT (Array (Entry M)) (Except BuildError)

variable {M : Medium} {L : Type}

/-- A parser that goes through a new cell. -/
def Build.cell (e : Entry M) : Build M (Parser M) := do
  let cells ← get
  set (cells.push e)
  return .cell cells.size

/-- Build a node, with `leaf` to build the leaves. -/
def Node.build (leaf : L → Except BuildError (Parser M)) : Node L → Build M (Parser M)
  | .leaf l => leaf l
  | .succeed v => return .succeed v
  | .fail message => return .fail message
  | .map p f => return .map (← p.build leaf) f.apply
  | .tryMap p f => return .tryMap (← p.build leaf) fun v next => f.parser v next
  | .onValue p q => do
    let p ← p.build leaf
    let q ← q.build leaf
    return .tryMap p fun _ _ => q
  | .recover p f => return .recover (← p.build leaf) f.apply
  | .tryRecover p f => return .tryRecover (← p.build leaf) fun e => f.parser e
  | .onFailure p q => do
    let p ← p.build leaf
    let q ← q.build leaf
    return .tryRecover p fun _ => q
  | .both p q => return .both (← p.build leaf) (← q.build leaf)
  | .first p q => return .first (← p.build leaf) (← q.build leaf)
  | .second p q => return .second (← p.build leaf) (← q.build leaf)
  | .choice p q => return .choice (← p.build leaf) (← q.build leaf)
  | .tagged p q => return .tagged (← p.build leaf) (← q.build leaf)
  | .many p => return .many (← p.build leaf)
  | .opt p => return .opt (← p.build leaf)
  | .deferred p => do Build.cell (.parser (← p.build leaf))
  | .ref rule => Build.cell (.rule rule)
  | .wrapped p => return .wrapped (← p.build leaf)
  | .whole p => return .whole (← p.build leaf)

/-- The parser that a cell will hold. -/
def Entry.resolve (rules : List (String × Parser M)) : Entry M → Except BuildError (Parser M)
  | .parser p => .ok p
  | .rule name =>
    match rules.lookup name with
    | some p => .ok p
    | none => .error (.unknownRule name)

/-- Build the rules and the start, and then give the cells what they hold. -/
def Description.build (d : Description L) (leaf : L → Except BuildError (Parser M)) :
    Except BuildError (Grammar M × Parser M) := do
  let rules := d.rules.mapM fun (name, p) => return (name, ← p.build leaf)
  let ((rules, start), cells) ← (return (← rules, ← d.start.build leaf) : Build M _).run #[]
  return (⟨(← cells.mapM (Entry.resolve rules)).map .yields⟩, start)

/-- The leaves of descriptions over text. -/
inductive TextLeaf
  | literal (s : String)
  | pattern (p : String)
  | digit | digitText | integer | integerText | float | floatText
  | character

/-- Build a leaf over text. -/
def TextLeaf.build : TextLeaf → Except BuildError (Parser text)
  | .literal s => .ok (.terminal (.literal s))
  | .pattern p =>
    match Pattern.compile p with
    | .ok p => .ok (.terminal (.pattern p))
    | .error e => .error (.pattern e)
  | .digit => .ok Number.digit
  | .digitText => .ok Number.digitText
  | .integer => .ok Number.integer
  | .integerText => .ok Number.integerText
  | .float => .ok Number.float
  | .floatText => .ok Number.floatText
  | .character => .ok (.terminal .character)

/-- Build a leaf over slices. -/
def SliceTerminal.build {K : ElemKind} (t : SliceTerminal K) :
    Except BuildError (Parser (slice K)) := .ok (.terminal t)

end GrammarEngine
