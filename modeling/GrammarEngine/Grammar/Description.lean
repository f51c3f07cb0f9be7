import GrammarEngine.Parser.Basic
import GrammarEngine.Value.Arithmetic
import GrammarEngine.Value.Transform

/-!
# Grammars described as data

A description names its rules and writes their parsers as trees, with references to rules and
without functions: what is done to values and failures is chosen from `Transform`, `Check`,
`Rescue` and `Remedy`.
-/

namespace GrammarEngine

/-- What to do after a value. -/
inductive Check
  /-- Fail if the value is one of these. -/
  | reject (values : List Value) (message : String)
  /-- Move on. -/
  | forward (n : Nat)
  /-- Move on and fail. -/
  | fail (message : String) (n : Nat)
  /-- Fail if the value is an integer out of these bounds. -/
  | range (lo hi : Int64) (message : String)
  /-- Yield as many units as the value says. -/
  | take
  /-- Fail if input is left. -/
  | atEnd
  /-- Work off a chain of operations. -/
  | chain

/-- The parser that goes on after a value at its cursor. -/
def Check.parser {M : Medium} (v : Value) (next : Cursor M) : Check → Parser M
  | .reject values message =>
    if values.any v.equal then .fail (message ++ " " ++ v.text) else .succeed v
  | .forward n => .map (.advance n) fun _ => v
  | .fail message n => .second (.advance n) (.fail message)
  | .range lo hi message =>
    match v with
    | .int n => if n < lo || hi < n then .fail message else .succeed v
    | _ => .succeed v
  | .take =>
    match v with
    | .int n =>
      if n < 0 then .fail "Bad count"
      else
        match next.peek n.toInt.toNat with
        | some piece => .map (.advance n.toInt.toNat) fun _ => M.piece piece
        | none => .fail s!"Cannot take {n.toInt} of {next.length}"
    | _ => .fail "Bad count"
  | .atEnd => if next.isEmpty then .succeed v else .fail "End expected"
  | .chain =>
    match Arithmetic.chain v with
    | .ok n => .succeed (.int n)
    | .error e => .fail e.message

/-- What to do after a failure. -/
inductive Remedy
  | const (v : Value)
  /-- Fail with a message about the message. -/
  | fail (message : String)
  /-- Move on. -/
  | skip (n : Nat) (v : Value)
  /-- The value only for this message. -/
  | only (message : String) (v : Value)
  /-- Yield the message with its place. -/
  | full
  /-- The value only if input is left. -/
  | unlessEnd (v : Value)

/-- The parser that goes on after a failure at its cursor. -/
def Remedy.parser {M : Medium} (e : Failure M) : Remedy → Parser M
  | .const v => .succeed v
  | .fail message => .fail (message ++ " (" ++ e.message ++ ")")
  | .skip n v => .map (.advance n) fun _ => v
  | .only message v => if e.message = message then .succeed v else .fail e.message
  | .full => .succeed (.str e.full)
  | .unlessEnd v => if e.next.isEmpty then .fail e.message else .succeed v

/-- A parser as data, with leaves of type `L`. -/
inductive Node (L : Type)
  | leaf (l : L)
  | succeed (v : Value)
  | fail (message : String)
  | map (p : Node L) (f : Transform)
  | tryMap (p : Node L) (f : Check)
  /-- Run the second after a value, which is dropped. -/
  | onValue (p q : Node L)
  | recover (p : Node L) (f : Rescue)
  | tryRecover (p : Node L) (f : Remedy)
  /-- Run the second after a failure, which is dropped. -/
  | onFailure (p q : Node L)
  | both (p q : Node L)
  | first (p q : Node L)
  | second (p q : Node L)
  | choice (p q : Node L)
  | tagged (p q : Node L)
  | many (p : Node L)
  | opt (p : Node L)
  /-- A cell of its own for the parser. -/
  | deferred (p : Node L)
  /-- A cell of its own for the parser of a rule. -/
  | ref (rule : String)
  | wrapped (p : Node L)
  | whole (p : Node L)

/-- The rules of a grammar and the parser to begin with. -/
structure Description (L : Type) where
  rules : List (String × Node L)
  start : Node L

end GrammarEngine
