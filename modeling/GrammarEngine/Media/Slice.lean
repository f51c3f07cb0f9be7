import GrammarEngine.Input.Medium
import GrammarEngine.Text.Quoted

/-!
# Slices

A slice is a list of elements of some kind, each of width one. Its terminals are a given element,
any element and any number.
-/

namespace GrammarEngine

/-- A kind of elements: how one is told from others, and how it is yielded and written. -/
structure ElemKind where
  Elem : Type
  decEq : DecidableEq Elem
  /-- The element as a value. -/
  value : Elem → Value
  /-- The number that the element is, if it is one. -/
  number? : Elem → Option Int64
  /-- The element written out. -/
  written : Elem → String

/-- What is recognised in slices. -/
inductive SliceTerminal (K : ElemKind)
  | token (e : K.Elem)
  /-- Any one number. -/
  | number
  /-- Any one element. -/
  | element

namespace SliceTerminal

variable {K : ElemKind}

/-- The value that the terminal yields from the first element. -/
def value? : SliceTerminal K → K.Elem → Option Value
  | .token e, x => have := K.decEq; if x = e then some (K.value x) else none
  | .number, x => (K.number? x).map .int
  | .element, x => some (K.value x)

/-- Look at the first element that remains. -/
def look (t : SliceTerminal K) (c : View K.Elem) : Option (Value × Nat) :=
  match t with
  | .token e => have := K.decEq; (c.remaining.head?.filter (· = e)).map fun x => (K.value x, 1)
  | .number => (c.remaining.head?.bind K.number?).map fun n => (.int n, 1)
  | .element => c.remaining.head?.map fun x => (K.value x, 1)

def recognise (t : SliceTerminal K) : List K.Elem → Option (Value × Nat)
  | [] => none
  | x :: _ => (t.value? x).map fun v => (v, 1)

theorem look_eq (t : SliceTerminal K) (rest : List K.Elem) (length : Nat)
    (peek : Nat → Option (List K.Elem)) :
    t.look ⟨rest, length, peek⟩ =
      (t.recognise rest).map fun (v, n) => (v, Units.size (fun _ => 1) (rest.take n)) := by
  cases rest with
  | nil => cases t <;> rfl
  | cons x rest =>
    cases t with
    | token e =>
      have := K.decEq
      by_cases hx : x = e
      · subst hx
        simp only [look, recognise, value?, List.head?_cons, Option.filter_some, decide_true,
          if_true]
        rfl
      · simp only [look, recognise, value?, List.head?_cons, Option.filter_some, hx, decide_false,
          Bool.false_eq_true, if_false]
        rfl
    | number =>
      simp only [look, recognise, value?, List.head?_cons, Option.bind_some]
      cases K.number? x <;> rfl
    | element => rfl

def expectation : SliceTerminal K → String
  | .token e => "Expected token " ++ K.written e
  | .number => "Number expected"
  | .element => "Token expected"

end SliceTerminal

/-- Slices of elements of a kind. -/
abbrev slice (K : ElemKind) : Medium where
  Elem := K.Elem
  width _ := 1
  width_pos _ := Nat.one_pos
  Terminal := SliceTerminal K
  look := SliceTerminal.look
  recognise := SliceTerminal.recognise
  look_eq t rest length _ := t.look_eq rest length _
  expectation := SliceTerminal.expectation
  piece es := .list (es.map K.value)
  written es := "[" ++ ", ".intercalate (es.map K.written) ++ "]"

/-- The name of a sign. -/
def Sign.name : Sign → String
  | .plus => "Plus"
  | .minus => "Minus"
  | .star => "Star"
  | .slash => "Slash"
  | .opening => "Open"
  | .closing => "Close"

/-- A token written out. -/
def Token.written : Token → String
  | .num n => "Num(" ++ toString n.toInt ++ ")"
  | .word s => "Word(" ++ Text.quoted s ++ ")"
  | .sign s => s.name

namespace ElemKind

/-- Integers of 64 bits. -/
abbrev integers : ElemKind where
  Elem := Int64
  decEq := inferInstance
  value := .int
  number? n := some n
  written n := toString n.toInt

/-- Characters, which are yielded as text. -/
abbrev characters : ElemKind where
  Elem := Char
  decEq := inferInstance
  value c := .str c.toString
  number? _ := none
  written := Text.quotedChar

/-- Texts. -/
abbrev strings : ElemKind where
  Elem := String
  decEq := inferInstance
  value := .str
  number? _ := none
  written := Text.quoted

/-- Tokens. -/
abbrev tokens : ElemKind where
  Elem := Token
  decEq := inferInstance
  value := .token
  number?
    | .num n => some n
    | _ => none
  written := Token.written

end ElemKind

end GrammarEngine
