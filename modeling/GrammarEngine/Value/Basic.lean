import GrammarEngine.Value.Binary64

/-!
# Values

The values that parsers yield: one type for all of them, with pairs, lists, optional values and
values tagged by the side of a choice. `text` flattens a value into text and `total` adds up its
integers.
-/

namespace GrammarEngine

/-- The signs that stand between numbers and words. -/
inductive Sign
  | plus | minus | star | slash | opening | closing
deriving DecidableEq, Inhabited

def Sign.text : Sign → String
  | .plus => "+"
  | .minus => "-"
  | .star => "*"
  | .slash => "/"
  | .opening => "("
  | .closing => ")"

/-- An element of already tokenised input. -/
inductive Token
  | num (n : Int64)
  | word (s : String)
  | sign (s : Sign)
deriving DecidableEq, Inhabited

def Token.text : Token → String
  | .num n => toString n.toInt
  | .word s => s
  | .sign s => s.text

/-- A value yielded by a parser. -/
inductive Value
  | unit
  | bool (b : Bool)
  | int (n : Int64)
  | float (x : Binary64)
  | str (s : String)
  | list (vs : List Value)
  | pair (a b : Value)
  | absent
  | present (v : Value)
  | left (v : Value)
  | right (v : Value)
  | token (t : Token)
deriving Inhabited

namespace Value

mutual

/-- The texts of the parts, in order. -/
def text : Value → String
  | .unit => ""
  | .bool b => if b then "true" else "false"
  | .int n => toString n.toInt
  | .float x => x.hex
  | .str s => s
  | .list vs => textOfList vs
  | .pair a b => text a ++ text b
  | .absent => ""
  | .present v => text v
  | .left v => text v
  | .right v => text v
  | .token t => t.text

def textOfList : List Value → String
  | [] => ""
  | v :: vs => text v ++ textOfList vs

end

mutual

/-- The sum, modulo 2 ^ 64, of the integers inside. Numbers inside tokens do not count. -/
def total : Value → Int64
  | .int n => n
  | .list vs => totalOfList vs
  | .pair a b => total a + total b
  | .present v => total v
  | .left v => total v
  | .right v => total v
  | .unit | .bool _ | .float _ | .str _ | .absent | .token _ => 0

def totalOfList : List Value → Int64
  | [] => 0
  | v :: vs => total v + totalOfList vs

end

mutual

/-- Equality of structure, in which floating-point numbers are compared as numbers. -/
def equal : Value → Value → Bool
  | .unit, .unit => true
  | .bool a, .bool b => a == b
  | .int a, .int b => a == b
  | .float a, .float b => a.equal b
  | .str a, .str b => a == b
  | .list a, .list b => equalLists a b
  | .pair a b, .pair c d => equal a c && equal b d
  | .absent, .absent => true
  | .present a, .present b => equal a b
  | .left a, .left b => equal a b
  | .right a, .right b => equal a b
  | .token a, .token b => a == b
  | _, _ => false

def equalLists : List Value → List Value → Bool
  | [], [] => true
  | a :: as, b :: bs => equal a b && equalLists as bs
  | _, _ => false

end

/-- The value out of either side of a choice. -/
def inner : Value → Value
  | .left v => v
  | .right v => v
  | v => v

end Value

end GrammarEngine
