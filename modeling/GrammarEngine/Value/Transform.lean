import GrammarEngine.Value.Basic

/-!
# Changing values

The functions by which a grammar changes the values of its parsers. A function leaves alone what it
does not apply to.
-/

namespace GrammarEngine

/-- A function on values. -/
inductive Transform
  | identity
  | const (v : Value)
  /-- The bytes of a text, or the elements of a list. -/
  | len
  /-- The characters of a text. -/
  | chars
  | add (k : Int64)
  | mul (k : Int64)
  | text
  /-- The text after a label. -/
  | label (l : String)
  | total
  | fst
  | snd
  /-- A value in front of a list. -/
  | cons
  | isLeft
  | isRight
  | left
  | right
  | inner

def Transform.apply : Transform → Value → Value
  | .identity, v => v
  | .const v, _ => v
  | .len, .str s => .int (.ofNat s.utf8ByteSize)
  | .len, .list vs => .int (.ofNat vs.length)
  | .chars, .str s => .int (.ofNat s.length)
  | .add k, .int n => .int (n + k)
  | .mul k, .int n => .int (n * k)
  | .text, v => .str v.text
  | .label l, v => .str (l ++ v.text)
  | .total, v => .int v.total
  | .fst, .pair a _ => a
  | .snd, .pair _ b => b
  | .cons, .pair v (.list vs) => .list (v :: vs)
  | .isLeft, .left _ => .bool true
  | .isLeft, .right _ => .bool false
  | .isRight, .left _ => .bool false
  | .isRight, .right _ => .bool true
  | .left, .left v => .present v
  | .left, .right _ => .absent
  | .right, .left _ => .absent
  | .right, .right v => .present v
  | .inner, v => v.inner
  | _, v => v

/-- A value made of a message. -/
inductive Rescue
  | const (v : Value)
  /-- The message itself. -/
  | message
  /-- The bytes of the message. -/
  | len

def Rescue.apply : Rescue → String → Value
  | .const v, _ => v
  | .message, m => .str m
  | .len, m => .int (.ofNat m.utf8ByteSize)

end GrammarEngine
