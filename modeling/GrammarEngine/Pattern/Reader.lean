import GrammarEngine.Pattern.Escape
import GrammarEngine.Pattern.Members

/-!
# Reading patterns

`Work.step` reads a character within a group. With it patterns are read in `Pattern.dialect`, and
this and the search for expressions make up the engine that patterns are compiled with.
-/

namespace GrammarEngine

namespace Work

/-- What the next character does. -/
def step (w : Work) (c : Char) : Read :=
  match w.mode with
  | .base => w.base c
  | .comment back => if c == '\n' then w.within back.spaced else w.within (.comment back)
  | .greed least most spaced => w.greed least most spaced c
  | .count m => w.count m c
  | .group m => w.group m c
  | .escape site => w.escape site c
  | .hex site digits => w.hex site digits c
  | .hexDigits site left value byte => w.hexDigits site left value byte c
  | .hexBrace site value => w.hexBrace site value c
  | .property site negate => w.property site negate c
  | .propertyName site negate back => w.propertyName site negate back c
  | .edge => w.edge c
  | .edgeName back => w.edgeName back c
  | .bracket outer b m => w.bracket outer b m c

/-- What has been read, if the text may end in this mode. -/
def finishIn (w : Work) : Mode → Except PatternError Work
  | .base => .ok w
  | .comment back => w.finishIn back
  | .greed least most _ => w.rep least most true
  | .edge => .ok w.boundary
  | .count _ | .edgeName _ => .error .badCount
  | .group _ => .error .unclosedGroup
  | .bracket _ _ _ => .error .unclosedBracket
  | .escape _ | .hex _ _ | .hexDigits _ _ _ _ | .hexBrace _ _ | .property _ _
  | .propertyName _ _ _ => .error .unfinishedEscape

/-- What has been read of a group that may end here. -/
def ended (w : Work) : Except PatternError Work := do
  return { (← w.finishIn w.mode) with mode := .base }

end Work

namespace Pattern

/-- The dialect in which patterns are read. -/
def dialect : Dialect where
  Group := Work
  start := {}
  step := Work.step
  resume := Work.resume
  finish := Work.ended
  meaning w := w.leveled.toRegex
  inHead w := w.mode.inHead
  inComment w := w.mode.inComment
  caret := Work.push {} (.look .start)

/-- The engine that reads patterns in this dialect. -/
def engine : Engine where
  read := dialect.read
  find := Regex.find

/-- Compile a pattern with this engine. -/
def compile (p : String) : Except PatternError Pattern := engine.compile p

/-- The pattern of an expression, with its text. -/
def ofRegex (text : String) (r : Regex) : Pattern := ⟨text, r.find⟩

end Pattern

end GrammarEngine
