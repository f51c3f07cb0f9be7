import GrammarEngine.Pattern.Work

/-!
# Members of a bracketed set

The characters between brackets: members, ranges, inner brackets and the operators between sets. A
hyphen is a member where it can begin no range, and a closing bracket is one where it stands first.
-/

namespace GrammarEngine.Work

/-- The closing bracket. -/
def closeBracket (w : Work) (outer : List Bracket) (b : Bracket) : Read :=
  match outer with
  | [] => do (w.push (.set (← b.close w.flags)) (b.depth + 1)).within .base
  | o :: outer => do
    let (s, depth) ← b.inner w.flags
    w.within (.bracket outer (o.insert s depth) .items)

/-- A character between two items of a bracket. -/
def bracketItems (w : Work) (outer : List Bracket) (b : Bracket) (c : Char) : Read :=
  { w with mode := .bracket outer b .items }.skipping c <|
    match c with
    | '[' => w.within (.bracket (b :: outer) {} .opened)
    | ']' => w.closeBracket outer b
    | '&' | '-' | '~' => w.within (.bracket outer b (.single c))
    | '\\' => w.within (.escape (.item outer b))
    | _ => w.within (.bracket outer b (.item (.char c)))

/-- A character at the beginning of a bracket, after the caret if there is one. -/
def bracketFirst (w : Work) (outer : List Bracket) (b : Bracket) (m : BracketMode) (c : Char) :
    Read :=
  { w with mode := .bracket outer b m }.skipping c <|
    match m, c with
    | _, '-' => do w.within (.bracket outer (← b.add w.flags (.char '-')) .hyphens)
    | .first, ']' => do w.within (.bracket outer (← b.add w.flags (.char ']')) .items)
    | _, _ => w.bracketItems outer b c

/-- A character after an item: a hyphen may make it a range. -/
def bracketItem (w : Work) (outer : List Bracket) (b : Bracket) (a : Atom) (c : Char) : Read :=
  { w with mode := .bracket outer b (.item a) }.skipping c <|
    if c == '-' then w.within (.bracket outer b (.range a false))
    else do w.bracketItems outer (← b.add w.flags a) c

/-- A character after an item and a hyphen. -/
def bracketRange (w : Work) (outer : List Bracket) (b : Bracket) (a : Atom) (spaced : Bool)
    (c : Char) : Read :=
  w.skipping c <|
    match c with
    | ']' => do
      let b ← b.add w.flags a
      w.closeBracket outer (← b.add w.flags (.char '-'))
    | '-' => do
      let b ← b.add w.flags a
      if spaced then w.within (.bracket outer b (.range (.char '-') false))
      else w.within (.bracket outer (b.operate w.flags .diff) .items)
    | '\\' => w.within (.escape (.rangeEnd outer b a))
    | _ => do w.within (.bracket outer (← b.addRange w.flags a (.char c)) .items)

/-- A character in a bracket. -/
def bracket (w : Work) (outer : List Bracket) (b : Bracket) (m : BracketMode) (c : Char) : Read :=
  let b := { b with raw := c :: b.raw }
  match m with
  | .opened =>
    { w with mode := .bracket outer b .opened }.skipping c <|
      if c == '^' then w.within (.bracket outer { b with negated := true } .first)
      else w.bracketFirst outer b .first c
  | .first => w.bracketFirst outer b .first c
  | .hyphens => w.bracketFirst outer b .hyphens c
  | .items => w.bracketItems outer b c
  | .single d =>
    if c == d then w.within (.bracket outer (b.operate w.flags (.ofChar d)) .items)
    else w.bracketItem outer b (.char d) c
  | .item a => w.bracketItem outer b a c
  | .range a spaced =>
    { w with mode := .bracket outer b (.range a spaced) }.bracketRange outer b a spaced c

end GrammarEngine.Work
