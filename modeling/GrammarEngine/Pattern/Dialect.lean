import GrammarEngine.Pattern.Basic

/-!
# Dialects of patterns

A pattern is read one character at a time, and what a character does is decided by what has been
read of the group it stands in. A dialect says what that is, what a character does to it, and what a
group is read as in the end; `Reader.step` carries out what a character does to the groups around.
Reading a pattern is a fold of `Reader.step` over its characters.
-/

namespace GrammarEngine

/-- What a character does to the groups. -/
inductive Action (G : Type)
  | stay (g : G)
  | enter (parent child : G)
  | leave (g : G)
  /-- End a group that only changes the one around it. -/
  | switch (change : G → G)

/-- How patterns are read. -/
structure Dialect where
  /-- What has been read of a group. -/
  Group : Type
  /-- Nothing yet. -/
  start : Group
  step : Group → Char → Except PatternError (Action Group)
  /-- What has been read of a group once the group in it has ended. -/
  resume : Group → Group → Group
  /-- What has been read, if the text may end here. -/
  finish : Group → Except PatternError Group
  /-- The expression of all that has been read, unless it is beyond the limits. -/
  meaning : Group → Except PatternError Regex
  /-- Whether the head of the group is being read. -/
  inHead : Group → Bool
  /-- Whether a comment is being read. -/
  inComment : Group → Bool
  /-- A caret, and nothing else. -/
  caret : Group

/-- The group that is being read, and those around it, the innermost first. -/
structure Reader (D : Dialect) where
  parents : List D.Group
  current : D.Group

namespace Reader

variable {D : Dialect}

/-- Before the first character. -/
def start (D : Dialect) : Reader D := ⟨[], D.start⟩

/-- Carry out what a character does. -/
def act (r : Reader D) : Action D.Group → Except PatternError (Reader D)
  | .stay g => .ok { r with current := g }
  | .enter parent child => .ok ⟨parent :: r.parents, child⟩
  | .leave g =>
    match r.parents with
    | [] => .error .unopenedGroup
    | parent :: rest => .ok ⟨rest, D.resume parent g⟩
  | .switch change =>
    match r.parents with
    | [] => .error .unopenedGroup
    | parent :: rest => .ok ⟨rest, change parent⟩

/-- Read one character. -/
def step (r : Reader D) (c : Char) : Except PatternError (Reader D) := do
  r.act (← D.step r.current c)

/-- What has been read, if the text may end here. -/
def finish (r : Reader D) : Except PatternError D.Group :=
  match r.parents with
  | [] => D.finish r.current
  | _ :: _ => .error .unclosedGroup

end Reader

namespace Dialect

/-- What a whole text is read as. -/
def scan (D : Dialect) (text : List Char) : Except PatternError D.Group := do
  (← text.foldlM Reader.step (Reader.start D)).finish

/-- The expression of a text. -/
def read (D : Dialect) (text : String) : Except PatternError Regex := do
  D.meaning (← D.scan text.toList)

end Dialect

end GrammarEngine
