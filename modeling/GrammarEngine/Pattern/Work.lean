import GrammarEngine.Pattern.Bracket
import GrammarEngine.Pattern.Dialect

/-!
# What has been read of a pattern

`Work` is what has been read of one group of a pattern, and its mode says what the next character is
part of. A character either stays within the group, opens a group, closes it, or ends a group that
only switches flags.

In verbose mode blanks and comments are skipped where `skipping` is written.
-/

namespace GrammarEngine

/-- What an escape is part of. -/
inductive Site
  | outside
  /-- An item of a bracket. -/
  | item (outer : List Bracket) (b : Bracket)
  /-- The end of a range in a bracket. -/
  | rangeEnd (outer : List Bracket) (b : Bracket) (lo : Atom)

/-- How far a bracket is read. -/
inductive BracketMode
  /-- Nothing yet; a caret negates. -/
  | opened
  /-- Nothing but the caret; a closing bracket would be a member. -/
  | first
  /-- Hyphens at the beginning, which are members. -/
  | hyphens
  /-- Between two items. -/
  | items
  /-- A character that is an operator if it is doubled. -/
  | single (c : Char)
  /-- An item, which may begin a range. -/
  | item (a : Atom)
  /-- An item and a hyphen; `spaced` if blanks followed. -/
  | range (a : Atom) (spaced : Bool)

/-- How far a count is read. A number is `closed` once blanks have followed it. -/
inductive CountMode
  | least (n : Option Nat) (closed : Bool)
  | comma (least : Nat)
  | most (least : Nat) (n : Option Nat) (closed : Bool)

/-- How far the head of a group is read. -/
inductive GroupMode
  /-- The parenthesis. -/
  | opened
  /-- The question mark. -/
  | query
  /-- `?P`. -/
  | letter
  /-- `?<`. -/
  | angle
  /-- A name, the latest character first. -/
  | name (back : List Char)
  /-- Flags: those in force by now, the letters seen, and whether the hyphen came, and came last. -/
  | flags (f : Flags) (seen : List Char) (off last : Bool)

/-- What the next character is part of. -/
inductive Mode
  | base
  /-- A comment, up to the end of the line. -/
  | comment (back : Mode)
  /-- A repetition, which a question mark makes lazy; `spaced` if blanks may come before it. -/
  | greed (least : Nat) (most : Option Nat) (spaced : Bool)
  | count (m : CountMode)
  | group (m : GroupMode)
  | escape (site : Site)
  /-- An escape of a code point: a brace, or so many digits. -/
  | hex (site : Site) (digits : Nat)
  | hexDigits (site : Site) (left value : Nat) (byte : Bool)
  | hexBrace (site : Site) (value : Option Nat)
  | property (site : Site) (negate : Bool)
  | propertyName (site : Site) (negate : Bool) (back : List Char)
  /-- `\b`, which braces may qualify. -/
  | edge
  | edgeName (back : List Char)
  | bracket (outer : List Bracket) (b : Bracket) (m : BracketMode)

/-- The mode after skipped blanks. -/
def Mode.spaced : Mode → Mode
  | .bracket outer b (.range a _) => .bracket outer b (.range a true)
  | m => m

/-- Whether the head of a group is being read, or a comment in one. -/
def Mode.inHead : Mode → Bool
  | .group _ => true
  | .comment back => back.inHead
  | _ => false

def Mode.inComment : Mode → Bool
  | .comment _ => true
  | _ => false

/-- A part of a branch: a tree, or flags, which cannot be repeated. -/
inductive Item
  | tree (t : Leveled)
  | flags

def Item.tree? : Item → Option Tree
  | .tree t => some t.tree
  | .flags => none

def Item.depth : Item → Nat
  | .tree t => t.depth
  | .flags => 0

/-- What has been read of a group. Lists have the latest first. -/
structure Work where
  branches : List Leveled := []
  items : List Item := []
  flags : Flags := {}
  /-- The names of all groups so far. -/
  names : List String := []
  mode : Mode := .base

/-- One step of reading. -/
abbrev Read := Except PatternError (Action Work)

namespace Work

def within (w : Work) (m : Mode) : Read := .ok (.stay { w with mode := m })

/-- In verbose mode skip a blank or begin a comment; otherwise go on. -/
def skipping (w : Work) (c : Char) (go : Read) : Read :=
  if w.flags.verbose && Text.isBlank c then w.within w.mode.spaced
  else if w.flags.verbose && c == '#' then w.within (.comment w.mode)
  else go

/-! ## Trees -/

/-- Add a tree of so many levels. -/
def push (w : Work) (t : Tree) (depth : Nat := 0) : Work :=
  { w with items := .tree ⟨t, depth⟩ :: w.items }

/-- The branch that is being read. -/
def branch (w : Work) : Leveled where
  tree := .cats (w.items.reverse.filterMap Item.tree?)
  depth := Leveled.levels (w.items.map Item.depth)

/-- All branches. -/
def tree (w : Work) : Tree :=
  match ((w.branch :: w.branches).map Leveled.tree).reverse with
  | [] => .empty
  | t :: ts => .alts t ts

/-- All branches, with their levels. -/
def leveled (w : Work) : Leveled where
  tree := w.tree
  depth := Leveled.levels ((w.branch :: w.branches).map Leveled.depth)

/-- Go on behind a group. -/
def resume (w inner : Work) : Work :=
  { w.push inner.tree (inner.leveled.depth + 1) with names := inner.names }

/-- Switch flags from here on. -/
def switch (f : Flags) (w : Work) : Work := { w with flags := f, items := .flags :: w.items }

/-- A character as a tree. -/
def literal (w : Work) (c : Char) : Except PatternError Work :=
  if w.flags.caseless && !w.flags.unicode && 0x80 ≤ c.toNat then .error .needsUnicode
  else .ok (w.push (.set (w.flags.folded (.single c))))

/-- An atom outside brackets. -/
def atom (w : Work) : Atom → Except PatternError Work
  | .char c => w.literal c
  | .set s => .ok (w.push (.set s))
  | .look l => .ok (w.push (.look l))

/-- Check that there is something to repeat. -/
def repeatable (w : Work) : Except PatternError Work :=
  match w.items with
  | .tree _ :: _ => .ok w
  | _ => .error .missingOperand

/-- Repeat the last item. -/
def rep (w : Work) (least : Nat) (most : Option Nat) (greedy : Bool) : Except PatternError Work :=
  match w.items with
  | .tree t :: items =>
    let rounds := .rep (greedy != w.flags.swapGreed) t.tree least most
    .ok { w with items := .tree ⟨rounds, t.depth + 1⟩ :: items }
  | _ => .error .missingOperand

end Work

end GrammarEngine
