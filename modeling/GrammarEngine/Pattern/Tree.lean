import GrammarEngine.Pattern.Flags

/-!
# Patterns as trees

A pattern as it is written, with its repetitions counted and not yet spelled out. `Tree.toRegex`
spells them out, and `Tree.weight` bounds beforehand what comes of it. How deeply the parts of a
pattern are nested, groups and brackets with them, is counted while it is read (`Leveled`).
-/

namespace GrammarEngine

/-- A pattern, with its repetitions counted. -/
inductive Tree
  | empty
  | set (s : CharSet)
  | look (l : Look)
  | cat (a b : Tree)
  | alt (a b : Tree)
  /-- From `least` rounds to `most`, or to any number. -/
  | rep (greedy : Bool) (x : Tree) (least : Nat) (most : Option Nat)
deriving DecidableEq

/-- How many states an automaton takes for a table of so many ranges, roughly: in a long table,
ranges share states. -/
def tableWeight (ranges : Nat) : Nat := 1 + min ranges 56 + ranges / 3

/-- How many states an automaton takes for one character with the property, roughly. -/
def CharProperty.weight : CharProperty → Nat
  | any | ascii | blank | joinControl => 16
  | letter | lower | upper | word | category .cn => 300
  | category k => tableWeight k.ranges.length
  | script s => tableWeight s.ranges.length

/-- How many states an automaton takes for one character of the set, roughly. -/
def CharSet.weight : CharSet → Nat
  | empty => 1
  | range _ hi => if hi.toNat < 0x80 then 1 else 4
  | property p => p.weight
  | union s t => s.weight + t.weight
  | inter s t => s.weight + t.weight
  | diff s t => s.weight + t.weight
  | symmDiff s t => s.weight + t.weight
  | compl s => s.weight + 8
  | fold s => 2 * s.weight

namespace Tree

/-- How many states an automaton takes for the tree, roughly. -/
def weight : Tree → Nat
  | empty => 1
  | set s => s.weight
  | look _ => 1
  | cat a b => a.weight + b.weight
  | alt a b => a.weight + b.weight + 1
  | rep _ x least most => (x.weight + 1) * max 1 (most.getD least)

/-- The tree with its repetitions spelled out. -/
def toRegex : Tree → Regex
  | empty => .empty
  | set s => .set s
  | look l => .look l
  | cat a b => .cat a.toRegex b.toRegex
  | alt a b => .alt a.toRegex b.toRegex
  | rep greedy x least most => .rep greedy x.toRegex least most

/-- One after the other. -/
def cats : List Tree → Tree
  | [] => empty
  | [t] => t
  | t :: ts => cat t (cats ts)

/-- One of them, and rather an earlier one. -/
def alts (t : Tree) : List Tree → Tree
  | [] => t
  | u :: ts => alt t (alts u ts)

end Tree

/-- A tree, and how many levels of groups, repetitions, brackets and lists of parts it has. -/
structure Leveled where
  tree : Tree
  depth : Nat := 0

namespace Leveled

/-- The levels of several parts side by side. A single part is no list. -/
def levels : List Nat → Nat
  | [] => 0
  | [d] => d
  | ds => ds.foldl max 0 + 1

/-- The largest number of levels. -/
def depthLimit : Nat := 250

/-- The largest weight of a tree. -/
def weightLimit : Nat := 10 * 1048576 / 32

/-- The expression, within the limits. -/
def toRegex (n : Leveled) : Except PatternError Regex :=
  if depthLimit < n.depth then .error .tooDeep
  else if weightLimit < n.tree.weight then .error .tooLarge
  else .ok n.tree.toRegex

end Leveled

end GrammarEngine
