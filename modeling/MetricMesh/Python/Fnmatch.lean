import Mathlib.Data.List.Basic
import Mathlib.Tactic.Common

/-!
# Shell patterns

`fnmatch.fnmatchcase` translates a pattern to a regular expression in which a
star stands for any text, a question mark for any character and a bracket
expression for a set of characters.  A bracket without a closing one stands for
itself.

A pattern is a list of pieces, and the matcher decides the language that the
pieces describe.
-/

namespace MetricMesh
namespace Python

inductive SetItem where
  | one (c : Char)
  | range (lo hi : Char)
deriving DecidableEq

inductive Piece where
  | star
  | any
  | lit (c : Char)
  | set (negated : Bool) (items : List SetItem)
deriving DecidableEq

namespace Fnmatch

/-!
# Bracket expressions
-/

/-- The items of a set.  A hyphen between two characters makes a range of them. -/
def setItems : List Char -> List SetItem
  | [] => []
  | lo :: '-' :: hi :: rest => .range lo hi :: setItems rest
  | c :: rest => .one c :: setItems rest

/-- Ranges whose bounds are in the wrong order are taken out of the set. -/
def nonempty : SetItem -> Bool
  | .one _ => true
  | .range lo hi => lo ≤ hi

/--
The set between two brackets.  The exclamation mark that negates it is looked
for once the empty ranges are gone, so it can also be found after them.
-/
def setOf (stuff : List Char) : Piece :=
  match stuff with
  | '!' :: rest => .set true ((setItems rest).filter nonempty)
  | _ =>
      match (setItems stuff).filter nonempty with
      | .one '!' :: rest => .set true rest
      | .range '!' hi :: rest => .set true (.one '-' :: .one hi :: rest)
      | items => .set false items

def toBracket : List Char -> Option (List Char × List Char)
  | [] => none
  | ']' :: rest => some ([], rest)
  | c :: rest => (toBracket rest).map (fun p => (c :: p.1, p.2))

/--
The text of a set, after the bracket that opens it.  A closing bracket right at
the start, or right after the exclamation mark, belongs to the set.
-/
def bracketed : List Char -> Option (List Char × List Char)
  | '!' :: ']' :: rest => (toBracket rest).map (fun p => ('!' :: ']' :: p.1, p.2))
  | ']' :: rest => (toBracket rest).map (fun p => (']' :: p.1, p.2))
  | cs => toBracket cs

def piecesUpTo : Nat -> List Char -> List Piece
  | 0, _ => []
  | _, [] => []
  | fuel + 1, '*' :: rest => .star :: piecesUpTo fuel rest
  | fuel + 1, '?' :: rest => .any :: piecesUpTo fuel rest
  | fuel + 1, '[' :: rest =>
      match bracketed rest with
      | none => .lit '[' :: piecesUpTo fuel rest
      | some (stuff, after) => setOf stuff :: piecesUpTo fuel after
  | fuel + 1, c :: rest => .lit c :: piecesUpTo fuel rest

def pieces (pattern : String) : List Piece :=
  piecesUpTo pattern.toList.length pattern.toList

/-!
# Matching
-/

def SetItem.contains (c : Char) : SetItem -> Bool
  | .one d => c = d
  | .range lo hi => lo ≤ c && c ≤ hi

def accepts (c : Char) : Piece -> Bool
  | .star => false
  | .any => true
  | .lit d => c = d
  | .set negated items => items.any (SetItem.contains c) != negated

def anySuffix (test : List Char -> Bool) : List Char -> Bool
  | [] => test []
  | c :: cs => test (c :: cs) || anySuffix test cs

def matchPieces : List Piece -> List Char -> Bool
  | [], cs => cs.isEmpty
  | .star :: ps, cs => anySuffix (matchPieces ps) cs
  | _ :: _, [] => false
  | p :: ps, c :: cs => accepts c p && matchPieces ps cs

inductive Describes : List Piece -> List Char -> Prop where
  | nil : Describes [] []
  | star {ps : List Piece} (skipped : List Char) {cs : List Char}
      (rest : Describes ps cs) : Describes (.star :: ps) (skipped ++ cs)
  | char {p : Piece} {ps : List Piece} {c : Char} {cs : List Char}
      (head : accepts c p = true) (rest : Describes ps cs) :
      Describes (p :: ps) (c :: cs)

theorem anySuffix_iff (test : List Char -> Bool) (cs : List Char) :
    anySuffix test cs = true <->
      exists skipped rest, cs = skipped ++ rest ∧ test rest = true := by
  induction cs with
  | nil =>
      simp [anySuffix]
  | cons c cs ih =>
      rw [anySuffix, Bool.or_eq_true, ih]
      constructor
      · intro h
        rcases h with hhere | ⟨skipped, rest, heq, htest⟩
        · exact ⟨[], c :: cs, rfl, hhere⟩
        · exact ⟨c :: skipped, rest, by rw [heq, List.cons_append], htest⟩
      · intro h
        rcases h with ⟨skipped, rest, heq, htest⟩
        cases skipped with
        | nil =>
            left
            rw [List.nil_append] at heq
            rw [heq]
            exact htest
        | cons d skipped =>
            right
            injection heq with _ heq
            exact ⟨skipped, rest, heq, htest⟩

/-!
The matcher and the description take a pattern apart in the same way.
-/

theorem describes_nil_iff (cs : List Char) : Describes [] cs <-> cs = [] := by
  constructor
  · intro h
    cases h
    rfl
  · intro h
    rw [h]
    exact Describes.nil

theorem describes_star_iff (ps : List Piece) (cs : List Char) :
    Describes (.star :: ps) cs <->
      exists skipped rest, cs = skipped ++ rest ∧ Describes ps rest := by
  constructor
  · intro h
    cases h with
    | star skipped rest =>
        exact ⟨skipped, _, rfl, rest⟩
    | char head rest =>
        cases head
  · intro h
    rcases h with ⟨skipped, rest, heq, hrest⟩
    rw [heq]
    exact Describes.star skipped hrest

theorem describes_char_iff {p : Piece} (hp : p ≠ .star) (ps : List Piece)
    (cs : List Char) :
    Describes (p :: ps) cs <->
      exists c rest, cs = c :: rest ∧ accepts c p = true ∧ Describes ps rest := by
  constructor
  · intro h
    cases h with
    | star skipped rest =>
        exact absurd rfl hp
    | char head rest =>
        exact ⟨_, _, rfl, head, rest⟩
  · intro h
    rcases h with ⟨c, rest, heq, hhead, hrest⟩
    rw [heq]
    exact Describes.char hhead hrest

theorem matchPieces_char_iff {p : Piece} (hp : p ≠ .star) (ps : List Piece)
    (cs : List Char) :
    matchPieces (p :: ps) cs = true <->
      exists c rest, cs = c :: rest ∧ accepts c p = true ∧
        matchPieces ps rest = true := by
  cases cs with
  | nil =>
      cases p <;> simp_all [matchPieces]
  | cons c cs =>
      cases p <;> simp_all [matchPieces]

theorem matchPieces_iff (ps : List Piece) :
    forall cs, matchPieces ps cs = true <-> Describes ps cs := by
  induction ps with
  | nil =>
      intro cs
      rw [describes_nil_iff, matchPieces, List.isEmpty_iff]
  | cons p ps ih =>
      intro cs
      by_cases hstar : p = .star
      · rw [hstar, describes_star_iff, matchPieces, anySuffix_iff]
        simp only [ih]
      · rw [describes_char_iff hstar, matchPieces_char_iff hstar]
        simp only [ih]

end Fnmatch

def fnmatchcase (name pattern : String) : Bool :=
  Fnmatch.matchPieces (Fnmatch.pieces pattern) name.toList

example : fnmatchcase "db.pool" "d[a-c].*" = true := by decide +kernel
example : fnmatchcase "db.pool" "[!c-a]b?pool" = true := by decide +kernel
example : fnmatchcase "db.pool" "d[!a-c].*" = false := by decide +kernel

end Python
end MetricMesh
