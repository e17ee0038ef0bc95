import Mathlib.Algebra.Order.Floor.Ring
import Mathlib.Data.Rat.Floor
import MetricMesh.Python.Dict
import MetricMesh.Python.Json

/-!
# The host interpreter

Exceptions, the conversions between JSON values, numbers and text, and the
parts of the standard library that are used as black boxes: two digests, the
calendar, the text of `float()`, the `repr` of values that are not strings, and
the Unicode tables beyond ASCII.

A text of Python may have surrogates that are not half of a pair, which are no
characters.  The host says which characters stand for them: any that the texts
of the run do not use, and none when no text has a lone surrogate.
-/

namespace MetricMesh
namespace Python

inductive PyError where
  | valueError
  | unicodeEncodeError
  | typeError
  | overflowError
  | zeroDivisionError
  | indexError
  | attributeError
  | responseError
  | connectionError
  | runtimeError (message : String)
deriving DecidableEq

structure Host where
  /-- The character that stands for a lone surrogate. -/
  surrogate : Nat -> Char
  /-- The characters that stand for lone surrogates. -/
  isSurrogate : Char -> Bool
  /-- The texts of the program itself are ASCII. -/
  ascii_not_surrogate : forall c : Char, c.toNat < 128 -> isSurrogate c = false
  /-- `hashlib.sha1(s.encode()).hexdigest()` of a text that encodes. -/
  sha1 : String -> String
  /-- `hashlib.sha256(s.encode()).hexdigest()` of a text that encodes. -/
  sha256 : String -> String
  /-- `datetime.fromisoformat(s).timestamp()`, or nothing when it raises. -/
  fromisoformat : String -> Option Rat
  /-- `isoformat()` of an instant, in microseconds since the epoch. -/
  isoformat : Int -> String
  /-- `float(s)`, or nothing when it raises. -/
  parseFloat : String -> Option PyFloat
  /-- `repr(v)`, which is `str(v)` of a value that is not a string. -/
  repr : Json -> String
  /-- `repr` of a list of pairs of strings. -/
  reprPairs : List (String × String) -> String
  /-- `s.lower()` of text that is not ASCII. -/
  lowerWide : String -> String
  /-- `c.isalpha()` of a character that is not ASCII. -/
  isAlphaWide : Char -> Bool

namespace Host

/-- A host that knows the given SHA-1 digests, for runs on fixed inputs. -/
def withDigests (digests : Dict String String) : Host where
  surrogate := fun _ => '\uFFFD'
  isSurrogate := fun _ => false
  ascii_not_surrogate := fun _ _ => rfl
  sha1 := fun text => (digests.get? text).getD ""
  sha256 := fun _ => ""
  fromisoformat := fun _ => none
  isoformat := fun _ => ""
  parseFloat := fun _ => none
  repr := fun _ => ""
  reprPairs := fun _ => ""
  lowerWide := id
  isAlphaWide := fun _ => false

def loads (host : Host) (s : String) : Except LoadsError Json :=
  Json.loads { surrogate := host.surrogate } s

/-- The text has no lone surrogate, so `s.encode()` does not raise. -/
def encodes (host : Host) (s : String) : Bool :=
  s.toList.all fun c => !host.isSurrogate c

/-- `hashlib.sha1(s.encode()).hexdigest()`. -/
def sha1Of (host : Host) (s : String) : Except PyError String :=
  if host.encodes s then .ok (host.sha1 s) else .error .unicodeEncodeError

def str (host : Host) : Json -> String
  | .str s => s
  | v => host.repr v

/-- `repr(s)` of text. -/
def quoted (host : Host) (s : String) : String :=
  host.repr (.str s)

/-- A finite double is near the integer. -/
def HasDouble (n : Int) : Prop :=
  -floatLimit < (n : Rat) ∧ (n : Rat) < floatLimit

instance (n : Int) : Decidable (HasDouble n) :=
  inferInstanceAs (Decidable (_ ∧ _))

/-- `float(n)` of an integer raises when no finite double is near it. -/
def floatOfInt (n : Int) : Except PyError PyFloat :=
  if floatLimit ≤ (n : Rat) ∨ (n : Rat) ≤ -floatLimit then .error .overflowError
  else .ok (.finite (Foundation.toDouble n))

theorem floatOfInt_of_hasDouble {n : Int} (h : HasDouble n) :
    floatOfInt n = .ok (.finite (Foundation.toDouble n)) := by
  apply if_neg
  intro hout
  rcases hout with hhigh | hlow
  · exact absurd h.2 (not_lt.mpr hhigh)
  · exact absurd h.1 (not_lt.mpr hlow)

theorem floatOfInt_of_not_hasDouble {n : Int} (h : ¬ HasDouble n) :
    floatOfInt n = .error .overflowError := by
  apply if_pos
  by_contra hout
  push Not at hout
  exact h ⟨hout.2, hout.1⟩

def float (host : Host) : Json -> Except PyError PyFloat
  | .bool b => .ok (.finite (if b then 1 else 0))
  | .int n => floatOfInt n
  | .float x => .ok x
  | .str s =>
      match host.parseFloat s with
      | some x => .ok x
      | none => .error .valueError
  | _ => .error .typeError

def lower (host : Host) (s : String) : String :=
  if s.toList.all (fun c => c.toNat < 128) then
    String.ofList (s.toList.map Char.toLower)
  else
    host.lowerWide s

def isAlpha (host : Host) (c : Char) : Bool :=
  if c.toNat < 128 then c.isAlpha else host.isAlphaWide c

end Host

/-- The values that `round` and arithmetic accept as numbers. -/
def Json.isNumber : Json -> Bool
  | .bool _ => true
  | .int _ => true
  | .float _ => true
  | _ => false

def Json.truthy : Json -> Bool
  | .null => false
  | .bool b => b
  | .int n => n ≠ 0
  | .float x => x ≠ .finite 0
  | .str s => s ≠ ""
  | .arr items => items ≠ []
  | .obj fields => fields ≠ []

/-- `list(v)`, which is also what a loop over `v` goes through. -/
def Json.iter : Json -> Except PyError (List Json)
  | .str s => .ok (s.toList.map fun c => .str (String.singleton c))
  | .arr items => .ok items
  | .obj fields => .ok (fields.map fun field => .str field.1)
  | _ => .error .typeError

def Json.isHashable : Json -> Bool
  | .arr _ => false
  | .obj _ => false
  | _ => true

def Json.assignPairs : List Json -> Dict String Json ->
    Except PyError (Dict String Json)
  | [], dict => .ok dict
  | item :: rest, dict =>
      match item.iter with
      | .error e => .error e
      | .ok [k, v] =>
          if k.isHashable then
            match k with
            | .str key => assignPairs rest (dict.insert key v)
            -- A key that is not text is never looked up.
            | _ => assignPairs rest dict
          else
            .error .typeError
      | .ok _ => .error .valueError

/-- `dict(v)`, which takes an object or anything that lists pairs. -/
def Json.dict : Json -> Except PyError (Dict String Json)
  | .obj fields => .ok fields
  | v =>
      match v.iter with
      | .error e => .error e
      | .ok items => assignPairs items []

/-- `int(x // width)` for an integer width, which is converted to a float. -/
def floorDivInt (x : PyFloat) (width : Int) : Except PyError Int :=
  match Host.floatOfInt width with
  | .error e => .error e
  | .ok _ =>
      if width = 0 then
        .error .zeroDivisionError
      else
        match x with
        | .finite q => .ok ⌊q / width⌋
        | _ => .error .valueError

theorem floorDivInt_of_hasDouble {width : Int} (hdouble : Host.HasDouble width)
    (hne : width ≠ 0) (x : PyFloat) :
    floorDivInt x width =
      match x with
      | .finite q => .ok ⌊q / width⌋
      | _ => .error .valueError := by
  unfold floorDivInt
  rw [Host.floatOfInt_of_hasDouble hdouble]
  exact if_neg hne

theorem hasDouble_of_floorDivInt {x : PyFloat} {width n : Int}
    (h : floorDivInt x width = .ok n) : Host.HasDouble width := by
  by_contra hnot
  unfold floorDivInt at h
  rw [Host.floatOfInt_of_not_hasDouble hnot] at h
  cases h

def take (s : String) (n : Nat) : String :=
  String.ofList (s.toList.take n)

end Python
end MetricMesh
