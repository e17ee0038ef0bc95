import Mathlib.Data.List.Basic

/-!
# Text operations

The string methods the program uses, over the characters of a string:
`str.strip`, `str.split` with a one-character separator, and
`str.replace` of a single character.
-/

namespace MetricMesh
namespace Python

/-- The characters that `str.isspace` accepts and `str.strip` removes. -/
def isSpace (c : Char) : Bool :=
  let n := c.toNat
  (0x09 ≤ n && n ≤ 0x0d) || (0x1c ≤ n && n ≤ 0x20) || n == 0x85 || n == 0xa0 ||
    n == 0x1680 || (0x2000 ≤ n && n ≤ 0x200a) || n == 0x2028 || n == 0x2029 ||
    n == 0x202f || n == 0x205f || n == 0x3000

def stripChars (cs : List Char) : List Char :=
  ((cs.dropWhile isSpace).reverse.dropWhile isSpace).reverse

def strip (s : String) : String :=
  String.ofList (stripChars s.toList)

def split (s : String) (sep : Char) : List String :=
  (s.toList.splitOn sep).map String.ofList

def replaceChar (s : String) (old : Char) (new : String) : String :=
  String.ofList
    (s.toList.flatMap (fun c => if c = old then new.toList else [c]))

example : strip " k1\t" = "k1" := by decide

example : split "k1,,k2" ',' = ["k1", "", "k2"] := by decide

/-!
# Decimal text

The text of an integer is an optional sign and digits, and determines it.
-/

theorem isDigit_of_mem_repr {n : Nat} {c : Char} (h : c ∈ n.repr.toList) :
    c.isDigit = true := by
  rw [Nat.toList_repr] at h
  exact Nat.isDigit_of_mem_toDigits (by decide) (by decide) h

theorem repr_nat_inj {m n : Nat} (h : m.repr.toList = n.repr.toList) : m = n := by
  rw [Nat.toList_repr, Nat.toList_repr] at h
  have hvalue := congrArg (fun ds => Nat.ofDigitChars 10 ds 0) h
  simpa using hvalue

theorem toString_negSucc (n : Nat) :
    (toString (Int.negSucc n)).toList = '-' :: (n + 1).repr.toList := by
  show ("-" ++ (n + 1).repr).toList = _
  simp

theorem not_mem_toString {c : Char} (hdigit : c.isDigit = false)
    (hsign : c ≠ '-') (n : Int) : c ∉ (toString n).toList := by
  have hrepr : forall m : Nat, c ∉ m.repr.toList := by
    intro m hmem
    rw [isDigit_of_mem_repr hmem] at hdigit
    cases hdigit
  cases n with
  | ofNat m =>
      exact hrepr m
  | negSucc m =>
      rw [toString_negSucc, List.mem_cons, not_or]
      exact ⟨hsign, hrepr (m + 1)⟩

theorem toString_int_inj {m n : Int}
    (h : (toString m).toList = (toString n).toList) : m = n := by
  have hsign : forall k l : Nat, k.repr.toList ≠ '-' :: l.repr.toList := by
    intro k l hkl
    have hmem : '-' ∈ k.repr.toList := by
      rw [hkl]
      exact List.mem_cons_self
    have hdigit := isDigit_of_mem_repr hmem
    revert hdigit
    decide
  cases m with
  | ofNat m =>
      cases n with
      | ofNat n =>
          exact congrArg Int.ofNat (repr_nat_inj h)
      | negSucc n =>
          rw [toString_negSucc] at h
          exact absurd h (hsign m (n + 1))
  | negSucc m =>
      cases n with
      | ofNat n =>
          rw [toString_negSucc] at h
          exact absurd h.symm (hsign n (m + 1))
      | negSucc n =>
          rw [toString_negSucc, toString_negSucc, List.cons_inj_right] at h
          have hmn := repr_nat_inj h
          rw [Nat.succ.inj hmn]

/-!
# Joined text

Two pairs joined by a separator agree when the separator is not in the joined
parts.  When nothing is known about the parts, one left part extends the other
by the separator and the beginning of the other right part.
-/

section Joined

variable {α : Type} {sep : α}

theorem append_sep_inj : forall {u v : List α} {x y : List α}, sep ∉ u ->
    sep ∉ v -> u ++ sep :: x = v ++ sep :: y -> u = v ∧ x = y
  | [], [], _, _, _, _, h => by
      injection h with _ hxy
      exact ⟨rfl, hxy⟩
  | [], c :: v, _, _, _, hv, h => by
      injection h with hc _
      exact absurd (hc ▸ List.mem_cons_self) hv
  | c :: u, [], _, _, hu, _, h => by
      injection h with hc _
      exact absurd (hc ▸ List.mem_cons_self) hu
  | c :: u, d :: v, _, _, hu, hv, h => by
      injection h with hc htail
      rcases append_sep_inj (fun hmem => hu (List.mem_cons_of_mem c hmem))
        (fun hmem => hv (List.mem_cons_of_mem d hmem)) htail with ⟨huv, hxy⟩
      exact ⟨by rw [hc, huv], hxy⟩

theorem append_sep_inj_right {u v x y : List α} (hu : sep ∉ u) (hv : sep ∉ v)
    (h : x ++ sep :: u = y ++ sep :: v) : x = y ∧ u = v := by
  have hreverse := congrArg List.reverse h
  simp only [List.reverse_append, List.reverse_cons, List.append_assoc,
    List.singleton_append] at hreverse
  rcases append_sep_inj (by simpa using hu) (by simpa using hv) hreverse with
    ⟨huv, hxy⟩
  exact ⟨List.reverse_inj.mp hxy, List.reverse_inj.mp huv⟩

theorem append_sep_overlap {u v x y : List α} (hne : x ≠ y) :
    x ++ sep :: u = y ++ sep :: v <->
      (exists s, x = y ++ sep :: s ∧ v = s ++ sep :: u) ∨
        exists s, y = x ++ sep :: s ∧ u = s ++ sep :: v := by
  constructor
  · intro h
    rcases List.append_eq_append_iff.mp h with ⟨s, hy, hu⟩ | ⟨s, hx, hv⟩
    · cases s with
      | nil =>
          exact absurd (by simpa using hy.symm) hne
      | cons c s =>
          injection hu with hc htail
          subst hc
          exact Or.inr ⟨s, hy, htail⟩
    · cases s with
      | nil =>
          exact absurd (by simpa using hx) hne
      | cons c s =>
          injection hv with hc htail
          subst hc
          exact Or.inl ⟨s, hx, htail⟩
  · intro h
    rcases h with ⟨s, hx, hv⟩ | ⟨s, hy, hu⟩
    · rw [hx, hv]
      simp
    · rw [hy, hu]
      simp

end Joined

end Python
end MetricMesh
