import Mathlib.Data.List.DropRight
import MetricMesh.Python.Text

/-!
# Cutting text

The string methods that cut a line into parts: `str.splitlines`, `str.split` and
`str.rsplit` at one separator, and the stripping of a single character.  A cut is
determined by where the separator occurs.
-/

namespace MetricMesh
namespace Python

/-!
# The first and the last separator
-/

def cutFirst (sep : Char) : List Char -> Option (List Char × List Char)
  | [] => none
  | c :: rest =>
      if c = sep then some ([], rest)
      else (cutFirst sep rest).map fun cut => (c :: cut.1, cut.2)

def cutLast (sep : Char) (cs : List Char) : Option (List Char × List Char) :=
  (cutFirst sep cs.reverse).map fun cut => (cut.2.reverse, cut.1.reverse)

theorem cutFirst_append {sep : Char} {u : List Char} (hu : sep ∉ u) (v : List Char) :
    cutFirst sep (u ++ sep :: v) = some (u, v) := by
  induction u with
  | nil =>
      simp [cutFirst]
  | cons c rest ih =>
      have hc : c ≠ sep := fun h => hu (h ▸ List.mem_cons_self)
      have hrest := ih (fun h => hu (List.mem_cons_of_mem c h))
      rw [List.cons_append, cutFirst, if_neg hc, hrest]
      rfl

theorem cutFirst_eq_none {sep : Char} {cs : List Char} :
    cutFirst sep cs = none <-> sep ∉ cs := by
  induction cs with
  | nil =>
      simp [cutFirst]
  | cons c rest ih =>
      by_cases hc : c = sep
      · simp [cutFirst, hc]
      · simp [cutFirst, hc, ih, Ne.symm hc]

theorem cutFirst_eq_some {sep : Char} {cs u v : List Char} :
    cutFirst sep cs = some (u, v) <-> cs = u ++ sep :: v ∧ sep ∉ u := by
  constructor
  · intro h
    have hmem : sep ∈ cs := by
      by_contra hnot
      rw [cutFirst_eq_none.mpr hnot] at h
      cases h
    rcases List.eq_append_cons_of_mem hmem with ⟨s, t, hcs, hs⟩
    rw [hcs, cutFirst_append hs, Option.some.injEq, Prod.mk.injEq] at h
    rw [← h.1, ← h.2]
    exact ⟨hcs, hs⟩
  · intro h
    rw [h.1]
    exact cutFirst_append h.2 v

theorem cutLast_eq_some {sep : Char} {cs u v : List Char} :
    cutLast sep cs = some (u, v) <-> cs = u ++ sep :: v ∧ sep ∉ v := by
  have hreverse : cutLast sep cs = some (u, v) <->
      cutFirst sep cs.reverse = some (v.reverse, u.reverse) := by
    unfold cutLast
    cases cutFirst sep cs.reverse with
    | none =>
        simp
    | some cut =>
        simp [Prod.ext_iff, List.reverse_eq_iff, and_comm]
  rw [hreverse, cutFirst_eq_some, List.reverse_eq_iff]
  simp

/-!
# Lines
-/

/-- The characters that end a line for `str.splitlines`. -/
def isLineBreak (c : Char) : Bool :=
  let n := c.toNat
  (0x0a ≤ n && n ≤ 0x0d) || (0x1c ≤ n && n ≤ 0x1e) || n == 0x85 || n == 0x2028 ||
    n == 0x2029

def splitlinesFrom : List Char -> List Char -> List (List Char)
  | [], [] => []
  | line, [] => [line.reverse]
  | line, '\r' :: '\n' :: rest => line.reverse :: splitlinesFrom [] rest
  | line, c :: rest =>
      if isLineBreak c then line.reverse :: splitlinesFrom [] rest
      else splitlinesFrom (c :: line) rest

def splitlines (text : List Char) : List (List Char) :=
  splitlinesFrom [] text

theorem splitlinesFrom_of_unbroken {cs : List Char}
    (h : forall c, c ∈ cs -> isLineBreak c = false) :
    forall line : List Char, line ≠ [] ∨ cs ≠ [] ->
      splitlinesFrom line cs = [line.reverse ++ cs] := by
  induction cs with
  | nil =>
      intro line hne
      cases line with
      | nil =>
          rcases hne with hne | hne
          · exact absurd rfl hne
          · exact absurd rfl hne
      | cons c rest =>
          simp [splitlinesFrom]
  | cons c rest ih =>
      intro line _
      have hc : isLineBreak c = false := h c List.mem_cons_self
      have hrest := ih (fun d hd => h d (List.mem_cons_of_mem c hd)) (c :: line)
        (Or.inl (List.cons_ne_nil c line))
      rw [splitlinesFrom]
      · rw [hc]
        simpa using hrest
      · intro rest' hr _
        rw [hr] at hc
        revert hc
        decide

theorem splitlines_of_unbroken {cs : List Char} (hne : cs ≠ [])
    (h : forall c, c ∈ cs -> isLineBreak c = false) : splitlines cs = [cs] :=
  splitlinesFrom_of_unbroken h [] (Or.inr hne)

theorem splitlinesFrom_newline {cs : List Char}
    (h : forall c, c ∈ cs -> isLineBreak c = false) (rest : List Char) :
    forall line : List Char,
      splitlinesFrom line (cs ++ '\n' :: rest) =
        (line.reverse ++ cs) :: splitlinesFrom [] rest := by
  induction cs with
  | nil =>
      intro line
      rw [List.nil_append, List.append_nil, splitlinesFrom]
      · rw [if_pos (by decide)]
      · intro rest' hr _
        revert hr
        decide
  | cons c cs ih =>
      intro line
      have hc : isLineBreak c = false := h c List.mem_cons_self
      rw [List.cons_append, splitlinesFrom]
      · rw [hc, if_neg Bool.false_ne_true, ih fun d hd => h d (List.mem_cons_of_mem c hd)]
        simp
      · intro rest' hr _
        rw [hr] at hc
        revert hc
        decide

theorem splitlines_lines {lines : List (List Char)}
    (h : forall line, line ∈ lines -> forall c, c ∈ line -> isLineBreak c = false) :
    splitlines (lines.flatMap fun line => line ++ ['\n']) = lines := by
  induction lines with
  | nil =>
      rfl
  | cons line rest ih =>
      have hrest := ih fun l hl => h l (List.mem_cons_of_mem line hl)
      unfold splitlines at hrest ⊢
      rw [List.flatMap_cons, List.append_assoc, List.singleton_append,
        splitlinesFrom_newline (h line List.mem_cons_self), hrest]
      rfl

theorem unbroken_of_mem_splitlinesFrom {line : List Char} (acc cs : List Char)
    (hacc : forall c, c ∈ acc -> isLineBreak c = false)
    (hmem : line ∈ splitlinesFrom acc cs) :
    forall c, c ∈ line -> isLineBreak c = false := by
  induction acc, cs using splitlinesFrom.induct with
  | case1 =>
      cases hmem
  | case2 acc hne =>
      rw [splitlinesFrom.eq_2 acc hne, List.mem_singleton] at hmem
      intro c hc
      rw [hmem, List.mem_reverse] at hc
      exact hacc c hc
  | case3 acc rest ih =>
      rw [splitlinesFrom, List.mem_cons] at hmem
      rcases hmem with hhead | htail
      · intro c hc
        rw [hhead, List.mem_reverse] at hc
        exact hacc c hc
      · exact ih (fun c hc => absurd hc List.not_mem_nil) htail
  | case4 acc c rest hcrlf hbreak ih =>
      rw [splitlinesFrom.eq_4 acc c rest hcrlf, if_pos hbreak, List.mem_cons] at hmem
      rcases hmem with hhead | htail
      · intro d hd
        rw [hhead, List.mem_reverse] at hd
        exact hacc d hd
      · exact ih (fun d hd => absurd hd List.not_mem_nil) htail
  | case5 acc c rest hcrlf hbreak ih =>
      rw [splitlinesFrom.eq_4 acc c rest hcrlf, if_neg hbreak] at hmem
      apply ih _ hmem
      intro d hd
      rcases List.mem_cons.mp hd with hd | hd
      · rw [hd]
        exact Bool.eq_false_iff.mpr hbreak
      · exact hacc d hd

theorem unbroken_of_mem_splitlines {line text : List Char}
    (h : line ∈ splitlines text) : forall c, c ∈ line -> isLineBreak c = false :=
  unbroken_of_mem_splitlinesFrom [] text (fun _ hc => absurd hc List.not_mem_nil) h

example : splitlines "a\r\nb\n\nc".toList = ["a".toList, "b".toList, [], "c".toList] := by
  decide

/-!
# Stripping one character
-/

def rstripChar (c : Char) (cs : List Char) : List Char :=
  cs.rdropWhile (fun d => d = c)

def stripChar (c : Char) (cs : List Char) : List Char :=
  rstripChar c (cs.dropWhile (fun d => d = c))

@[simp] theorem rstripChar_append_self (c : Char) (cs : List Char) :
    rstripChar c (cs ++ [c]) = rstripChar c cs :=
  List.rdropWhile_concat_pos _ _ _ (decide_eq_true rfl)

theorem rstripChar_append_of_ne {c d : Char} (h : d ≠ c) (cs : List Char) :
    rstripChar c (cs ++ [d]) = cs ++ [d] :=
  List.rdropWhile_concat_neg _ _ _ (by simpa using h)

theorem rstripChar_of_not_mem {c : Char} {cs : List Char} (h : c ∉ cs) :
    rstripChar c cs = cs := by
  apply List.rdropWhile_eq_self_iff.mpr
  intro hne heq
  apply h
  rw [← of_decide_eq_true heq]
  exact List.getLast_mem hne

theorem rstripChar_sublist (c : Char) (cs : List Char) : (rstripChar c cs).Sublist cs :=
  (List.rdropWhile_prefix _ _).sublist

theorem stripChar_sublist (c : Char) (cs : List Char) : (stripChar c cs).Sublist cs :=
  (rstripChar_sublist c _).trans (List.dropWhile_sublist _)

theorem stripChars_sublist (cs : List Char) : (stripChars cs).Sublist cs := by
  unfold stripChars
  rw [← List.reverse_sublist, List.reverse_reverse]
  refine (List.dropWhile_sublist _).trans ?_
  rw [List.reverse_sublist]
  exact List.dropWhile_sublist _

theorem count_rstripChar {c d : Char} (h : d ≠ c) (cs : List Char) :
    (rstripChar c cs).count d = cs.count d := by
  have hzero : (cs.reverse.takeWhile (fun e => e = c)).count d = 0 := by
    apply List.count_eq_zero_of_not_mem
    intro hmem
    have hd : decide (d = c) = true :=
      List.mem_takeWhile_imp (p := fun e => decide (e = c)) hmem
    exact h (of_decide_eq_true hd)
  have hcount := congrArg (List.count d)
    (List.takeWhile_append_dropWhile (p := fun e => decide (e = c)) (l := cs.reverse))
  rw [List.count_append, hzero, Nat.zero_add, List.count_reverse] at hcount
  unfold rstripChar List.rdropWhile
  rw [List.count_reverse]
  exact hcount

theorem stripChars_of_ends {c d : Char} (hc : isSpace c = false) (hd : isSpace d = false)
    {cs rest front : List Char} (hhead : cs = c :: rest) (hlast : cs = front ++ [d]) :
    stripChars cs = cs := by
  have hleft : cs.dropWhile isSpace = cs := by
    rw [hhead, List.dropWhile_cons, if_neg (by simp [hc])]
  have hright : cs.reverse.dropWhile isSpace = cs.reverse := by
    rw [hlast, List.reverse_append]
    simp [hd]
  unfold stripChars
  rw [hleft, hright, List.reverse_reverse]

theorem stripChars_of_unspaced {cs : List Char}
    (h : forall c, c ∈ cs -> isSpace c = false) : stripChars cs = cs := by
  cases cs with
  | nil =>
      rfl
  | cons c rest =>
      apply stripChars_of_ends (h c List.mem_cons_self)
        (h _ (List.getLast_mem (List.cons_ne_nil c rest))) rfl
      exact (List.dropLast_concat_getLast (List.cons_ne_nil c rest)).symm

/-!
# Splitting at every separator
-/

theorem mem_of_mem_splitOn {sep c : Char} (cs : List Char) :
    forall part, part ∈ cs.splitOn sep -> c ∈ part -> c ∈ cs ∧ c ≠ sep := by
  induction cs with
  | nil =>
      intro part hpart hc
      rw [List.splitOn_nil, List.mem_singleton] at hpart
      rw [hpart] at hc
      cases hc
  | cons d rest ih =>
      intro part hpart hc
      rw [List.splitOn_cons_eq_if_modifyHead] at hpart
      by_cases hd : d = sep
      · rw [if_pos (beq_iff_eq.mpr hd)] at hpart
        rcases List.mem_cons.mp hpart with hnil | htail
        · rw [hnil] at hc
          cases hc
        · rcases ih part htail hc with ⟨hmem, hne⟩
          exact ⟨List.mem_cons_of_mem d hmem, hne⟩
      · rw [if_neg (by simpa using hd)] at hpart
        cases hsplit : rest.splitOn sep with
        | nil =>
            exact absurd hsplit (List.splitOn_ne_nil sep rest)
        | cons first others =>
            rw [hsplit, List.modifyHead_cons] at hpart
            rcases List.mem_cons.mp hpart with hhead | htail
            · rw [hhead] at hc
              rcases List.mem_cons.mp hc with hcd | hc
              · rw [hcd]
                exact ⟨List.mem_cons_self, hd⟩
              · rcases ih first (hsplit ▸ List.mem_cons_self) hc with ⟨hmem, hne⟩
                exact ⟨List.mem_cons_of_mem d hmem, hne⟩
            · rcases ih part (hsplit ▸ List.mem_cons_of_mem first htail) hc with
                ⟨hmem, hne⟩
              exact ⟨List.mem_cons_of_mem d hmem, hne⟩

theorem intercalate_concat_append {sep : Char} (parts : List (List Char))
    (last text : List Char) :
    [sep].intercalate (parts ++ [last]) ++ text =
      [sep].intercalate (parts ++ [last ++ text]) := by
  induction parts with
  | nil =>
      simp
  | cons part rest ih =>
      have hleft : rest ++ [last] ≠ [] := by simp
      have hright : rest ++ [last ++ text] ≠ [] := by simp
      rw [List.cons_append, List.cons_append, List.intercalate_cons_of_ne_nil hleft,
        List.intercalate_cons_of_ne_nil hright, List.append_assoc, ih]

theorem mem_of_mem_intercalate {sep c : Char} (parts : List (List Char)) :
    c ∈ [sep].intercalate parts -> c = sep ∨ exists part, part ∈ parts ∧ c ∈ part := by
  induction parts with
  | nil =>
      intro h
      cases h
  | cons part rest ih =>
      intro h
      by_cases hrest : rest = []
      · rw [hrest, List.intercalate_singleton] at h
        exact Or.inr ⟨part, List.mem_cons_self, h⟩
      · rw [List.intercalate_cons_of_ne_nil hrest, List.mem_append, List.mem_append,
          List.mem_singleton] at h
        rcases h with (h | h) | h
        · exact Or.inr ⟨part, List.mem_cons_self, h⟩
        · exact Or.inl h
        · rcases ih h with h | ⟨part', hmem, hc⟩
          · exact Or.inl h
          · exact Or.inr ⟨part', List.mem_cons_of_mem part hmem, hc⟩

end Python
end MetricMesh
