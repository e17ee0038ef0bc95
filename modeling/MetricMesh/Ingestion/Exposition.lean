import MetricMesh.Ingestion.Scraper

/-!
# The exposition format

A sample line of the Prometheus text format: a name, label values in double
quotes with three characters escaped, the text of a number and, after another
space, an optional timestamp in milliseconds.
-/

namespace MetricMesh
namespace Ingestion

open Python

def isWordChar (c : Char) : Bool :=
  c.isAlphanum || c = '_'

def isNumeralChar (c : Char) : Bool :=
  c.isDigit || c = '+' || c = '-' || c = '.' || c = 'e' || c = 'E'

def IsName (start : Char -> Bool) (name : String) : Prop :=
  exists c rest, name.toList = c :: rest ∧ start c = true ∧
    forall d, d ∈ rest -> isWordChar d = true

/--
A sample that can be exported.  The text of the value is one that `float()` reads
as the value.
-/
structure Sample (host : Host) where
  name : String
  name_isName : IsName Char.isAlpha name
  labels : List (String × String) := []
  labels_isName : forall l, l ∈ labels -> IsName (fun c => c.isAlpha || c = '_') l.1
  labels_distinct : (labels.map Prod.fst).Nodup
  value : Rat
  valueText : List Char
  valueText_ne : valueText ≠ []
  valueText_numeral : forall c, c ∈ valueText -> isNumeralChar c = true
  valueText_reads : host.parseFloat (String.ofList valueText) = some (.finite value)
  timestamp : Option Int := none
  /-- Whether an empty list of labels is written with its braces. -/
  braces : Bool := false

def escapeChar (c : Char) : List Char :=
  if c = '\\' then ['\\', '\\']
  else if c = '"' then ['\\', '"']
  else if c = '\n' then ['\\', 'n']
  else [c]

def escape (value : List Char) : List Char :=
  value.flatMap escapeChar

def labelText (label : String × String) : List Char :=
  label.1.toList ++ '=' :: '"' :: escape label.2.toList ++ ['"']

def blockText (labels : List (String × String)) : List Char :=
  [','].intercalate (labels.map labelText) ++ ['}']

namespace Sample

variable {host : Host}

def head (s : Sample host) : List Char :=
  if s.labels = [] ∧ s.braces = false then s.name.toList
  else s.name.toList ++ '{' :: blockText s.labels

def render (s : Sample host) : List Char :=
  s.head ++ ' ' :: s.valueText ++
    match s.timestamp with
    | none => []
    | some t => ' ' :: (toString t).toList

end Sample

/-!
# Characters of names and numbers
-/

theorem ascii_cases {P : Char -> Prop} (h : forall n, n < 128 -> P (Char.ofNat n))
    {c : Char} (hc : c.toNat < 128) : P c := by
  rw [← Char.ofNat_toNat c]
  exact h _ hc

theorem toNat_lt_of_le {c d : Char} (h : c.val ≤ d.val) (hd : d.toNat < 128) :
    c.toNat < 128 :=
  lt_of_le_of_lt (UInt32.le_iff_toNat_le.mp h) hd

theorem toNat_lt_of_isAlphanum {c : Char} (h : c.isAlphanum = true) : c.toNat < 128 := by
  rcases Bool.or_eq_true_iff.mp h with h | hdigit
  · rcases Bool.or_eq_true_iff.mp h with hupper | hlower
    · exact toNat_lt_of_le (of_decide_eq_true hupper).2 (by decide)
    · exact toNat_lt_of_le (of_decide_eq_true (Bool.and_eq_true_iff.mp hlower).2) (by decide)
  · exact toNat_lt_of_le (of_decide_eq_true (Bool.and_eq_true_iff.mp hdigit).2) (by decide)

theorem toNat_lt_of_isWordChar {c : Char} (h : isWordChar c = true) : c.toNat < 128 := by
  rcases Bool.or_eq_true_iff.mp h with h | h
  · exact toNat_lt_of_isAlphanum h
  · rw [of_decide_eq_true h]
    decide

/-- What the parser looks for occurs in no name. -/
structure Inert (c : Char) : Prop where
  ascii : c.toNat < 128
  space : isSpace c = false
  lineBreak : isLineBreak c = false
  separators : c ∉ [' ', ',', '=', '{', '}', '"', '#']

instance (c : Char) : Decidable (Inert c) :=
  decidable_of_iff
    (c.toNat < 128 ∧ isSpace c = false ∧ isLineBreak c = false ∧
      c ∉ [' ', ',', '=', '{', '}', '"', '#'])
    ⟨fun h => ⟨h.1, h.2.1, h.2.2.1, h.2.2.2⟩,
      fun h => ⟨h.ascii, h.space, h.lineBreak, h.separators⟩⟩

theorem Inert.ne {c d : Char} (h : Inert c)
    (hd : d ∈ [' ', ',', '=', '{', '}', '"', '#']) : c ≠ d := by
  intro heq
  exact h.separators (heq ▸ hd)

theorem not_mem_of_inert {cs : List Char} (h : forall c, c ∈ cs -> Inert c) {d : Char}
    (hd : d ∈ [' ', ',', '=', '{', '}', '"', '#']) : d ∉ cs := by
  intro hmem
  exact (h d hmem).separators hd

theorem inert_of_isWordChar {c : Char} (h : isWordChar c = true) : Inert c := by
  have hall : forall n, n < 128 -> isWordChar (Char.ofNat n) = true ->
      Inert (Char.ofNat n) := by
    decide +kernel
  exact ascii_cases (P := fun c => isWordChar c = true -> Inert c) hall
    (toNat_lt_of_isWordChar h) h

theorem inert_of_isNumeralChar {c : Char} (h : isNumeralChar c = true) : Inert c := by
  have hall : forall n, n < 128 -> isNumeralChar (Char.ofNat n) = true ->
      Inert (Char.ofNat n) := by
    decide +kernel
  refine ascii_cases (P := fun c => isNumeralChar c = true -> Inert c) hall ?_ h
  simp only [isNumeralChar, Bool.or_eq_true, decide_eq_true_eq] at h
  rcases h with ((((h | h) | h) | h) | h) | h
  · apply toNat_lt_of_isAlphanum
    simp [Char.isAlphanum, h]
  all_goals
    rw [h]
    decide

theorem inert_of_mem_toString {c : Char} {t : Int} (h : c ∈ (toString t).toList) :
    Inert c := by
  apply inert_of_isNumeralChar
  unfold isNumeralChar
  by_cases hdigit : c.isDigit = true
  · simp [hdigit]
  · by_cases hsign : c = '-'
    · simp [hsign]
    · exact absurd h (not_mem_toString (Bool.eq_false_iff.mpr hdigit) hsign t)

theorem IsName.word {start : Char -> Bool} {name : String} (h : IsName start name)
    (hstart : forall c, start c = true -> isWordChar c = true) :
    forall c, c ∈ name.toList -> isWordChar c = true := by
  rcases h with ⟨c, rest, hname, hc, hrest⟩
  intro d hd
  rw [hname] at hd
  rcases List.mem_cons.mp hd with hd | hd
  · rw [hd]
    exact hstart c hc
  · exact hrest d hd

theorem Sample.name_word {host : Host} (s : Sample host) :
    forall c, c ∈ s.name.toList -> isWordChar c = true := by
  apply s.name_isName.word
  intro c hc
  simp [isWordChar, Char.isAlphanum, hc]

theorem Sample.label_word {host : Host} (s : Sample host) {l : String × String}
    (hl : l ∈ s.labels) : forall c, c ∈ l.1.toList -> isWordChar c = true := by
  apply (s.labels_isName l hl).word
  intro c hc
  rcases Bool.or_eq_true_iff.mp hc with hc | hc
  · simp [isWordChar, Char.isAlphanum, hc]
  · simp [isWordChar, of_decide_eq_true hc]

/-!
# Escaped values
-/

def isBare (c : Char) : Bool :=
  !(c = '\\' || c = '"' || c = '\n')

theorem escapeChar_of_isBare {c : Char} (h : isBare c = true) : escapeChar c = [c] := by
  simp only [isBare, Bool.not_eq_true', Bool.or_eq_false_iff, decide_eq_false_iff_not] at h
  rw [escapeChar, if_neg h.1.1, if_neg h.1.2, if_neg h.2]

theorem escape_of_isBare {value : List Char}
    (h : forall c, c ∈ value -> isBare c = true) : escape value = value := by
  induction value with
  | nil =>
      rfl
  | cons c rest ih =>
      unfold escape at ih ⊢
      rw [List.flatMap_cons, escapeChar_of_isBare (h c List.mem_cons_self),
        ih (fun d hd => h d (List.mem_cons_of_mem c hd))]
      rfl

theorem escapeChar_cases (c : Char) :
    (isBare c = true ∧ escapeChar c = [c]) ∨
      (isBare c = false ∧ exists d, escapeChar c = ['\\', d] ∧ (d = c ∨ d = 'n')) := by
  by_cases hbare : isBare c = true
  · exact Or.inl ⟨hbare, escapeChar_of_isBare hbare⟩
  · right
    refine ⟨Bool.eq_false_iff.mpr hbare, ?_⟩
    unfold escapeChar
    by_cases hslash : c = '\\'
    · rw [if_pos hslash]
      exact ⟨'\\', rfl, Or.inl hslash.symm⟩
    · by_cases hquote : c = '"'
      · rw [if_neg hslash, if_pos hquote]
        exact ⟨'"', rfl, Or.inl hquote.symm⟩
      · have hnewline : c = '\n' := by
          by_contra hne
          exact hbare (by simp [isBare, hslash, hquote, hne])
        rw [if_neg hslash, if_neg hquote, if_pos hnewline]
        exact ⟨'n', rfl, Or.inr rfl⟩

theorem mem_of_mem_escape {value : List Char} {c : Char} (h : c ∈ escape value) :
    c ∈ value ∨ c = '\\' ∨ c = 'n' := by
  rcases List.mem_flatMap.mp h with ⟨d, hd, hc⟩
  rcases escapeChar_cases d with ⟨_, heq⟩ | ⟨_, e, heq, he⟩
  · rw [heq, List.mem_singleton] at hc
    exact Or.inl (hc ▸ hd)
  · rw [heq, List.mem_cons, List.mem_singleton] at hc
    rcases hc with hc | hc
    · exact Or.inr (Or.inl hc)
    · rcases he with he | he
      · exact Or.inl (by rw [hc, he]; exact hd)
      · exact Or.inr (Or.inr (by rw [hc, he]))

theorem escape_head (value rest : List Char) : escape value ≠ '"' :: rest := by
  intro h
  cases value with
  | nil =>
      cases h
  | cons c others =>
      have hcons : escape (c :: others) = escapeChar c ++ escape others := rfl
      rw [hcons] at h
      rcases escapeChar_cases c with ⟨hbare, heq⟩ | ⟨_, d, heq, _⟩
      · rw [heq] at h
        injection h with hc _
        rw [hc] at hbare
        revert hbare
        decide
      · rw [heq] at h
        injection h with hc _
        revert hc
        decide

theorem count_escapeChar (c : Char) :
    (escapeChar c).count '\\' = [c].count '\\' + if isBare c then 0 else 1 := by
  by_cases hslash : c = '\\'
  · rw [hslash]
    decide
  · by_cases hquote : c = '"'
    · rw [hquote]
      decide
    · by_cases hnewline : c = '\n'
      · rw [hnewline]
        decide
      · simp [escapeChar, isBare, hslash, hquote, hnewline]

theorem count_escape (value : List Char) :
    (escape value).count '\\' = value.count '\\' + value.countP (fun c => !isBare c) := by
  induction value with
  | nil =>
      rfl
  | cons c rest ih =>
      have hcons : escape (c :: rest) = escapeChar c ++ escape rest := rfl
      have hhead : (c :: rest).count '\\' = [c].count '\\' + rest.count '\\' := by
        rw [← List.count_append]
        rfl
      rw [hcons, List.count_append, ih, count_escapeChar, hhead, List.countP_cons]
      cases isBare c <;> simp <;> omega

theorem length_le_escape (value : List Char) : value.length ≤ (escape value).length := by
  induction value with
  | nil =>
      exact le_refl 0
  | cons c rest ih =>
      have hcons : escape (c :: rest) = escapeChar c ++ escape rest := rfl
      rw [hcons, List.length_append, List.length_cons]
      rcases escapeChar_cases c with ⟨_, heq⟩ | ⟨_, d, heq, _⟩
      · rw [heq, List.length_singleton]
        omega
      · rw [heq, List.length_cons, List.length_singleton]
        omega

end Ingestion
end MetricMesh
