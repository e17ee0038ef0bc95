import MetricMesh.Ingestion.Exposition
import MetricMesh.Ingestion.ScrapedPoints

/-!
# Reading back an exported sample

The parser splits at commas, cuts at the last space and never unescapes.  So it
recovers a sample exactly when no label value contains a comma, a line break or a
character that is written with a backslash, and the line ends with the value.
-/

namespace MetricMesh
namespace Ingestion

open Python

/-!
# One label
-/

/-- What is read back of a label value, of which the text is not unescaped. -/
def readBack (value : String) : String :=
  String.ofList (rstripChar '"' (escape value.toList))

theorem stripChar_quoted {body : List Char} (h : forall rest, body ≠ '"' :: rest) :
    stripChar '"' ('"' :: body) = rstripChar '"' body := by
  unfold stripChar
  have hbody : body.dropWhile (fun d => decide (d = '"')) = body := by
    cases body with
    | nil =>
        rfl
    | cons c rest =>
        have hc : c ≠ '"' := fun heq => h rest (heq ▸ rfl)
        simp [hc]
  rw [List.dropWhile_cons, if_pos (decide_eq_true rfl), hbody]

theorem stripChar_label (e : List Char) (h : forall rest, e ≠ '"' :: rest) :
    stripChar '"' ('"' :: e ++ ['"']) = rstripChar '"' e := by
  cases e with
  | nil =>
      rfl
  | cons c rest =>
      have hbody : forall tail, c :: rest ++ ['"'] ≠ '"' :: tail := by
        intro tail heq
        injection heq with hc _
        exact h rest (by rw [hc])
      rw [List.cons_append, stripChar_quoted hbody, rstripChar_append_self]

theorem labelOf_quoted {name : String} {body front : List Char} {d : Char}
    (hname : forall c, c ∈ name.toList -> isWordChar c = true)
    (hbody : body = front ++ [d]) (hd : isSpace d = false) :
    labelOf (name.toList ++ '=' :: '"' :: body) =
      some (name, String.ofList (stripChar '"' ('"' :: body))) := by
  have heq : '=' ∉ name.toList :=
    not_mem_of_inert (fun c hc => inert_of_isWordChar (hname c hc)) (by decide)
  have hkey : stripChars name.toList = name.toList :=
    stripChars_of_unspaced (fun c hc => (inert_of_isWordChar (hname c hc)).space)
  have hends : '"' :: body = ('"' :: front) ++ [d] := by
    rw [hbody]
    rfl
  have hvalue : stripChars ('"' :: body) = '"' :: body :=
    stripChars_of_ends (by decide) hd rfl hends
  unfold labelOf
  rw [cutFirst_append heq]
  simp only [Option.map_some, hkey, hvalue, String.ofList_toList]

theorem labelOf_labelText {label : String × String}
    (hname : forall c, c ∈ label.1.toList -> isWordChar c = true) :
    labelOf (labelText label) = some (label.1, readBack label.2) := by
  have htext : labelText label =
      label.1.toList ++ '=' :: '"' :: (escape label.2.toList ++ ['"']) := by
    simp [labelText]
  have hstrip := stripChar_label (escape label.2.toList) (escape_head _)
  rw [List.cons_append] at hstrip
  rw [htext, labelOf_quoted hname rfl (by decide), hstrip]
  rfl

/-- A value is read back as it was exactly when all of it is written as it is. -/
theorem readBack_eq_iff {value : String} :
    readBack value = value <-> forall c, c ∈ value.toList -> isBare c = true := by
  constructor
  · intro h
    have hchars : rstripChar '"' (escape value.toList) = value.toList := by
      have := congrArg String.toList h
      rwa [readBack, String.toList_ofList] at this
    have hcount := count_escape value.toList
    rw [← count_rstripChar (c := '"') (by decide), hchars] at hcount
    have hzero : value.toList.countP (fun c => !isBare c) = 0 := by omega
    intro c hc
    have hnot := List.countP_eq_zero.mp hzero c hc
    simpa using hnot
  · intro h
    have hquote : '"' ∉ value.toList := by
      intro hmem
      have hbare := h '"' hmem
      revert hbare
      decide
    unfold readBack
    rw [escape_of_isBare h, rstripChar_of_not_mem hquote, String.ofList_toList]

/-!
# The label block
-/

section Block

variable {labels : List (String × String)}

def Words (labels : List (String × String)) : Prop :=
  forall l, l ∈ labels -> forall c, c ∈ l.1.toList -> isWordChar c = true

theorem mem_labelText {label : String × String}
    (hname : forall c, c ∈ label.1.toList -> isWordChar c = true) {c : Char}
    (hc : c ∈ labelText label) :
    Inert c ∨ c = '=' ∨ c = '"' ∨ c = '\\' ∨ c ∈ label.2.toList := by
  simp only [labelText, List.mem_append, List.mem_cons, List.not_mem_nil, or_false] at hc
  rcases hc with (hc | hc | hc | hc) | hc
  · exact Or.inl (inert_of_isWordChar (hname c hc))
  · exact Or.inr (Or.inl hc)
  · exact Or.inr (Or.inr (Or.inl hc))
  · rcases mem_of_mem_escape hc with hc | hc | hc
    · exact Or.inr (Or.inr (Or.inr (Or.inr hc)))
    · exact Or.inr (Or.inr (Or.inr (Or.inl hc)))
    · rw [hc]
      exact Or.inl (by decide)
  · exact Or.inr (Or.inr (Or.inl hc))

theorem comma_not_mem_labelText {label : String × String}
    (hname : forall c, c ∈ label.1.toList -> isWordChar c = true)
    (hvalue : ',' ∉ label.2.toList) : ',' ∉ labelText label := by
  intro hmem
  rcases mem_labelText hname hmem with h | h | h | h | h
  · exact h.ne (by decide) rfl
  · revert h
    decide
  · revert h
    decide
  · revert h
    decide
  · exact hvalue h

theorem filterMap_labelText (hwords : Words labels) :
    (labels.map labelText).filterMap labelOf =
      labels.map (fun l => (l.1, readBack l.2)) := by
  induction labels with
  | nil =>
      rfl
  | cons l rest ih =>
      rw [List.map_cons, List.filterMap_cons,
        labelOf_labelText (hwords l List.mem_cons_self),
        ih (fun m hm => hwords m (List.mem_cons_of_mem l hm))]
      rfl

theorem assignments_blockText (hwords : Words labels)
    (hcomma : forall l, l ∈ labels -> ',' ∉ l.2.toList) :
    assignments (blockText labels) = labels.map (fun l => (l.1, readBack l.2)) := by
  unfold assignments blockText
  rw [rstripChar_append_self]
  rcases List.eq_nil_or_concat labels with hnil | ⟨init, last, hlabels⟩
  · rw [hnil]
    rfl
  · have hend : labelText last =
        (last.1.toList ++ '=' :: '"' :: escape last.2.toList) ++ ['"'] := rfl
    have hstrip : rstripChar '}' ([','].intercalate (labels.map labelText)) =
        [','].intercalate (labels.map labelText) := by
      rw [hlabels, List.concat_eq_append, List.map_append, List.map_singleton, hend,
        ← intercalate_concat_append]
      exact rstripChar_append_of_ne (by decide) _
    have hne : labels.map labelText ≠ [] := by
      rw [hlabels]
      simp
    have hparts : forall p, p ∈ labels.map labelText -> ',' ∉ p := by
      intro p hp
      rcases List.mem_map.mp hp with ⟨l, hl, heq⟩
      rw [← heq]
      exact comma_not_mem_labelText (hwords l hl) (hcomma l hl)
    rw [hstrip, List.splitOn_intercalate ',' hparts hne, filterMap_labelText hwords]

/-- Text after the closing brace ends up in the value of the last label. -/
theorem assignments_blockText_append {init : List (String × String)}
    {last : String × String} {front : List Char} {d : Char}
    (hwords : Words (init ++ [last]))
    (hcomma : forall l, l ∈ init ++ [last] -> ',' ∉ l.2.toList)
    (hfront : ',' ∉ front) (hd : Inert d) :
    assignments (blockText (init ++ [last]) ++ (front ++ [d])) =
      init.map (fun l => (l.1, readBack l.2)) ++
        [(last.1, String.ofList (stripChar '"'
          ('"' :: escape last.2.toList ++ '"' :: '}' :: (front ++ [d]))))] := by
  have hbrace : d ≠ '}' := hd.ne (by decide)
  have htail : blockText (init ++ [last]) ++ (front ++ [d]) =
      [','].intercalate (init.map labelText ++
        [labelText last ++ '}' :: (front ++ [d])]) := by
    rw [← intercalate_concat_append, blockText, List.map_append, List.map_singleton,
      List.append_assoc]
    rfl
  have hstrip : rstripChar '}' (blockText (init ++ [last]) ++ (front ++ [d])) =
      blockText (init ++ [last]) ++ (front ++ [d]) := by
    rw [← List.append_assoc]
    exact rstripChar_append_of_ne hbrace _
  have hparts : forall p, p ∈ init.map labelText ++
      [labelText last ++ '}' :: (front ++ [d])] -> ',' ∉ p := by
    intro p hp
    rcases List.mem_append.mp hp with hp | hp
    · rcases List.mem_map.mp hp with ⟨l, hl, heq⟩
      rw [← heq]
      exact comma_not_mem_labelText (hwords l (List.mem_append_left _ hl))
        (hcomma l (List.mem_append_left _ hl))
    · have hlast : last ∈ init ++ [last] := by simp
      rw [List.mem_singleton.mp hp, List.mem_append, List.mem_cons, List.mem_append,
        List.mem_singleton]
      intro hmem
      rcases hmem with hmem | hmem | hmem | hmem
      · exact comma_not_mem_labelText (hwords last hlast) (hcomma last hlast) hmem
      · revert hmem
        decide
      · exact hfront hmem
      · exact hd.ne (by decide) hmem.symm
  have hlast : labelOf (labelText last ++ '}' :: (front ++ [d])) =
      some (last.1, String.ofList (stripChar '"'
        ('"' :: escape last.2.toList ++ '"' :: '}' :: (front ++ [d])))) := by
    have htext : labelText last ++ '}' :: (front ++ [d]) = last.1.toList ++ '=' :: '"' ::
        (escape last.2.toList ++ '"' :: '}' :: (front ++ [d])) := by
      simp [labelText]
    have hbody : escape last.2.toList ++ '"' :: '}' :: (front ++ [d]) =
        (escape last.2.toList ++ '"' :: '}' :: front) ++ [d] := by
      simp
    rw [htext]
    exact labelOf_quoted (hwords last (by simp)) hbody hd.space
  unfold assignments
  rw [hstrip, htail, List.splitOn_intercalate ',' hparts (by simp), List.filterMap_append,
    filterMap_labelText (fun l hl => hwords l (List.mem_append_left _ hl))]
  simp only [List.filterMap_cons, hlast, List.filterMap_nil]

theorem stripChar_unclosed_ne (value : List Char) {front : List Char} {d : Char}
    (hd : Inert d) :
    stripChar '"' ('"' :: escape value ++ '"' :: '}' :: (front ++ [d])) ≠ value := by
  have hquote : d ≠ '"' := hd.ne (by decide)
  intro h
  have hlength := length_le_escape value
  cases hescape : escape value with
  | nil =>
      rw [hescape] at h hlength
      have hnil : value = [] := List.eq_nil_of_length_eq_zero (Nat.le_zero.mp hlength)
      have hkeep : stripChar '"' ('"' :: [] ++ '"' :: '}' :: (front ++ [d])) =
          '}' :: front ++ [d] :=
        rstripChar_append_of_ne hquote ('}' :: front)
      rw [hkeep, hnil] at h
      cases h
  | cons c rest =>
      have hbody : forall tail, escape value ++ '"' :: '}' :: (front ++ [d]) ≠
          '"' :: tail := by
        intro tail heq
        rw [hescape] at heq
        injection heq with hc _
        exact escape_head value rest (by rw [hescape, hc])
      have hassoc : escape value ++ '"' :: '}' :: (front ++ [d]) =
          (escape value ++ '"' :: '}' :: front) ++ [d] := by simp
      have hkeep : stripChar '"' ('"' :: escape value ++ '"' :: '}' :: (front ++ [d])) =
          (escape value ++ '"' :: '}' :: front) ++ [d] := by
        rw [List.cons_append, stripChar_quoted hbody, hassoc]
        exact rstripChar_append_of_ne hquote _
      rw [hkeep] at h
      have hlong := congrArg List.length h
      simp only [List.length_append, List.length_cons] at hlong
      omega

end Block

/-!
# Names in lower case
-/

theorem lower_of_ascii (host : Host) (cs : List Char)
    (h : forall c, c ∈ cs -> c.toNat < 128) :
    host.lower (String.ofList cs) = String.ofList (cs.map Char.toLower) := by
  unfold Host.lower
  rw [String.toList_ofList, if_pos]
  apply List.all_eq_true.mpr
  intro c hc
  exact decide_eq_true (h c hc)

theorem isAlpha_toLower {host : Host} {c : Char} (h : c.isAlpha = true) :
    host.isAlpha c.toLower = true := by
  have hall : forall n, n < 128 -> (Char.ofNat n).isAlpha = true ->
      (Char.ofNat n).toLower.toNat < 128 ∧ (Char.ofNat n).toLower.isAlpha = true := by
    decide +kernel
  have hlower : c.toLower.toNat < 128 ∧ c.toLower.isAlpha = true :=
    ascii_cases (P := fun c => c.isAlpha = true ->
      c.toLower.toNat < 128 ∧ c.toLower.isAlpha = true) hall
      (toNat_lt_of_isAlphanum (by simp [Char.isAlphanum, h])) h
  rw [Host.isAlpha, if_pos hlower.1]
  exact hlower.2

theorem underscored_toLower {c : Char} (h : isWordChar c = true) :
    underscored c.toLower = c.toLower := by
  have hall : forall n, n < 128 -> isWordChar (Char.ofNat n) = true ->
      underscored (Char.ofNat n).toLower = (Char.ofNat n).toLower := by
    decide +kernel
  exact ascii_cases (P := fun c => isWordChar c = true ->
    underscored c.toLower = c.toLower) hall (toNat_lt_of_isWordChar h) h

theorem safeName_name {host : Host} (s : Sample host) :
    safeName host s.name = some (String.ofList (s.name.toList.map Char.toLower)) := by
  rcases s.name_isName with ⟨c, rest, hname, hc, _⟩
  have hlower := lower_of_ascii host s.name.toList
    (fun d hd => toNat_lt_of_isWordChar (s.name_word d hd))
  rw [String.ofList_toList] at hlower
  apply safeName_eq_some.mpr
  refine ⟨c.toLower, rest.map Char.toLower, ?_, isAlpha_toLower hc, ?_⟩
  · rw [hlower, String.toList_ofList, hname]
    rfl
  · have hsame : (s.name.toList.map Char.toLower).map underscored =
        s.name.toList.map Char.toLower := by
      rw [List.map_map]
      apply List.map_congr_left
      intro d hd
      exact underscored_toLower (s.name_word d hd)
    rw [← hsame, hname]
    rfl

theorem length_safeName {host : Host} {cs : List Char} {safe : String}
    (hascii : forall c, c ∈ cs -> c.toNat < 128)
    (h : safeName host (String.ofList cs) = some safe) : safe.toList.length = cs.length := by
  rcases safeName_eq_some.mp h with ⟨c, rest, hlower, _, hsafe⟩
  rw [hsafe, String.toList_ofList, List.length_map, ← hlower, lower_of_ascii host _ hascii,
    String.toList_ofList, List.length_map]

/-!
# The line
-/

theorem isSkipped_of_word {c : Char} {rest : List Char} (h : isWordChar c = true) :
    isSkipped (c :: rest) = false := by
  have hinert := inert_of_isWordChar h
  have hhash : c ≠ '#' := hinert.ne (by decide)
  have hblank : stripChars (c :: rest) ≠ [] := by
    intro hnil
    have hdrop : (c :: rest).dropWhile isSpace = c :: rest := by
      rw [List.dropWhile_cons, if_neg (by simp [hinert.space])]
    unfold stripChars at hnil
    rw [hdrop, List.reverse_eq_nil_iff, List.dropWhile_eq_nil_iff] at hnil
    have hspace := hnil c (by simp)
    rw [hinert.space] at hspace
    cases hspace
  simp [isSkipped, hhash, hblank]

theorem scrapeLine_of_cut {host : Host} {now : Rat}
    {line nameLabels valueStr name : List Char} {block : Option (List Char)}
    (hskip : isSkipped line = false) (hline : line = nameLabels ++ ' ' :: valueStr)
    (hvalue : ' ' ∉ valueStr) (hhead : HeadOf nameLabels name block) :
    scrapeLine host now line =
      (host.parseFloat (String.ofList valueStr)).bind fun value =>
        (safeName host (String.ofList name)).map fun safe =>
          { metricName := safe
            value := value
            timestamp := .finite now
            labels := labelsOf block
            source := "prometheus_scrape" } := by
  unfold scrapeLine
  rw [if_neg (by simp [hskip]), cutLast_eq_some.mpr ⟨hline, hvalue⟩]
  simp only [nameAndLabels_of_head hhead]
  cases host.parseFloat (String.ofList valueStr) with
  | none =>
      simp only [Option.bind_none]
  | some value =>
      simp only [Option.bind_some]

section Line

variable {host : Host} (s : Sample host)

def lastField : List Char :=
  match s.timestamp with
  | none => s.valueText
  | some t => (toString t).toList

def firstFields : List Char :=
  match s.timestamp with
  | none => s.head
  | some _ => s.head ++ ' ' :: s.valueText

theorem render_eq : s.render = firstFields s ++ ' ' :: lastField s := by
  unfold Sample.render firstFields lastField
  cases s.timestamp <;> simp

theorem lastField_inert : forall c, c ∈ lastField s -> Inert c := by
  intro c hc
  unfold lastField at hc
  cases htimestamp : s.timestamp with
  | none =>
      rw [htimestamp] at hc
      exact inert_of_isNumeralChar (s.valueText_numeral c hc)
  | some t =>
      rw [htimestamp] at hc
      exact inert_of_mem_toString hc

theorem space_not_mem_lastField : ' ' ∉ lastField s :=
  not_mem_of_inert (lastField_inert s) (by decide)

theorem valueText_inert : forall c, c ∈ s.valueText -> Inert c :=
  fun c hc => inert_of_isNumeralChar (s.valueText_numeral c hc)

theorem isSkipped_render : isSkipped s.render = false := by
  rcases s.name_isName with ⟨c, rest, hname, _, _⟩
  have hc : isWordChar c = true := s.name_word c (hname ▸ List.mem_cons_self)
  have hrender : exists tail, s.render = c :: tail := by
    unfold Sample.render Sample.head
    rw [hname]
    by_cases hbare : s.labels = [] ∧ s.braces = false
    · rw [if_pos hbare]
      exact ⟨_, rfl⟩
    · rw [if_neg hbare]
      exact ⟨_, rfl⟩
  rcases hrender with ⟨tail, hrender⟩
  rw [hrender]
  exact isSkipped_of_word hc

theorem brace_not_mem_name : '{' ∉ s.name.toList :=
  not_mem_of_inert (fun c hc => inert_of_isWordChar (s.name_word c hc)) (by decide)

theorem labelText_unbroken {label : String × String}
    (hname : forall c, c ∈ label.1.toList -> isWordChar c = true)
    (hvalue : forall c, c ∈ label.2.toList -> isLineBreak c = false) :
    forall c, c ∈ labelText label -> isLineBreak c = false := by
  intro c hc
  rcases mem_labelText hname hc with hc | hc | hc | hc | hc
  · exact hc.lineBreak
  · rw [hc]
    decide
  · rw [hc]
    decide
  · rw [hc]
    decide
  · exact hvalue c hc

theorem head_unbroken
    (h : forall l, l ∈ s.labels -> forall c, c ∈ l.2.toList -> isLineBreak c = false) :
    forall c, c ∈ s.head -> isLineBreak c = false := by
  intro c hc
  have hname : c ∈ s.name.toList -> isLineBreak c = false :=
    fun hmem => (inert_of_isWordChar (s.name_word c hmem)).lineBreak
  unfold Sample.head at hc
  split at hc
  · exact hname hc
  · rcases List.mem_append.mp hc with hc | hc
    · exact hname hc
    · rcases List.mem_cons.mp hc with hc | hc
      · rw [hc]
        decide
      · rcases List.mem_append.mp hc with hc | hc
        · rcases mem_of_mem_intercalate _ hc with hc | ⟨part, hpart, hc⟩
          · rw [hc]
            decide
          · rcases List.mem_map.mp hpart with ⟨l, hl, heq⟩
            exact labelText_unbroken (s.label_word hl) (h l hl) c (heq ▸ hc)
        · rw [List.mem_singleton.mp hc]
          decide

theorem firstFields_unbroken
    (h : forall l, l ∈ s.labels -> forall c, c ∈ l.2.toList -> isLineBreak c = false) :
    forall c, c ∈ firstFields s -> isLineBreak c = false := by
  intro c hc
  unfold firstFields at hc
  split at hc
  · exact head_unbroken s h c hc
  · rcases List.mem_append.mp hc with hc | hc
    · exact head_unbroken s h c hc
    · rcases List.mem_cons.mp hc with hc | hc
      · rw [hc]
        decide
      · exact (valueText_inert s c hc).lineBreak

theorem render_unbroken
    (h : forall l, l ∈ s.labels -> forall c, c ∈ l.2.toList -> isLineBreak c = false) :
    forall c, c ∈ s.render -> isLineBreak c = false := by
  intro c hc
  rw [render_eq] at hc
  rcases List.mem_append.mp hc with hc | hc
  · exact firstFields_unbroken s h c hc
  · rcases List.mem_cons.mp hc with hc | hc
    · rw [hc]
      decide
    · exact (lastField_inert s c hc).lineBreak

theorem scrape_render (clock : Nat -> Rat)
    (h : forall l, l ∈ s.labels -> forall c, c ∈ l.2.toList -> isLineBreak c = false) :
    scrape host clock s.render = (scrapeLine host (clock 0) s.render).toList := by
  have hne : s.render ≠ [] := by
    rw [render_eq]
    simp
  unfold scrape
  rw [splitlines_of_unbroken hne (render_unbroken s h)]
  cases hline : scrapeLine host (clock 0) s.render <;> simp [hline]

def blockOf : Option (List Char) :=
  if s.labels = [] ∧ s.braces = false then none else some (blockText s.labels)

theorem headOf_head : HeadOf s.head s.name.toList (blockOf s) := by
  unfold Sample.head blockOf
  by_cases hbare : s.labels = [] ∧ s.braces = false
  · rw [if_pos hbare, if_pos hbare]
    exact ⟨brace_not_mem_name s, rfl⟩
  · rw [if_neg hbare, if_neg hbare]
    exact ⟨brace_not_mem_name s, rfl⟩

theorem labelsOf_blockOf (hcomma : forall l, l ∈ s.labels -> ',' ∉ l.2.toList) :
    labelsOf (blockOf s) = s.labels.map (fun l => (l.1, readBack l.2)) := by
  unfold blockOf
  by_cases hbare : s.labels = [] ∧ s.braces = false
  · rw [if_pos hbare, hbare.1]
    rfl
  · have hkeys : ((s.labels.map (fun l => (l.1, readBack l.2))).map Prod.fst).Nodup := by
      rw [List.map_map]
      exact s.labels_distinct
    rw [if_neg hbare, labelsOf, assignments_blockText (fun l hl => s.label_word hl) hcomma,
      Dict.ofPairs_of_nodup hkeys]

theorem scrapeLine_render_of_none {now : Rat} (htimestamp : s.timestamp = none)
    (hcomma : forall l, l ∈ s.labels -> ',' ∉ l.2.toList) :
    scrapeLine host now s.render =
      some
        { metricName := String.ofList (s.name.toList.map Char.toLower)
          value := .finite s.value
          timestamp := .finite now
          labels := s.labels.map (fun l => (l.1, readBack l.2))
          source := "prometheus_scrape" } := by
  have hfirst : firstFields s = s.head := by
    unfold firstFields
    rw [htimestamp]
  have hlast : lastField s = s.valueText := by
    unfold lastField
    rw [htimestamp]
  have hhead : HeadOf (firstFields s) s.name.toList (blockOf s) := by
    rw [hfirst]
    exact headOf_head s
  rw [scrapeLine_of_cut (isSkipped_render s) (render_eq s) (space_not_mem_lastField s)
    hhead, hlast, s.valueText_reads, Option.bind_some, String.ofList_toList, safeName_name,
    labelsOf_blockOf s hcomma]
  rfl

/-!
# Samples that are recovered
-/

/-- The scraper yields one point, with the name, the value and the labels of the sample. -/
def Recovers (clock : Nat -> Rat) : Prop :=
  exists p, scrape host clock s.render = [p] ∧
    p.metricName = String.ofList (s.name.toList.map Char.toLower) ∧
    p.value = .finite s.value ∧
    forall k, Dict.get? p.labels k = Dict.get? s.labels k

/-- No character of a label value is escaped, a comma or the end of a line. -/
def PlainValues : Prop :=
  forall l, l ∈ s.labels -> forall c, c ∈ l.2.toList ->
    isBare c = true ∧ c ≠ ',' ∧ isLineBreak c = false

/--
The line ends with the value, or with a timestamp that is the value, behind empty
braces.
-/
def EndsWithValue : Prop :=
  s.timestamp = none ∨
    exists t, s.timestamp = some t ∧ s.labels = [] ∧ s.braces = true ∧
      host.parseFloat (toString t) = some (.finite s.value)

theorem mem_of_mem_assignments {labelStr : List Char} {k v : String}
    (h : (k, v) ∈ assignments labelStr) {c : Char} (hc : c ∈ v.toList) :
    c ∈ labelStr ∧ c ≠ ',' := by
  rcases List.mem_filterMap.mp h with ⟨part, hpart, hlabel⟩
  rcases Option.map_eq_some_iff.mp hlabel with ⟨cut, hcut, hpair⟩
  injection hpair with _ hv
  rw [← hv, String.toList_ofList] at hc
  have hafter : c ∈ cut.2 := (stripChars_sublist _).mem ((stripChar_sublist _ _).mem hc)
  have hmem : c ∈ part := by
    rw [(cutFirst_eq_some.mp hcut).1]
    exact List.mem_append_right _ (List.mem_cons_of_mem _ hafter)
  rcases mem_of_mem_splitOn _ part hpart hmem with ⟨hblock, hne⟩
  exact ⟨(rstripChar_sublist _ _).mem hblock, hne⟩

theorem plain_of_yielded {clock : Nat -> Rat} {text : List Char} {p : PointDict}
    (hp : p ∈ scrape host clock text) {k v : String} (hk : Dict.get? p.labels k = some v)
    {c : Char} (hc : c ∈ v.toList) : c ≠ ',' ∧ isLineBreak c = false := by
  rcases mem_scrape.mp hp with ⟨i, line, hline, hyield⟩
  rcases scrapeLine_eq_some.mp hyield with ⟨_, nameLabels, valueStr, name, block, value,
    _, _, hcut, _, _, hhead, _, _, heq⟩
  rw [heq] at hk
  cases hblock : block with
  | none =>
      rw [hblock] at hk
      cases hk
  | some labelStr =>
      rw [hblock] at hk hhead
      have hlast : Dict.last? (assignments labelStr) k = some v := by
        rw [← Dict.get?_ofPairs]
        exact hk
      rcases mem_of_mem_assignments (Dict.mem_of_last? hlast) hc with ⟨hmem, hne⟩
      have hnameLabels : nameLabels = name ++ '{' :: labelStr := hhead.2
      refine ⟨hne, unbroken_of_mem_splitlines (List.mem_of_getElem? hline) c ?_⟩
      rw [hcut, hnameLabels]
      exact List.mem_append_left _ (List.mem_append_right _ (List.mem_cons_of_mem _ hmem))

theorem get?_labels {l : String × String} (hl : l ∈ s.labels) :
    Dict.get? s.labels l.1 = some l.2 :=
  (Dict.mem_iff_get? s.labels_distinct).mp hl

theorem comma_of_plain (h : PlainValues s) : forall l, l ∈ s.labels -> ',' ∉ l.2.toList :=
  fun l hl hmem => (h l hl ',' hmem).2.1 rfl

theorem scrapeLine_render_of_empty {now : Rat} {t : Int} (htimestamp : s.timestamp = some t)
    (hlabels : s.labels = []) (hbraces : s.braces = true) :
    scrapeLine host now s.render =
      (host.parseFloat (toString t)).map fun value =>
        { metricName := String.ofList (s.name.toList.map Char.toLower)
          value := value
          timestamp := .finite now
          labels := []
          source := "prometheus_scrape" } := by
  have hfirst : firstFields s =
      s.name.toList ++ '{' :: (['}'] ++ ' ' :: s.valueText) := by
    have hhead : s.head = s.name.toList ++ '{' :: ['}'] := by
      unfold Sample.head
      rw [if_neg (by simp [hbraces]), hlabels]
      rfl
    unfold firstFields
    rw [htimestamp]
    show s.head ++ ' ' :: s.valueText = _
    rw [hhead]
    simp
  have hlast : lastField s = (toString t).toList := by
    unfold lastField
    rw [htimestamp]
  have hassign : assignments (['}'] ++ ' ' :: s.valueText) = [] := by
    have hcomma : ',' ∉ ['}'] ++ ' ' :: s.valueText := by
      simp only [List.singleton_append, List.mem_cons, not_or]
      exact ⟨by decide, by decide, not_mem_of_inert (valueText_inert s) (by decide)⟩
    have hequals : '=' ∉ ['}'] ++ ' ' :: s.valueText := by
      simp only [List.singleton_append, List.mem_cons, not_or]
      exact ⟨by decide, by decide, not_mem_of_inert (valueText_inert s) (by decide)⟩
    have hstripped : forall c, c ∈ rstripChar '}' (['}'] ++ ' ' :: s.valueText) ->
        c ∈ ['}'] ++ ' ' :: s.valueText :=
      fun c hc => (rstripChar_sublist _ _).mem hc
    unfold assignments
    rw [List.splitOn_eq_singleton (fun hmem => hcomma (hstripped ',' hmem))]
    have hnone : labelOf (rstripChar '}' (['}'] ++ ' ' :: s.valueText)) = none := by
      rw [labelOf, cutFirst_eq_none.mpr (fun hmem => hequals (hstripped '=' hmem))]
      rfl
    simp only [List.filterMap_cons, hnone, List.filterMap_nil]
  have hhead : HeadOf (firstFields s) s.name.toList
      (some (['}'] ++ ' ' :: s.valueText)) := ⟨brace_not_mem_name s, hfirst⟩
  rw [scrapeLine_of_cut (isSkipped_render s) (render_eq s) (space_not_mem_lastField s)
    hhead, hlast, String.ofList_toList, String.ofList_toList, safeName_name, labelsOf,
    hassign]
  cases host.parseFloat (toString t) <;> rfl

theorem name_ne_of_bare {now : Rat} {p : PointDict} {t : Int}
    (htimestamp : s.timestamp = some t) (hlabels : s.labels = [])
    (hbraces : s.braces = false) (hyield : scrapeLine host now s.render = some p) :
    p.metricName ≠ String.ofList (s.name.toList.map Char.toLower) := by
  intro hname
  have hfirst : firstFields s = s.name.toList ++ ' ' :: s.valueText := by
    unfold firstFields Sample.head
    rw [htimestamp, if_pos ⟨hlabels, hbraces⟩]
  have hplain : '{' ∉ firstFields s := by
    rw [hfirst, List.mem_append, List.mem_cons, not_or, not_or]
    exact ⟨brace_not_mem_name s, by decide,
      not_mem_of_inert (valueText_inert s) (by decide)⟩
  have hhead : HeadOf (firstFields s) (firstFields s) none := ⟨hplain, rfl⟩
  rw [scrapeLine_of_cut (isSkipped_render s) (render_eq s)
    (space_not_mem_lastField s) hhead] at hyield
  rcases Option.bind_eq_some_iff.mp hyield with ⟨value, _, hsome⟩
  rcases Option.map_eq_some_iff.mp hsome with ⟨safe, hsafe, hp⟩
  have hascii : forall c, c ∈ firstFields s -> c.toNat < 128 := by
    intro c hc
    rw [hfirst] at hc
    rcases List.mem_append.mp hc with hc | hc
    · exact toNat_lt_of_isWordChar (s.name_word c hc)
    · rcases List.mem_cons.mp hc with hc | hc
      · rw [hc]
        decide
      · exact (valueText_inert s c hc).ascii
  have hlength := length_safeName hascii hsafe
  have hsame : safe = String.ofList (s.name.toList.map Char.toLower) := by
    rw [← hname, ← hp]
  rw [hsame, String.toList_ofList, List.length_map, hfirst, List.length_append,
    List.length_cons] at hlength
  omega

theorem lastLabel_ne_of_timestamp {now : Rat} {p : PointDict} {t : Int}
    {init : List (String × String)} {last : String × String}
    (htimestamp : s.timestamp = some t) (hconcat : s.labels = init ++ [last])
    (hcomma : forall l, l ∈ s.labels -> ',' ∉ l.2.toList)
    (hyield : scrapeLine host now s.render = some p) :
    Dict.get? p.labels last.1 ≠ Dict.get? s.labels last.1 := by
  intro hlast
  have hmem : last ∈ s.labels := by
    rw [hconcat]
    simp
  have hblock : s.head = s.name.toList ++ '{' :: blockText s.labels := by
    unfold Sample.head
    rw [if_neg]
    intro hbare
    rw [hbare.1] at hmem
    cases hmem
  rcases List.eq_nil_or_concat s.valueText with hempty | ⟨front, d, hvalueText⟩
  · exact s.valueText_ne hempty
  · rw [List.concat_eq_append] at hvalueText
    have hvalue : forall c, c ∈ front ++ [d] -> Inert c := by
      intro c hc
      exact valueText_inert s c (hvalueText ▸ hc)
    have hd : Inert d := hvalue d (by simp)
    have hfront : ',' ∉ ' ' :: front := by
      rw [List.mem_cons, not_or]
      exact ⟨by decide,
        not_mem_of_inert (fun c hc => hvalue c (List.mem_append_left _ hc)) (by decide)⟩
    have hhead : HeadOf (firstFields s) s.name.toList
        (some (blockText (init ++ [last]) ++ (' ' :: front ++ [d]))) := by
      refine ⟨brace_not_mem_name s, ?_⟩
      show firstFields s = _
      unfold firstFields
      rw [htimestamp]
      show s.head ++ ' ' :: s.valueText = _
      rw [hblock, hconcat, hvalueText]
      simp
    rw [scrapeLine_of_cut (isSkipped_render s) (render_eq s)
      (space_not_mem_lastField s) hhead] at hyield
    rcases Option.bind_eq_some_iff.mp hyield with ⟨value, _, hsome⟩
    rcases Option.map_eq_some_iff.mp hsome with ⟨safe, _, hp⟩
    have hwords : Words (init ++ [last]) := by
      intro l hl
      exact s.label_word (hconcat ▸ hl)
    rw [get?_labels s hmem, ← hp] at hlast
    rw [show Dict.get? (labelsOf (some (blockText (init ++ [last]) ++
        (' ' :: front ++ [d])))) last.1 = Dict.last? (assignments (blockText
        (init ++ [last]) ++ (' ' :: front ++ [d]))) last.1 from
        Dict.get?_ofPairs _ _,
      assignments_blockText_append hwords (hconcat ▸ hcomma) hfront hd,
      Dict.last?_concat, Option.some.injEq] at hlast
    have hchars := congrArg String.toList hlast
    rw [String.toList_ofList] at hchars
    exact stripChar_unclosed_ne last.2.toList hd hchars

/-- A timestamp behind a bare name or behind labels spoils the name or a label. -/
theorem endsWithValue_of_recovers {now : Rat} {p : PointDict}
    (hyield : scrapeLine host now s.render = some p)
    (hname : p.metricName = String.ofList (s.name.toList.map Char.toLower))
    (hvalue : p.value = .finite s.value)
    (hlabels : forall k, Dict.get? p.labels k = Dict.get? s.labels k)
    (hcomma : forall l, l ∈ s.labels -> ',' ∉ l.2.toList) : EndsWithValue s := by
  cases htimestamp : s.timestamp with
  | none =>
      exact Or.inl htimestamp
  | some t =>
      right
      rcases List.eq_nil_or_concat s.labels with hnil | ⟨init, last, hconcat⟩
      · cases hbraces : s.braces with
        | true =>
            rw [scrapeLine_render_of_empty s htimestamp hnil hbraces] at hyield
            rcases Option.map_eq_some_iff.mp hyield with ⟨value, hparse, hp⟩
            refine ⟨t, htimestamp, hnil, rfl, ?_⟩
            rw [hparse, ← hvalue, ← hp]
        | false =>
            exact absurd hname (name_ne_of_bare s htimestamp hnil hbraces hyield)
      · rw [List.concat_eq_append] at hconcat
        exact absurd (hlabels last.1)
          (lastLabel_ne_of_timestamp s htimestamp hconcat hcomma hyield)

theorem get?_readBack {l : String × String} (hl : l ∈ s.labels) :
    Dict.get? (s.labels.map (fun l => (l.1, readBack l.2))) l.1 = some (readBack l.2) := by
  have hkeys : ((s.labels.map (fun l => (l.1, readBack l.2))).map Prod.fst).Nodup := by
    rw [List.map_map]
    exact s.labels_distinct
  exact (Dict.mem_iff_get? hkeys).mp (List.mem_map.mpr ⟨l, hl, rfl⟩)

theorem fits_of_recovers {clock : Nat -> Rat} (h : Recovers s clock) :
    PlainValues s ∧ EndsWithValue s := by
  rcases h with ⟨p, hscrape, hname, hvalue, hlabels⟩
  have hp : p ∈ scrape host clock s.render := by
    rw [hscrape]
    exact List.mem_singleton.mpr rfl
  have hyielded : forall l, l ∈ s.labels -> forall c, c ∈ l.2.toList ->
      c ≠ ',' ∧ isLineBreak c = false := by
    intro l hl c hc
    exact plain_of_yielded hp ((hlabels l.1).trans (get?_labels s hl)) hc
  have hcomma : forall l, l ∈ s.labels -> ',' ∉ l.2.toList :=
    fun l hl hmem => (hyielded l hl ',' hmem).1 rfl
  have hyield : scrapeLine host (clock 0) s.render = some p := by
    rw [scrape_render s clock (fun l hl c hc => (hyielded l hl c hc).2)] at hscrape
    cases hline : scrapeLine host (clock 0) s.render with
    | none =>
        rw [hline] at hscrape
        cases hscrape
    | some q =>
        rw [hline] at hscrape
        injection hscrape with hq _
        rw [hq]
  have hends := endsWithValue_of_recovers s hyield hname hvalue hlabels hcomma
  refine ⟨?_, hends⟩
  intro l hl c hc
  refine ⟨?_, hyielded l hl c hc⟩
  rcases hends with htimestamp | ⟨t, _, hnil, _⟩
  · rw [scrapeLine_render_of_none s htimestamp hcomma] at hyield
    injection hyield with hyield
    have hback := hlabels l.1
    rw [get?_labels s hl, ← hyield] at hback
    have hread : some (readBack l.2) = some l.2 := (get?_readBack s hl).symm.trans hback
    injection hread with hread
    exact readBack_eq_iff.mp hread c hc
  · rw [hnil] at hl
    cases hl

theorem recovers_of_fits {clock : Nat -> Rat} (hplain : PlainValues s)
    (hends : EndsWithValue s) : Recovers s clock := by
  rw [Recovers, scrape_render s clock (fun l hl c hc => (hplain l hl c hc).2.2)]
  rcases hends with htimestamp | ⟨t, htimestamp, hnil, hbraces, hparse⟩
  · rw [scrapeLine_render_of_none s htimestamp (comma_of_plain s hplain)]
    refine ⟨_, rfl, rfl, rfl, ?_⟩
    intro k
    have hsame : s.labels.map (fun l => (l.1, readBack l.2)) = s.labels := by
      conv_rhs => rw [← List.map_id s.labels]
      apply List.map_congr_left
      intro l hl
      rw [readBack_eq_iff.mpr (fun c hc => (hplain l hl c hc).1)]
      rfl
    show Dict.get? (s.labels.map (fun l => (l.1, readBack l.2))) k = _
    rw [hsame]
  · rw [scrapeLine_render_of_empty s htimestamp hnil hbraces, hparse]
    refine ⟨_, rfl, rfl, rfl, ?_⟩
    intro k
    rw [hnil]

/--
A sample is recovered exactly when its label values are plain and its line ends
with the value.
-/
theorem recovers_iff (clock : Nat -> Rat) :
    Recovers s clock <-> PlainValues s ∧ EndsWithValue s := by
  constructor
  · intro h
    exact fits_of_recovers s h
  · intro h
    exact recovers_of_fits s h.1 h.2

end Line

/-! A label value with a comma is cut at the comma. -/

def oneHost : Host :=
  { Host.withDigests [] with
    parseFloat := fun s => if s = "1" then some (.finite 1) else none }

def listedRoutes : Sample oneHost where
  name := "routes"
  name_isName := ⟨'r', "outes".toList, rfl, rfl, List.all_eq_true.mp (by decide)⟩
  labels := [("path", "/a,/b")]
  labels_isName := by
    intro l hl
    rw [List.mem_singleton.mp hl]
    exact ⟨'p', "ath".toList, rfl, rfl, List.all_eq_true.mp (by decide)⟩
  labels_distinct := by decide
  value := 1
  valueText := ['1']
  valueText_ne := by decide
  valueText_numeral := List.all_eq_true.mp (by decide)
  valueText_reads := rfl

theorem listedRoutes_cut :
    ¬ forall (host : Host) (clock : Nat -> Rat) (s : Sample host), Recovers s clock := by
  intro h
  rcases h oneHost (fun _ => 1700000000) listedRoutes with ⟨p, hscrape, _, _, hlabels⟩
  have hrun : scrape oneHost (fun _ => 1700000000) listedRoutes.render =
      [{ metricName := "routes", value := .finite 1, timestamp := .finite 1700000000,
         labels := [("path", "/a")], source := "prometheus_scrape" }] := by
    decide +kernel
  rw [hrun] at hscrape
  injection hscrape with hp _
  have hpath := hlabels "path"
  rw [← hp] at hpath
  revert hpath
  decide +kernel

end Ingestion
end MetricMesh
