import Mathlib.Tactic.Common
import MetricMesh.Python.Dict
import MetricMesh.Python.Double

/-!
# JSON documents

The values that `json.loads` can return and the text it accepts.  Python's
decoder is more liberal than the JSON standard in three ways that matter here:
it reads the tokens `NaN`, `Infinity` and `-Infinity`, it takes a
repeated object key to mean the last value given for it, and a decimal literal
too large for a float becomes an infinity.

Floats are their exact values together with the three special ones.  Two things
are parameters of the decoder: the number of digits from which on the interpreter
refuses to convert an integer, and the characters that stand for the lone
surrogates, which are no characters of their own.
-/

namespace MetricMesh
namespace Python

inductive Json where
  | null
  | bool (b : Bool)
  | int (n : Int)
  | float (x : PyFloat)
  | str (s : String)
  | arr (items : List Json)
  | obj (fields : List (String × Json))

mutual

def Json.decEq : (a b : Json) → Decidable (a = b)
  | .null, .null => isTrue rfl
  | .bool a, .bool b => if h : a = b then isTrue (by rw [h]) else isFalse (by simpa using h)
  | .int a, .int b => if h : a = b then isTrue (by rw [h]) else isFalse (by simpa using h)
  | .float a, .float b => if h : a = b then isTrue (by rw [h]) else isFalse (by simpa using h)
  | .str a, .str b => if h : a = b then isTrue (by rw [h]) else isFalse (by simpa using h)
  | .arr a, .arr b =>
      match Json.decEqItems a b with
      | isTrue h => isTrue (by rw [h])
      | isFalse h => isFalse (by simpa using h)
  | .obj a, .obj b =>
      match Json.decEqFields a b with
      | isTrue h => isTrue (by rw [h])
      | isFalse h => isFalse (by simpa using h)
  | .null, .bool _ | .null, .int _ | .null, .float _ | .null, .str _
  | .null, .arr _ | .null, .obj _
  | .bool _, .null | .bool _, .int _ | .bool _, .float _ | .bool _, .str _
  | .bool _, .arr _ | .bool _, .obj _
  | .int _, .null | .int _, .bool _ | .int _, .float _ | .int _, .str _
  | .int _, .arr _ | .int _, .obj _
  | .float _, .null | .float _, .bool _ | .float _, .int _ | .float _, .str _
  | .float _, .arr _ | .float _, .obj _
  | .str _, .null | .str _, .bool _ | .str _, .int _ | .str _, .float _
  | .str _, .arr _ | .str _, .obj _
  | .arr _, .null | .arr _, .bool _ | .arr _, .int _ | .arr _, .float _
  | .arr _, .str _ | .arr _, .obj _
  | .obj _, .null | .obj _, .bool _ | .obj _, .int _ | .obj _, .float _
  | .obj _, .str _ | .obj _, .arr _ =>
      isFalse (by simp)

def Json.decEqItems : (a b : List Json) → Decidable (a = b)
  | [], [] => isTrue rfl
  | [], _ :: _ => isFalse (by simp)
  | _ :: _, [] => isFalse (by simp)
  | a :: as, b :: bs =>
      match Json.decEq a b, Json.decEqItems as bs with
      | isTrue h, isTrue hs => isTrue (by rw [h, hs])
      | isFalse h, _ => isFalse (by simp [h])
      | _, isFalse hs => isFalse (by simp [hs])

def Json.decEqFields : (a b : List (String × Json)) → Decidable (a = b)
  | [], [] => isTrue rfl
  | [], _ :: _ => isFalse (by simp)
  | _ :: _, [] => isFalse (by simp)
  | (k, a) :: as, (k', b) :: bs =>
      if hk : k = k' then
        match Json.decEq a b, Json.decEqFields as bs with
        | isTrue h, isTrue hs => isTrue (by rw [hk, h, hs])
        | isFalse h, _ => isFalse (by simp [h])
        | _, isFalse hs => isFalse (by simp [hs])
      else isFalse (by simp [hk])

end

instance : DecidableEq Json := Json.decEq

/-- Why `json.loads` raises; every case but the last is a `ValueError`. -/
inductive LoadsError where
  | utf8Bom
  | expectingValue
  | expectingPropertyName
  | expectingColon
  | expectingComma
  | unterminatedString
  | invalidControlCharacter
  | invalidEscape
  | tooManyDigits
  | extraData
  | outOfFuel
deriving DecidableEq

structure Decoder where
  /-- The character that stands for a surrogate that is not half of a pair. -/
  surrogate : Nat -> Char
  /-- `sys.get_int_max_str_digits()`, or nothing when there is no limit. -/
  maxIntDigits : Option Nat := some 4300

/-- The decoder of an interpreter that converts every integer. -/
def Decoder.unlimited (decoder : Decoder) : Decoder :=
  { decoder with maxIntDigits := none }

/-- Python refuses to convert an integer with so many digits. -/
def Decoder.refuses (decoder : Decoder) (digits : Nat) : Bool :=
  match decoder.maxIntDigits with
  | none => false
  | some limit => decide (limit < digits)

namespace Json

section Scanning

variable (decoder : Decoder)

/-!
# Lexical pieces
-/

def isJsonSpace (c : Char) : Bool :=
  c == ' ' || c == '\t' || c == '\n' || c == '\r'

def skipSpace (cs : List Char) : List Char :=
  cs.dropWhile isJsonSpace

def isDigit (c : Char) : Bool :=
  '0' ≤ c && c ≤ '9'

def digitsValue (cs : List Char) : Nat :=
  cs.foldl (fun n c => 10 * n + (c.toNat - '0'.toNat)) 0

def hexDigit? (c : Char) : Option Nat :=
  if isDigit c then some (c.toNat - '0'.toNat)
  else if 'a' ≤ c ∧ c ≤ 'f' then some (c.toNat - 'a'.toNat + 10)
  else if 'A' ≤ c ∧ c ≤ 'F' then some (c.toNat - 'A'.toNat + 10)
  else none

def hex4? (a b c d : Char) : Option Nat := do
  let a <- hexDigit? a
  let b <- hexDigit? b
  let c <- hexDigit? c
  let d <- hexDigit? d
  return ((a * 16 + b) * 16 + c) * 16 + d

def simpleEscape? (c : Char) : Option Char :=
  match c with
  | '"' => some '"'
  | '\\' => some '\\'
  | '/' => some '/'
  | 'b' => some '\x08'
  | 'f' => some '\x0c'
  | 'n' => some '\n'
  | 'r' => some '\r'
  | 't' => some '\t'
  | _ => none

/--
The code units of a string literal, up to and including its closing quote.
The opening quote has been read.
-/
def scanUnits : List Char -> List Nat ->
    Except LoadsError (List Nat × List Char)
  | [], _ => .error .unterminatedString
  | c :: rest, acc =>
      if c = '"' then
        .ok (acc.reverse, rest)
      else if c = '\\' then
        match rest with
        | [] => .error .unterminatedString
        | 'u' :: a :: b :: c :: d :: rest =>
            match hex4? a b c d with
            | some unit => scanUnits rest (unit :: acc)
            | none => .error .invalidEscape
        | e :: rest =>
            match simpleEscape? e with
            | some c => scanUnits rest (c.toNat :: acc)
            | none => .error .invalidEscape
      else if c.toNat < 0x20 then
        .error .invalidControlCharacter
      else
        scanUnits rest (c.toNat :: acc)

def charOfUnit (unit : Nat) : Char :=
  if 0xd800 ≤ unit ∧ unit ≤ 0xdfff then decoder.surrogate unit else Char.ofNat unit

def joinSurrogates : List Nat -> List Char
  | [] => []
  | [unit] => [charOfUnit decoder unit]
  | hi :: lo :: rest =>
      if 0xd800 ≤ hi ∧ hi ≤ 0xdbff ∧ 0xdc00 ≤ lo ∧ lo ≤ 0xdfff then
        Char.ofNat (0x10000 + (hi - 0xd800) * 0x400 + (lo - 0xdc00)) ::
          joinSurrogates rest
      else
        charOfUnit decoder hi :: joinSurrogates (lo :: rest)

def scanString (cs : List Char) : Except LoadsError (String × List Char) :=
  match scanUnits cs [] with
  | .error e => .error e
  | .ok (units, rest) => .ok (String.ofList (joinSurrogates decoder units), rest)

/-!
# Numbers

An integer part, then a fraction and an exponent where each is complete.  A
literal with neither is an integer, which Python converts unless it has too many
digits.
-/

def takeDigits (cs : List Char) : List Char × List Char :=
  (cs.takeWhile isDigit, cs.dropWhile isDigit)

def intPart? (cs : List Char) : Option (List Char × List Char) :=
  match cs with
  | [] => none
  | c :: rest =>
      if c = '0' then some (['0'], rest)
      else if isDigit c then some (takeDigits cs)
      else none

def fracPart (cs : List Char) : List Char × List Char :=
  match cs with
  | '.' :: rest => if (takeDigits rest).1 = [] then ([], cs) else takeDigits rest
  | _ => ([], cs)

/-- The exponent, if a complete one follows. -/
def expPart (cs : List Char) : Option Int × List Char :=
  match cs with
  | e :: rest =>
      if e = 'e' ∨ e = 'E' then
        match rest with
        | '-' :: ds =>
            if (takeDigits ds).1 = [] then (none, cs)
            else (some (-(digitsValue (takeDigits ds).1 : Int)), (takeDigits ds).2)
        | '+' :: ds =>
            if (takeDigits ds).1 = [] then (none, cs)
            else (some (digitsValue (takeDigits ds).1), (takeDigits ds).2)
        | ds =>
            if (takeDigits ds).1 = [] then (none, cs)
            else (some (digitsValue (takeDigits ds).1), (takeDigits ds).2)
      else
        (none, cs)
  | [] => (none, cs)

def numberValue (neg : Bool) (digits frac : List Char) (exp : Option Int) :
    Except LoadsError Json :=
  let sign : Int := if neg then -1 else 1
  if frac = [] ∧ exp = none then
    if decoder.refuses digits.length then .error .tooManyDigits
    else .ok (.int (sign * digitsValue digits))
  else
    let mantissa : Rat := sign * digitsValue (digits ++ frac)
    let scale : Int := exp.getD 0 - frac.length
    .ok (.float (Double.ofExact
      (if 0 ≤ scale then mantissa * 10 ^ scale.toNat
       else mantissa / 10 ^ (-scale).toNat)))

def scanNumber (cs : List Char) : Option (Except LoadsError Json × List Char) :=
  let neg := cs.head? == some '-'
  let body := if neg then cs.tail else cs
  match intPart? body with
  | none => none
  | some (digits, rest) =>
      let frac := fracPart rest
      let exp := expPart frac.2
      some (numberValue decoder neg digits frac.1 exp.1, exp.2)

/-- The literal names, tried after numbers. -/
def scanName (cs : List Char) : Option (Json × List Char) :=
  match cs with
  | 'n' :: 'u' :: 'l' :: 'l' :: rest => some (.null, rest)
  | 't' :: 'r' :: 'u' :: 'e' :: rest => some (.bool true, rest)
  | 'f' :: 'a' :: 'l' :: 's' :: 'e' :: rest => some (.bool false, rest)
  | 'N' :: 'a' :: 'N' :: rest => some (.float .nan, rest)
  | 'I' :: 'n' :: 'f' :: 'i' :: 'n' :: 'i' :: 't' :: 'y' :: rest =>
      some (.float .inf, rest)
  | '-' :: 'I' :: 'n' :: 'f' :: 'i' :: 'n' :: 'i' :: 't' :: 'y' :: rest =>
      some (.float .negInf, rest)
  | _ => none

def scanAtom (cs : List Char) : Except LoadsError (Json × List Char) :=
  match cs with
  | '"' :: rest =>
      match scanString decoder rest with
      | .error e => .error e
      | .ok (s, rest) => .ok (.str s, rest)
  | _ =>
      match scanNumber decoder cs with
      | some (.ok v, rest) => .ok (v, rest)
      | some (.error e, _) => .error e
      | none =>
          match scanName cs with
          | some found => .ok found
          | none => .error .expectingValue

/-!
# Values

The three scanners call each other on what the previous one left.  The fuel
bounds the number of calls; `loads_ne_outOfFuel` below shows that it is
never what stops the decoder.
-/

mutual

def scanOnce : Nat -> List Char -> Except LoadsError (Json × List Char)
  | 0, _ => .error .outOfFuel
  | fuel + 1, cs =>
      match cs with
      | '[' :: rest =>
          match skipSpace rest with
          | ']' :: rest => .ok (.arr [], rest)
          | rest => scanItems fuel rest []
      | '{' :: rest =>
          match skipSpace rest with
          | '}' :: rest => .ok (.obj [], rest)
          | rest => scanFields fuel rest []
      | cs => scanAtom decoder cs

/-- `JSONArray` after the opening bracket, with the items so far reversed. -/
def scanItems : Nat -> List Char -> List Json ->
    Except LoadsError (Json × List Char)
  | 0, _, _ => .error .outOfFuel
  | fuel + 1, cs, acc =>
      match scanOnce fuel cs with
      | .error e => .error e
      | .ok (v, rest) =>
          match skipSpace rest with
          | ']' :: rest => .ok (.arr (v :: acc).reverse, rest)
          | ',' :: rest => scanItems fuel (skipSpace rest) (v :: acc)
          | _ => .error .expectingComma

/-- `JSONObject` after the opening brace, with the pairs so far reversed. -/
def scanFields : Nat -> List Char -> List (String × Json) ->
    Except LoadsError (Json × List Char)
  | 0, _, _ => .error .outOfFuel
  | fuel + 1, cs, acc =>
      match cs with
      | '"' :: rest =>
          match scanString decoder rest with
          | .error e => .error e
          | .ok (key, rest) =>
              match skipSpace rest with
              | ':' :: rest =>
                  match scanOnce fuel (skipSpace rest) with
                  | .error e => .error e
                  | .ok (v, rest) =>
                      match skipSpace rest with
                      | '}' :: rest =>
                          .ok (.obj (Dict.ofPairs ((key, v) :: acc).reverse), rest)
                      | ',' :: rest =>
                          scanFields fuel (skipSpace rest) ((key, v) :: acc)
                      | _ => .error .expectingComma
              | _ => .error .expectingColon
      | _ => .error .expectingPropertyName

end

def loads (s : String) : Except LoadsError Json :=
  if s.toList.head? = some '\uFEFF' then
    .error .utf8Bom
  else
    match scanOnce decoder (2 * s.toList.length + 1) (skipSpace s.toList) with
    | .error e => .error e
    | .ok (v, rest) =>
        match skipSpace rest with
        | [] => .ok v
        | _ => .error .extraData

/-!
# The decoder never runs out of fuel

Every scanner that succeeds has consumed at least one character, and a
container costs two calls for each character it reads, so the fuel that
`loads` supplies always suffices.
-/

/-- A scanner that succeeds leaves fewer than `n` characters. -/
def Consumes {β : Type} (n : Nat) : Except LoadsError (β × List Char) -> Prop
  | .ok (_, rest) => rest.length < n
  | .error e => e ≠ .outOfFuel

theorem skipSpace_length_le (cs : List Char) :
    (skipSpace cs).length ≤ cs.length :=
  (List.dropWhile_suffix _).length_le

theorem takeDigits_length_le (cs : List Char) :
    (takeDigits cs).2.length ≤ cs.length :=
  (List.dropWhile_suffix _).length_le

theorem scanUnits_consumes (cs : List Char) (acc : List Nat) :
    Consumes cs.length (scanUnits cs acc) := by
  fun_induction scanUnits cs acc <;>
    simp_all [Consumes] <;> grind [Consumes]

theorem scanString_consumes (cs : List Char) :
    Consumes cs.length (scanString decoder cs) := by
  have h := scanUnits_consumes cs []
  unfold scanString
  cases hscan : scanUnits cs [] with
  | error e =>
      rw [hscan] at h
      exact h
  | ok p =>
      rw [hscan] at h
      exact h

theorem intPart?_length {cs digits rest : List Char}
    (h : intPart? cs = some (digits, rest)) : rest.length < cs.length := by
  unfold intPart? at h
  split at h
  · cases h
  · rename_i c tail
    split at h
    · cases h
      simp
    · split at h
      · rename_i hdigit
        have htail := takeDigits_length_le tail
        cases h
        simpa [takeDigits, hdigit, Nat.lt_succ_iff] using htail
      · cases h

theorem fracPart_length_le (cs : List Char) :
    (fracPart cs).2.length ≤ cs.length := by
  unfold fracPart
  split
  · rename_i rest
    have hrest := takeDigits_length_le rest
    split
    · simp
    · simp
      omega
  · exact le_refl _

theorem expPart_length_le (cs : List Char) :
    (expPart cs).2.length ≤ cs.length := by
  unfold expPart
  split
  · rename_i e rest
    split
    · split
      · rename_i ds
        have hds := takeDigits_length_le ds
        split
        · simp
        · simp
          omega
      · rename_i ds
        have hds := takeDigits_length_le ds
        split
        · simp
        · simp
          omega
      · have hds := takeDigits_length_le rest
        split
        · simp
        · simp
          omega
    · exact le_refl _
  · exact le_refl _

theorem numberValue_ne_outOfFuel (neg : Bool) (digits frac : List Char)
    (exp : Option Int) : numberValue decoder neg digits frac exp ≠ .error .outOfFuel := by
  unfold numberValue
  by_cases hint : frac = [] ∧ exp = none
  · by_cases hlong : decoder.refuses digits.length <;> simp [hint, hlong]
  · simp [hint]

theorem scanNumber_length {cs : List Char} {r : Except LoadsError Json}
    {rest : List Char} (h : scanNumber decoder cs = some (r, rest)) :
    rest.length < cs.length ∧ r ≠ .error .outOfFuel := by
  unfold scanNumber at h
  simp only at h
  split at h
  · cases h
  · rename_i digits body hint
    cases h
    refine ⟨?_, numberValue_ne_outOfFuel decoder _ _ _ _⟩
    have hbody := intPart?_length hint
    have hfrac := fracPart_length_le body
    have hexp := expPart_length_le (fracPart body).2
    have htail : (if (cs.head? == some '-') = true then cs.tail else cs).length ≤ cs.length := by
      split <;> simp
    omega

theorem scanName_length {cs : List Char} {v : Json} {rest : List Char}
    (h : scanName cs = some (v, rest)) : rest.length < cs.length := by
  unfold scanName at h
  split at h <;> cases h <;> simp <;> omega

theorem scanAtom_consumes (cs : List Char) :
    Consumes cs.length (scanAtom decoder cs) := by
  unfold scanAtom
  split
  · rename_i rest
    have hstr := scanString_consumes decoder rest
    cases hscan : scanString decoder rest with
    | error e =>
        rw [hscan] at hstr
        exact hstr
    | ok p =>
        rw [hscan] at hstr
        exact Nat.lt_succ_of_lt hstr
  · split
    · rename_i hnum
      exact (scanNumber_length decoder hnum).1
    · rename_i e _ hnum
      intro he
      exact (scanNumber_length decoder hnum).2 (by rw [he])
    · split
      · rename_i found hname
        rcases found with ⟨v, rest⟩
        exact scanName_length hname
      · simp [Consumes]

theorem Consumes.mono {β : Type} {n m : Nat}
    {r : Except LoadsError (β × List Char)} (h : Consumes n r) (hle : n ≤ m) :
    Consumes m r := by
  cases r with
  | error e => exact h
  | ok p => exact lt_of_lt_of_le h hle

theorem scanOnce_consumes_succ {fuel : Nat}
    (hitems : forall cs acc, 2 * cs.length + 1 < fuel ->
      Consumes cs.length (scanItems decoder fuel cs acc))
    (hfields : forall cs acc, 2 * cs.length + 1 < fuel ->
      Consumes cs.length (scanFields decoder fuel cs acc)) :
    forall cs, 2 * cs.length < fuel + 1 ->
      Consumes cs.length (scanOnce decoder (fuel + 1) cs) := by
  intro cs hfuel
  unfold scanOnce
  split
  · rename_i rest
    have hskip := skipSpace_length_le rest
    simp only [List.length_cons] at hfuel
    split
    · rename_i tail htail
      have hlen := congrArg List.length htail
      simp [Consumes] at hlen ⊢
      omega
    · exact (hitems (skipSpace rest) [] (by omega)).mono (by simp; omega)
  · rename_i rest
    have hskip := skipSpace_length_le rest
    simp only [List.length_cons] at hfuel
    split
    · rename_i tail htail
      have hlen := congrArg List.length htail
      simp [Consumes] at hlen ⊢
      omega
    · exact (hfields (skipSpace rest) [] (by omega)).mono (by simp; omega)
  · exact scanAtom_consumes decoder cs

theorem scanItems_consumes_succ {fuel : Nat}
    (honce : forall cs, 2 * cs.length < fuel ->
      Consumes cs.length (scanOnce decoder fuel cs))
    (hitems : forall cs acc, 2 * cs.length + 1 < fuel ->
      Consumes cs.length (scanItems decoder fuel cs acc)) :
    forall cs acc, 2 * cs.length + 1 < fuel + 1 ->
      Consumes cs.length (scanItems decoder (fuel + 1) cs acc) := by
  intro cs acc hfuel
  unfold scanItems
  have hvalue := honce cs (by omega)
  cases hscan : scanOnce decoder fuel cs with
  | error e =>
      rw [hscan] at hvalue
      exact hvalue
  | ok p =>
      rcases p with ⟨v, rest⟩
      rw [hscan] at hvalue
      have hskip := skipSpace_length_le rest
      have hrest : rest.length < cs.length := hvalue
      simp only
      split
      · rename_i tail htail
        rw [htail] at hskip
        simp [Consumes] at hskip ⊢
        omega
      · rename_i tail htail
        rw [htail] at hskip
        have hnext := skipSpace_length_le tail
        simp at hskip
        exact (hitems (skipSpace tail) (v :: acc) (by omega)).mono
          (by omega)
      · simp [Consumes]

theorem scanFields_consumes_succ {fuel : Nat}
    (honce : forall cs, 2 * cs.length < fuel ->
      Consumes cs.length (scanOnce decoder fuel cs))
    (hfields : forall cs acc, 2 * cs.length + 1 < fuel ->
      Consumes cs.length (scanFields decoder fuel cs acc)) :
    forall cs acc, 2 * cs.length + 1 < fuel + 1 ->
      Consumes cs.length (scanFields decoder (fuel + 1) cs acc) := by
  intro cs acc hfuel
  unfold scanFields
  split
  · rename_i body
    have hkey := scanString_consumes decoder body
    simp only [List.length_cons] at hfuel
    cases hscan : scanString decoder body with
    | error e =>
        rw [hscan] at hkey
        exact hkey
    | ok p =>
        rcases p with ⟨key, rest⟩
        rw [hscan] at hkey
        have hskip := skipSpace_length_le rest
        have hrest : rest.length < body.length := hkey
        simp only
        split
        · rename_i tail htail
          rw [htail] at hskip
          have hnext := skipSpace_length_le tail
          simp at hskip
          have hvalue := honce (skipSpace tail) (by omega)
          cases hscan' : scanOnce decoder fuel (skipSpace tail) with
          | error e =>
              rw [hscan'] at hvalue
              exact hvalue
          | ok p =>
              rcases p with ⟨v, rest'⟩
              rw [hscan'] at hvalue
              have hskip' := skipSpace_length_le rest'
              have hrest' : rest'.length < (skipSpace tail).length := hvalue
              simp only
              split
              · rename_i tail' htail'
                rw [htail'] at hskip'
                simp [Consumes] at hskip' ⊢
                omega
              · rename_i tail' htail'
                rw [htail'] at hskip'
                have hnext' := skipSpace_length_le tail'
                simp at hskip'
                exact (hfields (skipSpace tail') ((key, v) :: acc)
                  (by omega)).mono (by simp; omega)
              · simp [Consumes]
        · simp [Consumes]
  · simp [Consumes]

theorem scan_consumes (fuel : Nat) :
    (forall cs, 2 * cs.length < fuel ->
      Consumes cs.length (scanOnce decoder fuel cs)) ∧
    (forall cs acc, 2 * cs.length + 1 < fuel ->
      Consumes cs.length (scanItems decoder fuel cs acc)) ∧
    (forall cs acc, 2 * cs.length + 1 < fuel ->
      Consumes cs.length (scanFields decoder fuel cs acc)) := by
  induction fuel with
  | zero =>
      refine ⟨?_, ?_, ?_⟩ <;> intros <;> omega
  | succ fuel ih =>
      rcases ih with ⟨honce, hitems, hfields⟩
      exact ⟨scanOnce_consumes_succ decoder hitems hfields,
        scanItems_consumes_succ decoder honce hitems,
        scanFields_consumes_succ decoder honce hfields⟩

theorem loads_ne_outOfFuel (s : String) : loads decoder s ≠ .error .outOfFuel := by
  unfold loads
  split
  · simp
  · have hskip := skipSpace_length_le s.toList
    have hscan := (scan_consumes decoder (2 * s.toList.length + 1)).1
      (skipSpace s.toList) (by omega)
    cases hvalue : scanOnce decoder (2 * s.toList.length + 1) (skipSpace s.toList) with
    | error e =>
        rw [hvalue] at hscan
        simpa [Consumes] using hscan
    | ok p =>
        simp only
        split <;> simp

/-!
# The limit on digits

An interpreter that converts every integer decodes a text in the same way, unless
the limit is what stops the decoder.
-/

def SameUnlessRefused {β : Type} (r r' : Except LoadsError β) : Prop :=
  r = .error .tooManyDigits ∨ r = r'

theorem joinSurrogates_unlimited (units : List Nat) :
    joinSurrogates decoder.unlimited units = joinSurrogates decoder units := by
  induction units using joinSurrogates.induct with
  | case1 => rfl
  | case2 unit => rfl
  | case3 hi lo rest hpair ih =>
      rw [joinSurrogates, joinSurrogates, if_pos hpair, if_pos hpair, ih]
  | case4 hi lo rest hpair ih =>
      rw [joinSurrogates, joinSurrogates, if_neg hpair, if_neg hpair, ih]
      rfl

theorem scanString_unlimited (cs : List Char) :
    scanString decoder.unlimited cs = scanString decoder cs := by
  unfold scanString
  simp only [joinSurrogates_unlimited]

theorem scanNumber_unlimited (cs : List Char) :
    scanNumber decoder cs = scanNumber decoder.unlimited cs ∨
      exists rest, scanNumber decoder cs = some (.error .tooManyDigits, rest) := by
  unfold scanNumber
  dsimp only
  split
  · exact Or.inl rfl
  · rename_i digits rest _
    unfold numberValue
    dsimp only
    by_cases hint : (fracPart rest).1 = [] ∧ (expPart (fracPart rest).2).1 = none
    · rw [if_pos hint, if_pos hint]
      by_cases hlong : decoder.refuses digits.length = true
      · rw [if_pos hlong]
        exact Or.inr ⟨_, rfl⟩
      · rw [if_neg hlong]
        exact Or.inl rfl
    · rw [if_neg hint, if_neg hint]
      exact Or.inl rfl

theorem scanAtom_unlimited (cs : List Char) :
    SameUnlessRefused (scanAtom decoder cs) (scanAtom decoder.unlimited cs) := by
  unfold scanAtom
  split
  · rw [scanString_unlimited]
    exact Or.inr rfl
  · rcases scanNumber_unlimited decoder cs with hsame | ⟨rest, hrefused⟩
    · rw [hsame]
      exact Or.inr rfl
    · rw [hrefused]
      exact Or.inl rfl

theorem scanOnce_unlimited_succ {fuel : Nat}
    (hitems : forall cs acc, SameUnlessRefused (scanItems decoder fuel cs acc)
      (scanItems decoder.unlimited fuel cs acc))
    (hfields : forall cs acc, SameUnlessRefused (scanFields decoder fuel cs acc)
      (scanFields decoder.unlimited fuel cs acc)) (cs : List Char) :
    SameUnlessRefused (scanOnce decoder (fuel + 1) cs)
      (scanOnce decoder.unlimited (fuel + 1) cs) := by
  unfold scanOnce
  split
  · split
    · exact Or.inr rfl
    · exact hitems _ _
  · split
    · exact Or.inr rfl
    · exact hfields _ _
  · exact scanAtom_unlimited decoder cs

theorem scanItems_unlimited_succ {fuel : Nat}
    (honce : forall cs, SameUnlessRefused (scanOnce decoder fuel cs)
      (scanOnce decoder.unlimited fuel cs))
    (hitems : forall cs acc, SameUnlessRefused (scanItems decoder fuel cs acc)
      (scanItems decoder.unlimited fuel cs acc)) (cs : List Char) (acc : List Json) :
    SameUnlessRefused (scanItems decoder (fuel + 1) cs acc)
      (scanItems decoder.unlimited (fuel + 1) cs acc) := by
  unfold scanItems
  rcases honce cs with hrefused | hsame
  · rw [hrefused]
    exact Or.inl rfl
  · rw [hsame]
    cases scanOnce decoder.unlimited fuel cs with
    | error e =>
        exact Or.inr rfl
    | ok p =>
        dsimp only
        split
        · exact Or.inr rfl
        · exact hitems _ _
        · exact Or.inr rfl

theorem scanFields_unlimited_succ {fuel : Nat}
    (honce : forall cs, SameUnlessRefused (scanOnce decoder fuel cs)
      (scanOnce decoder.unlimited fuel cs))
    (hfields : forall cs acc, SameUnlessRefused (scanFields decoder fuel cs acc)
      (scanFields decoder.unlimited fuel cs acc)) (cs : List Char)
    (acc : List (String × Json)) :
    SameUnlessRefused (scanFields decoder (fuel + 1) cs acc)
      (scanFields decoder.unlimited (fuel + 1) cs acc) := by
  unfold scanFields
  split
  · rw [scanString_unlimited]
    cases scanString decoder _ with
    | error e =>
        exact Or.inr rfl
    | ok p =>
        dsimp only
        split
        · rename_i rest _
          rcases honce (skipSpace rest) with hrefused | hsame
          · rw [hrefused]
            exact Or.inl rfl
          · rw [hsame]
            cases scanOnce decoder.unlimited fuel (skipSpace rest) with
            | error e =>
                exact Or.inr rfl
            | ok p =>
                dsimp only
                split
                · exact Or.inr rfl
                · exact hfields _ _
                · exact Or.inr rfl
        · exact Or.inr rfl
  · exact Or.inr rfl

theorem scan_unlimited (fuel : Nat) :
    (forall cs, SameUnlessRefused (scanOnce decoder fuel cs)
      (scanOnce decoder.unlimited fuel cs)) ∧
    (forall cs acc, SameUnlessRefused (scanItems decoder fuel cs acc)
      (scanItems decoder.unlimited fuel cs acc)) ∧
    (forall cs acc, SameUnlessRefused (scanFields decoder fuel cs acc)
      (scanFields decoder.unlimited fuel cs acc)) := by
  induction fuel with
  | zero =>
      exact ⟨fun _ => Or.inr rfl, fun _ _ => Or.inr rfl, fun _ _ => Or.inr rfl⟩
  | succ fuel ih =>
      rcases ih with ⟨honce, hitems, hfields⟩
      exact ⟨scanOnce_unlimited_succ decoder hitems hfields,
        scanItems_unlimited_succ decoder honce hitems,
        scanFields_unlimited_succ decoder honce hfields⟩

theorem loads_unlimited {s : String} (h : loads decoder s ≠ .error .tooManyDigits) :
    loads decoder s = loads decoder.unlimited s := by
  unfold loads at h ⊢
  by_cases hbom : s.toList.head? = some '\uFEFF'
  · rw [if_pos hbom, if_pos hbom]
  · rw [if_neg hbom] at h
    rw [if_neg hbom, if_neg hbom]
    rcases (scan_unlimited decoder (2 * s.toList.length + 1)).1 (skipSpace s.toList) with
      hrefused | hsame
    · rw [hrefused] at h
      exact absurd rfl h
    · rw [hsame]

end Scanning

end Json

end Python
end MetricMesh
