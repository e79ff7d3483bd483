import Mathlib.Data.Int.Notation
import Mathlib.Data.List.TakeWhile
import OverSync.Library.Hex

/-! # JSON

`JSON.parse`, and `JSON.stringify` of records of numbers and strings. -/

namespace OverSync.Library

namespace Json

/-- A string of JavaScript; `none` is half of a surrogate pair that stands alone. -/
abbrev Text := List (Option Char)

end Json

/-- The number `mantissa * 10 ^ exponent`; it is not rounded to a double. -/
inductive Json where
  | null
  | bool (value : Bool)
  | num (mantissa exponent : ℤ)
  | str (text : Json.Text)
  | arr (items : List Json)
  | obj (members : List (Json.Text × Json))

namespace Json

/-- `value[name]`: the last member of the name counts. -/
def member (value : Json) (name : Text) : Option Json :=
  match value with
  | .obj members => (members.reverse.find? (·.1 = name)).map (·.2)
  | _ => none

/-- The natural number a value is. Doubles end before `10 ^ 400`. -/
def asNat? : Json → Option ℕ
  | .num mantissa exponent =>
    if mantissa = 0 then some 0
    else if mantissa < 0 ∨ 400 < exponent then none
    else if 0 ≤ exponent then some (mantissa.toNat * 10 ^ exponent.toNat)
    else if mantissa.toNat % 10 ^ exponent.natAbs = 0 then
      some (mantissa.toNat / 10 ^ exponent.natAbs)
    else none
  | _ => none

def asText? : Json → Option Text
  | .str text => some text
  | _ => none

/-! ## Strings -/

def textUnit (n : ℕ) : Option Char :=
  if 0xD800 ≤ n ∧ n ≤ 0xDFFF then none else some (Char.ofNat n)

/-- A high and a low surrogate in a row are one character. -/
def joinSurrogates : List ℕ → Text
  | high :: low :: rest =>
    if (0xD800 ≤ high ∧ high ≤ 0xDBFF) ∧ (0xDC00 ≤ low ∧ low ≤ 0xDFFF) then
      some (Char.ofNat (0x10000 + (high - 0xD800) * 0x400 + (low - 0xDC00))) ::
        joinSurrogates rest
    else textUnit high :: joinSurrogates (low :: rest)
  | [n] => [textUnit n]
  | [] => []

/-- The character an escape of one letter stands for. -/
def escapeValue (c : Char) : Option ℕ :=
  if c = '"' ∨ c = '\\' ∨ c = '/' then some c.toNat
  else if c = 'b' then some 8
  else if c = 'f' then some 12
  else if c = 'n' then some 10
  else if c = 'r' then some 13
  else if c = 't' then some 9
  else none

def hexUnit (a b c d : Char) : Option ℕ := do
  let a ← hexValue a
  let b ← hexValue b
  let c ← hexValue c
  let d ← hexValue d
  pure (((a * 16 + b) * 16 + c) * 16 + d)

/-- After the opening quote: the units of the string, and what stands behind the closing one. -/
def parseUnits : List Char → Option (List ℕ × List Char)
  | '"' :: s => some ([], s)
  | '\\' :: 'u' :: a :: b :: c :: d :: s => do
    let unit ← hexUnit a b c d
    let (units, s) ← parseUnits s
    pure (unit :: units, s)
  | '\\' :: c :: s => do
    let unit ← escapeValue c
    let (units, s) ← parseUnits s
    pure (unit :: units, s)
  | c :: s =>
    if c.toNat < 0x20 then none
    else do
      let (units, s) ← parseUnits s
      pure (c.toNat :: units, s)
  | [] => none

def parseText (s : List Char) : Option (Text × List Char) :=
  (parseUnits s).map fun (units, s) => (joinSurrogates units, s)

/-! ## Numbers -/

def digits (s : List Char) : List Char := s.takeWhile Char.isDigit

def afterDigits (s : List Char) : List Char := s.dropWhile Char.isDigit

def parseFraction : List Char → Option (List Char × List Char)
  | '.' :: s => if digits s = [] then none else some (digits s, afterDigits s)
  | s => some ([], s)

def parseMagnitude (s : List Char) : Option (ℤ × List Char) :=
  if digits s = [] then none else some (Nat.ofDigitChars 10 (digits s) 0, afterDigits s)

def parseSigned : List Char → Option (ℤ × List Char)
  | '-' :: s => (parseMagnitude s).map fun (n, s) => (-n, s)
  | '+' :: s => parseMagnitude s
  | s => parseMagnitude s

def parseExponent : List Char → Option (ℤ × List Char)
  | c :: s => if c = 'e' ∨ c = 'E' then parseSigned s else some (0, c :: s)
  | [] => some (0, [])

/-- Digits do not start with a zero, unless it is the only one. -/
def parseUnsigned (s : List Char) : Option ((ℤ × ℤ) × List Char) :=
  let whole := digits s
  if whole = [] ∨ (whole.head? = some '0' ∧ whole.length ≠ 1) then none
  else do
    let (fraction, s) ← parseFraction (afterDigits s)
    let (exponent, s) ← parseExponent s
    pure ((Nat.ofDigitChars 10 (whole ++ fraction) 0, exponent - fraction.length), s)

def parseNumber : List Char → Option (Json × List Char)
  | '-' :: s => (parseUnsigned s).map fun ((mantissa, exponent), s) => (.num (-mantissa) exponent, s)
  | s => (parseUnsigned s).map fun ((mantissa, exponent), s) => (.num mantissa exponent, s)

/-! ## Values -/

def isSpace (c : Char) : Bool := c = ' ' ∨ c = '\n' ∨ c = '\r' ∨ c = '\t'

def skip (s : List Char) : List Char := s.dropWhile isSpace

mutual

/-- A value, and what stands behind it. -/
def parseValue : ℕ → List Char → Option (Json × List Char)
  | 0, _ => none
  | fuel + 1, s =>
    match skip s with
    | '"' :: s => (parseText s).map fun (text, s) => (.str text, s)
    | '{' :: s =>
      match skip s with
      | '}' :: s => some (.obj [], s)
      | s => (parseMembers fuel s).map fun (members, s) => (.obj members, s)
    | '[' :: s =>
      match skip s with
      | ']' :: s => some (.arr [], s)
      | s => (parseItems fuel s).map fun (items, s) => (.arr items, s)
    | 't' :: 'r' :: 'u' :: 'e' :: s => some (.bool true, s)
    | 'f' :: 'a' :: 'l' :: 's' :: 'e' :: s => some (.bool false, s)
    | 'n' :: 'u' :: 'l' :: 'l' :: s => some (.null, s)
    | s => parseNumber s

/-- Values up to the closing bracket. -/
def parseItems : ℕ → List Char → Option (List Json × List Char)
  | 0, _ => none
  | fuel + 1, s => do
    let (value, s) ← parseValue fuel s
    match skip s with
    | ',' :: s =>
      let (items, s) ← parseItems fuel s
      pure (value :: items, s)
    | ']' :: s => pure ([value], s)
    | _ => none

/-- Members up to the closing brace. -/
def parseMembers : ℕ → List Char → Option (List (Text × Json) × List Char)
  | 0, _ => none
  | fuel + 1, s =>
    match skip s with
    | '"' :: s => do
      let (name, s) ← parseText s
      match skip s with
      | ':' :: s =>
        let (value, s) ← parseValue fuel s
        match skip s with
        | ',' :: s =>
          let (members, s) ← parseMembers fuel s
          pure ((name, value) :: members, s)
        | '}' :: s => pure ([(name, value)], s)
        | _ => none
      | _ => none
    | _ => none

end

/-- `JSON.parse(s)`; `none` is a `SyntaxError`. No value nests deeper than its text is long. -/
def parse (s : List Char) : Option Json := do
  let (value, s) ← parseValue (2 * s.length + 2) s
  if skip s = [] then some value else none

/-! ## Printing -/

def escapeChar (c : Char) : List Char :=
  if c = '"' then ['\\', '"']
  else if c = '\\' then ['\\', '\\']
  else if c.toNat = 8 then ['\\', 'b']
  else if c.toNat = 9 then ['\\', 't']
  else if c.toNat = 10 then ['\\', 'n']
  else if c.toNat = 12 then ['\\', 'f']
  else if c.toNat = 13 then ['\\', 'r']
  else if c.toNat < 0x20 then
    ['\\', 'u', '0', '0', Nat.digitChar (c.toNat / 16), Nat.digitChar (c.toNat % 16)]
  else [c]

def printText (s : List Char) : List Char := '"' :: s.flatMap escapeChar ++ ['"']

/-- The value of a property of a record. -/
inductive Property where
  | number (n : ℕ)
  | text (s : List Char)
  deriving DecidableEq, Repr

def Property.print : Property → List Char
  | .number n => Nat.toDigits 10 n
  | .text s => printText s

def Property.json : Property → Json
  | .number n => .num n 0
  | .text s => .str (s.map some)

abbrev Record := List (List Char × Property)

def Record.json (record : Record) : Json :=
  .obj (record.map fun (name, value) => (name.map some, value.json))

/-- The properties with the closing brace. -/
def printProperties : Record → List Char
  | [] => ['}']
  | [(name, value)] => printText name ++ ':' :: (value.print ++ ['}'])
  | (name, value) :: rest =>
    printText name ++ ':' :: (value.print ++ ',' :: printProperties rest)

/-- `JSON.stringify(record)` -/
def stringify (record : Record) : List Char := '{' :: printProperties record

/-! ## Round trip -/

variable {s rest : List Char} {c : Char}

theorem parseUnits_escapeChar (c : Char) (s : List Char) :
    parseUnits (escapeChar c ++ s) =
      (parseUnits s).map fun (units, s) => (c.toNat :: units, s) := by
  have hcontrol : ∀ n : Fin 32,
      hexUnit '0' '0' (Nat.digitChar (n / 16)) (Nat.digitChar (n % 16)) = some n.val := by decide
  have hbind : ∀ unit : ℕ, (some unit).bind (fun unit =>
      (parseUnits s).bind fun (units, s) => some (unit :: units, s)) =
        (parseUnits s).map fun (units, s) => (unit :: units, s) := by
    intro unit
    cases parseUnits s <;> rfl
  rw [escapeChar]
  split_ifs with hquote hback h8 h9 h10 h12 h13 hlow
  · subst hquote
    exact hbind 34
  · subst hback
    exact hbind 92
  · rw [h8]
    exact hbind 8
  · rw [h9]
    exact hbind 9
  · rw [h10]
    exact hbind 10
  · rw [h12]
    exact hbind 12
  · rw [h13]
    exact hbind 13
  · have hunit := hcontrol ⟨c.toNat, hlow⟩
    simp only [List.cons_append, List.nil_append, parseUnits, hunit]
    exact hbind c.toNat
  · rw [List.singleton_append, parseUnits, if_neg hlow]
    · cases parseUnits s <;> rfl
    · exact hquote
    · exact fun a b c d s hc _ => hback hc
    · exact fun c s hc _ => hback hc

theorem parseUnits_escaped (s rest : List Char) :
    parseUnits (s.flatMap escapeChar ++ '"' :: rest) = some (s.map Char.toNat, rest) := by
  induction s with
  | nil => rfl
  | cons c s ih =>
      rw [List.flatMap_cons, List.append_assoc, parseUnits_escapeChar, ih]
      rfl

theorem textUnit_toNat (c : Char) : textUnit c.toNat = some c := by
  have hvalid : c.toNat < 0xD800 ∨ 0xDFFF < c.toNat ∧ c.toNat < 0x110000 := c.valid
  rw [textUnit, if_neg (by omega), Char.ofNat_toNat]

/-- Characters are not surrogates. -/
theorem joinSurrogates_toNat (s : List Char) : joinSurrogates (s.map Char.toNat) = s.map some := by
  induction s with
  | nil => rfl
  | cons c s ih =>
      have hvalid : c.toNat < 0xD800 ∨ 0xDFFF < c.toNat ∧ c.toNat < 0x110000 := c.valid
      cases s with
      | nil => simp only [List.map_cons, List.map_nil, joinSurrogates, textUnit_toNat]
      | cons d s =>
          simp only [List.map_cons] at ih ⊢
          rw [joinSurrogates, if_neg (by omega), ih, textUnit_toNat]

@[simp] theorem printText_append (s rest : List Char) :
    printText s ++ rest = '"' :: (s.flatMap escapeChar ++ '"' :: rest) := by
  simp [printText]

theorem parseText_printText (s rest : List Char) :
    parseText (s.flatMap escapeChar ++ '"' :: rest) = some (s.map some, rest) := by
  rw [parseText, parseUnits_escaped, ← joinSurrogates_toNat]
  rfl

/-- A number ends where no digit, point or exponent goes on. -/
def EndsNumber (rest : List Char) : Prop :=
  ∃ c s, rest = c :: s ∧ c.isDigit = false ∧ c ≠ '.' ∧ c ≠ 'e' ∧ c ≠ 'E'

theorem digits_append {ds : List Char} (hds : ∀ c ∈ ds, c.isDigit) (hrest : EndsNumber rest) :
    digits (ds ++ rest) = ds ∧ afterDigits (ds ++ rest) = rest := by
  obtain ⟨c, s, rfl, hc, -⟩ := hrest
  rw [digits, afterDigits, List.takeWhile_append_of_pos hds, List.dropWhile_append_of_pos hds]
  simp [hc]

/-- Only zero has a digit zero in front. -/
theorem toDigits_head_zero (n : ℕ) (h : (Nat.toDigits 10 n).head? = some '0') : n = 0 := by
  induction n using Nat.strongRecOn with
  | ind n ih =>
      by_cases hn : n < 10
      · rw [Nat.toDigits_of_lt_base hn] at h
        have hall : ∀ k : Fin 10, [Nat.digitChar k].head? = some '0' → k.val = 0 := by decide
        exact hall ⟨n, hn⟩ h
      · rw [Nat.toDigits_of_base_le (by decide) (by omega),
          List.head?_append_of_ne_nil _ Nat.toDigits_ne_nil] at h
        have := ih (n / 10) (by omega) h
        omega

theorem parseUnsigned_toDigits (n : ℕ) (hrest : EndsNumber rest) :
    parseUnsigned (Nat.toDigits 10 n ++ rest) = some (((n : ℤ), (0 : ℤ)), rest) := by
  have hdigits : ∀ c ∈ Nat.toDigits 10 n, c.isDigit := fun c hc =>
    Nat.isDigit_of_mem_toDigits (by decide) (by decide) hc
  have hzero : (Nat.toDigits 10 n).head? = some '0' → (Nat.toDigits 10 n).length = 1 := by
    intro h
    rw [toDigits_head_zero n h]
    rfl
  obtain ⟨hwhole, hafter⟩ := digits_append hdigits hrest
  obtain ⟨c, s, rfl, hc, hpoint, hexp⟩ := hrest
  have hfraction : parseFraction (c :: s) = some ([], c :: s) := by
    rw [parseFraction]
    exact fun t ht => hpoint (List.cons.inj ht).1
  have hexponent : parseExponent (c :: s) = some (0, c :: s) := by
    rw [parseExponent, if_neg (by simp [hexp])]
  rw [parseUnsigned, hwhole, hafter, if_neg (by simpa [Nat.toDigits_ne_nil] using hzero),
    hfraction]
  simp [hexponent, Nat.ofDigitChars_ten_toDigits]

/-- What starts with no white space is not skipped. -/
theorem skip_cons (hc : isSpace c = false) : skip (c :: s) = c :: s := by
  simp [skip, hc]

theorem parseNumber_of_digit (hc : c.isDigit) :
    parseNumber (c :: s) =
      (parseUnsigned (c :: s)).map fun ((mantissa, exponent), s) => (.num mantissa exponent, s) := by
  rw [parseNumber]
  intro t ht
  rw [(List.cons.inj ht).1] at hc
  exact absurd hc (by decide)

theorem parseValue_of_digit (fuel : ℕ) (hc : c.isDigit) :
    parseValue (fuel + 1) (c :: s) = parseNumber (c :: s) := by
  have hne : ∀ d : Char, d.isDigit = false → d ≠ c := fun d hd hdc => by simp_all
  have hspace : isSpace c = false := by
    simp [isSpace, (hne ' ' rfl).symm, (hne '\n' rfl).symm, (hne '\r' rfl).symm,
      (hne '\t' rfl).symm]
  rw [parseValue, skip_cons hspace]
  split
  · next h => exact absurd (List.cons.inj h).1.symm (hne _ rfl)
  · next h => exact absurd (List.cons.inj h).1.symm (hne _ rfl)
  · next h => exact absurd (List.cons.inj h).1.symm (hne _ rfl)
  · next h => exact absurd (List.cons.inj h).1.symm (hne _ rfl)
  · next h => exact absurd (List.cons.inj h).1.symm (hne _ rfl)
  · next h => exact absurd (List.cons.inj h).1.symm (hne _ rfl)
  · rfl

theorem parseValue_print (fuel : ℕ) (value : Property) (hrest : EndsNumber rest) :
    parseValue (fuel + 1) (value.print ++ rest) = some (value.json, rest) := by
  cases value with
  | number n =>
      have hread := parseUnsigned_toDigits n hrest
      cases hdigits : Nat.toDigits 10 n with
      | nil => exact absurd hdigits Nat.toDigits_ne_nil
      | cons c ds =>
          have hc : c.isDigit := by
            have hmem : c ∈ Nat.toDigits 10 n := hdigits ▸ List.mem_cons_self
            exact Nat.isDigit_of_mem_toDigits (by decide) (by decide) hmem
          rw [hdigits, List.cons_append] at hread
          rw [Property.print, hdigits, List.cons_append, parseValue_of_digit fuel hc,
            parseNumber_of_digit hc, hread]
          rfl
  | text s =>
      have hread := parseText_printText s rest
      rw [Property.print, printText_append]
      simp only [parseValue, skip_cons (show isSpace '"' = false from rfl), hread]
      rfl

/-- A property, and the rest of the record behind it. -/
theorem parseMembers_property (fuel : ℕ) (name : List Char) (value : Property)
    (hrest : EndsNumber rest) :
    parseMembers (fuel + 2) (printText name ++ ':' :: (value.print ++ rest)) =
      match skip rest with
      | ',' :: s => (parseMembers (fuel + 1) s).map fun (members, s) =>
          ((name.map some, value.json) :: members, s)
      | '}' :: s => some ([(name.map some, value.json)], s)
      | _ => none := by
  have hname := parseText_printText name (':' :: (value.print ++ rest))
  have hvalue := parseValue_print fuel value hrest
  rw [printText_append, parseMembers]
  simp only [skip_cons (show isSpace '"' = false from rfl), hname,
    skip_cons (show isSpace ':' = false from rfl), Option.bind_eq_bind, Option.bind_some, hvalue]
  split
  · cases parseMembers (fuel + 1) _ <;> rfl
  · rfl
  · rfl

theorem endsNumber_comma (s : List Char) : EndsNumber (',' :: s) :=
  ⟨_, _, rfl, by decide⟩

theorem endsNumber_brace (s : List Char) : EndsNumber ('}' :: s) :=
  ⟨_, _, rfl, by decide⟩

theorem parseMembers_printProperties (record : Record) (hrecord : record ≠ []) (fuel : ℕ)
    (hfuel : record.length < fuel) :
    parseMembers fuel (printProperties record) =
      some (record.map fun (name, value) => (name.map some, value.json), []) := by
  induction record using printProperties.induct generalizing fuel with
  | case1 => exact absurd rfl hrecord
  | case2 name value =>
      obtain ⟨fuel, rfl⟩ : ∃ k, fuel = k + 2 := Nat.exists_eq_add_of_le' hfuel
      rw [printProperties, parseMembers_property fuel name value (endsNumber_brace [])]
      rfl
  | case3 name value rest hne ih =>
      obtain ⟨fuel, rfl⟩ : ∃ k, fuel = k + 2 :=
        Nat.exists_eq_add_of_le' (Nat.le_trans (Nat.le_add_left 2 _) hfuel)
      have hbehind := ih hne (fuel + 1) (Nat.lt_of_succ_lt_succ hfuel)
      rw [printProperties, parseMembers_property fuel name value (endsNumber_comma _), skip_cons rfl]
      · simp only [hbehind]
        rfl
      · exact hne

theorem length_le_printProperties (record : Record) :
    record.length < (printProperties record).length := by
  induction record using printProperties.induct with
  | case1 => decide
  | case2 name value =>
      rw [printProperties, printText_append]
      simp only [List.length_cons, List.length_append, List.length_nil]
      omega
  | case3 name value rest hne ih =>
      rw [printProperties]
      · simp only [printText_append, List.length_cons, List.length_append]
        omega
      · exact hne

theorem printProperties_cons (name : List Char) (value : Property) (record : Record) :
    ∃ s, printProperties ((name, value) :: record) = '"' :: s := by
  cases record with
  | nil => exact ⟨_, by rw [printProperties, printText_append]⟩
  | cons property record =>
      have hne : property :: record = [] → False := List.cons_ne_nil _ _
      exact ⟨_, (printProperties.eq_3 name value _ hne).trans (printText_append _ _)⟩

theorem parse_stringify (record : Record) (hrecord : record ≠ []) :
    parse (stringify record) = some record.json := by
  have hlength := length_le_printProperties record
  have hmembers := parseMembers_printProperties record hrecord
    (2 * (stringify record).length + 1) (by rw [stringify, List.length_cons]; omega)
  obtain ⟨s, hs⟩ : ∃ s, printProperties record = '"' :: s := by
    cases record with
    | nil => exact absurd rfl hrecord
    | cons property record => exact printProperties_cons property.1 property.2 record
  have hvalue : parseValue (2 * (stringify record).length + 2) (stringify record) =
      some (record.json, []) := by
    rw [stringify, hs] at hmembers ⊢
    rw [parseValue, skip_cons rfl]
    simp only [skip_cons (show isSpace '"' = false from rfl)]
    exact congrArg (Option.map fun (found : List (Text × Json) × List Char) =>
      (obj found.1, found.2)) hmembers
  rw [parse, hvalue]
  rfl

end Json

end OverSync.Library
