import OverSync.Library.Json
import Mathlib.Data.List.DropRight
import Mathlib.Data.List.Nodup

/-! # Indented JSON

`JSON.stringify` of nested values with an indentation of two blanks. What it prints is read back
as the value it came from. -/

namespace OverSync.Library

namespace Json

/-- A value of strings and natural numbers. -/
inductive Value where
  | null
  | bool (value : Bool)
  | number (n : ℕ)
  | text (s : List Char)
  | arr (items : List Value)
  | obj (members : List (List Char × Value))

/-- Values by their items and members. -/
@[elab_as_elim]
theorem Value.induct {P : Value → Prop} (null : P .null) (bool : ∀ value, P (.bool value))
    (number : ∀ n, P (.number n)) (text : ∀ s, P (.text s))
    (arr : ∀ items, (∀ item ∈ items, P item) → P (.arr items))
    (obj : ∀ members, (∀ member ∈ members, P member.2) → P (.obj members)) (value : Value) :
    P value := by
  refine Value.rec (motive_1 := P) (motive_2 := fun items => ∀ item ∈ items, P item)
    (motive_3 := fun members => ∀ member ∈ members, P member.2)
    (motive_4 := fun member => P member.2) null bool number text arr obj ?_ ?_ ?_ ?_ ?_ value
  · simp
  · intro item items hitem hitems other hother
    rcases List.mem_cons.mp hother with rfl | hother
    · exact hitem
    · exact hitems other hother
  · simp
  · intro member members hmember hmembers other hother
    rcases List.mem_cons.mp hother with rfl | hother
    · exact hmember
    · exact hmembers other hother
  · exact fun name value hvalue => hvalue

mutual

/-- What `JSON.parse` makes of the printed value. -/
def Value.json : Value → Json
  | .null => .null
  | .bool value => .bool value
  | .number n => .num n 0
  | .text s => .str (s.map some)
  | .arr items => .arr (jsonItems items)
  | .obj members => .obj (jsonMembers members)

def jsonItems : List Value → List Json
  | [] => []
  | item :: items => item.json :: jsonItems items

def jsonMembers : List (List Char × Value) → List (Text × Json)
  | [] => []
  | (name, value) :: members => (name.map some, value.json) :: jsonMembers members

end

/-! ## Printing -/

def newline (depth : ℕ) : List Char := '\n' :: List.replicate (2 * depth) ' '

/-- Lines with commas between them, up to the closing bracket. -/
def lines (close : Char) (depth : ℕ) : List (List Char) → List Char
  | [] => [close]
  | [line] => newline (depth + 1) ++ (line ++ (newline depth ++ [close]))
  | line :: rest => newline (depth + 1) ++ (line ++ ',' :: lines close depth rest)

mutual

/-- `JSON.stringify(value, null, 2)`, inside of `depth` brackets. -/
def Value.pretty (depth : ℕ) : Value → List Char
  | .null => ['n', 'u', 'l', 'l']
  | .bool true => ['t', 'r', 'u', 'e']
  | .bool false => ['f', 'a', 'l', 's', 'e']
  | .number n => Nat.toDigits 10 n
  | .text s => printText s
  | .arr items => '[' :: lines ']' depth (prettyItems (depth + 1) items)
  | .obj members => '{' :: lines '}' depth (prettyMembers (depth + 1) members)

def prettyItems (depth : ℕ) : List Value → List (List Char)
  | [] => []
  | item :: items => item.pretty depth :: prettyItems depth items

def prettyMembers (depth : ℕ) : List (List Char × Value) → List (List Char)
  | [] => []
  | (name, value) :: members =>
      (printText name ++ ':' :: ' ' :: value.pretty depth) :: prettyMembers depth members

end

/-! ## Round trip -/

variable {s rest : List Char}

theorem skip_newline (depth : ℕ) (s : List Char) : skip (newline depth ++ s) = skip s := by
  have hspaces (n : ℕ) : skip (List.replicate n ' ' ++ s) = skip s := by
    induction n with
    | zero => rfl
    | succ n ih => rw [List.replicate_succ, List.cons_append, skip, List.dropWhile_cons_of_pos rfl,
        ← skip, ih]
  rw [newline, List.cons_append, skip, List.dropWhile_cons_of_pos rfl, ← skip, hspaces]

theorem skip_skip (s : List Char) : skip (skip s) = skip s :=
  List.dropWhile_idempotent ..

/-- A value is read the same after white space. -/
theorem parseValue_skip (fuel : ℕ) (s : List Char) : parseValue fuel (skip s) = parseValue fuel s := by
  cases fuel with
  | zero => rfl
  | succ fuel => rw [parseValue, parseValue, skip_skip]

theorem parseItems_skip (fuel : ℕ) (s : List Char) : parseItems fuel (skip s) = parseItems fuel s := by
  cases fuel with
  | zero => rfl
  | succ fuel => rw [parseItems, parseItems, parseValue_skip]

theorem parseMembers_skip (fuel : ℕ) (s : List Char) :
    parseMembers fuel (skip s) = parseMembers fuel s := by
  cases fuel with
  | zero => rfl
  | succ fuel => rw [parseMembers, parseMembers, skip_skip]

theorem parseValue_newline (fuel depth : ℕ) (s : List Char) :
    parseValue fuel (newline depth ++ s) = parseValue fuel s := by
  rw [← parseValue_skip, skip_newline, parseValue_skip]

theorem parseMembers_newline (fuel depth : ℕ) (s : List Char) :
    parseMembers fuel (newline depth ++ s) = parseMembers fuel s := by
  rw [← parseMembers_skip, skip_newline, parseMembers_skip]

theorem endsNumber_newline (depth : ℕ) (s : List Char) : EndsNumber (newline depth ++ s) :=
  ⟨_, _, rfl, by decide⟩

theorem length_newline (depth : ℕ) : 0 < (newline depth).length := Nat.succ_pos _

/-- A value starts with neither white space nor a closing bracket. -/
theorem pretty_head (depth : ℕ) (value : Value) :
    ∃ c t, value.pretty depth = c :: t ∧ isSpace c = false ∧ c ≠ ']' := by
  cases value with
  | null => exact ⟨_, _, rfl, by decide⟩
  | bool value => cases value <;> exact ⟨_, _, rfl, by decide⟩
  | number n =>
      cases hdigits : Nat.toDigits 10 n with
      | nil => exact absurd hdigits Nat.toDigits_ne_nil
      | cons c ds =>
          have hc : c.isDigit := by
            have hmem : c ∈ Nat.toDigits 10 n := hdigits ▸ List.mem_cons_self
            exact Nat.isDigit_of_mem_toDigits (by decide) (by decide) hmem
          have hne (d : Char) (hd : d.isDigit = false) : c ≠ d := fun hcd => by simp_all
          refine ⟨c, ds, hdigits, ?_, hne ']' rfl⟩
          simp [isSpace, hne ' ' rfl, hne '\n' rfl, hne '\r' rfl, hne '\t' rfl]
  | text s => exact ⟨_, _, rfl, by decide⟩
  | arr items => exact ⟨_, _, rfl, by decide⟩
  | obj members => exact ⟨_, _, rfl, by decide⟩

/-- A value is read back from what it prints, with fuel for its length. -/
def Reads (value : Value) : Prop :=
  ∀ depth fuel rest, (value.pretty depth).length ≤ fuel → EndsNumber rest →
    parseValue fuel (value.pretty depth ++ rest) = some (value.json, rest)

theorem lines_cons_cons (close : Char) (depth : ℕ) (line next : List Char)
    (rest : List (List Char)) : lines close depth (line :: next :: rest) =
      newline (depth + 1) ++ (line ++ ',' :: lines close depth (next :: rest)) := rfl

/-- The last item of an array. -/
theorem parseItems_last {item : Value} (hitem : Reads item) (depth fuel : ℕ)
    (hfuel : (item.pretty depth).length ≤ fuel) (hrest : EndsNumber rest)
    (hclose : skip rest = ']' :: s) :
    parseItems (fuel + 1) (newline depth ++ (item.pretty depth ++ rest)) =
      some ([item.json], s) := by
  rw [parseItems, parseValue_newline, hitem depth fuel rest hfuel hrest]
  simp only [Option.bind_eq_bind, Option.bind_some, hclose]
  rfl

/-- An item of an array with others behind it. -/
theorem parseItems_comma {item : Value} (hitem : Reads item) (depth fuel : ℕ) (s : List Char)
    (hfuel : (item.pretty depth).length ≤ fuel) :
    parseItems (fuel + 1) (newline depth ++ (item.pretty depth ++ ',' :: s)) =
      (parseItems fuel s).map fun found => (item.json :: found.1, found.2) := by
  rw [parseItems, parseValue_newline, hitem depth fuel (',' :: s) hfuel (endsNumber_comma s)]
  simp only [Option.bind_eq_bind, Option.bind_some, skip_cons (show isSpace ',' = false from rfl)]
  cases parseItems fuel s <;> rfl

theorem parseItems_lines {item : Value} {items : List Value}
    (hreads : ∀ other ∈ item :: items, Reads other) (depth fuel : ℕ) (rest : List Char)
    (hfuel : (lines ']' depth (prettyItems (depth + 1) (item :: items))).length ≤ fuel) :
    parseItems fuel (lines ']' depth (prettyItems (depth + 1) (item :: items)) ++ rest) =
      some (jsonItems (item :: items), rest) := by
  have hitem := hreads item (by simp)
  induction items generalizing item fuel with
  | nil =>
      simp only [prettyItems, lines, List.length_append, List.length_cons] at hfuel
      have hpos := length_newline (depth + 1)
      obtain ⟨k, rfl⟩ : ∃ k, fuel = k + 1 := ⟨fuel - 1, by omega⟩
      have hclose : skip (newline depth ++ (']' :: rest)) = ']' :: rest := by
        rw [skip_newline, skip_cons rfl]
      have hread := parseItems_last hitem (depth + 1) k (by omega) (endsNumber_newline depth _)
        hclose
      simpa [prettyItems, lines, jsonItems] using hread
  | cons next items ih =>
      simp only [prettyItems, lines_cons_cons, List.length_append, List.length_cons] at hfuel
      have hpos := length_newline (depth + 1)
      obtain ⟨k, rfl⟩ : ∃ k, fuel = k + 1 := ⟨fuel - 1, by omega⟩
      have hnext := ih (fun other hother => hreads other (by simp_all)) k
        (show (lines ']' depth (prettyItems (depth + 1) (next :: items))).length ≤ k by
          simp only [prettyItems]
          omega) (hreads next (by simp))
      have hread := parseItems_comma hitem (depth + 1) k
        (lines ']' depth (prettyItems (depth + 1) (next :: items)) ++ rest) (by omega)
      rw [hnext] at hread
      simpa [prettyItems, lines_cons_cons, jsonItems] using hread

theorem parseValue_blank (fuel : ℕ) (s : List Char) :
    parseValue fuel (' ' :: s) = parseValue fuel s := by
  rw [← parseValue_skip, skip, List.dropWhile_cons_of_pos rfl, ← skip, parseValue_skip]

/-- The last member of an object. -/
theorem parseMembers_last {value : Value} (hvalue : Reads value) (name : List Char)
    (depth fuel : ℕ) (hfuel : (value.pretty depth).length ≤ fuel) (hrest : EndsNumber rest)
    (hclose : skip rest = '}' :: s) :
    parseMembers (fuel + 1)
        (newline depth ++ (printText name ++ ':' :: ' ' :: (value.pretty depth ++ rest))) =
      some ([(name.map some, value.json)], s) := by
  have hname := parseText_printText name (':' :: ' ' :: (value.pretty depth ++ rest))
  rw [parseMembers_newline, printText_append, parseMembers]
  simp only [skip_cons (show isSpace '"' = false from rfl), hname,
    skip_cons (show isSpace ':' = false from rfl), Option.bind_eq_bind, Option.bind_some,
    parseValue_blank, hvalue depth fuel rest hfuel hrest, hclose]
  rfl

/-- A member of an object with others behind it. -/
theorem parseMembers_comma {value : Value} (hvalue : Reads value) (name : List Char)
    (depth fuel : ℕ) (s : List Char) (hfuel : (value.pretty depth).length ≤ fuel) :
    parseMembers (fuel + 1)
        (newline depth ++ (printText name ++ ':' :: ' ' :: (value.pretty depth ++ ',' :: s))) =
      (parseMembers fuel s).map fun found => ((name.map some, value.json) :: found.1, found.2) := by
  have hname := parseText_printText name (':' :: ' ' :: (value.pretty depth ++ ',' :: s))
  rw [parseMembers_newline, printText_append, parseMembers]
  simp only [skip_cons (show isSpace '"' = false from rfl), hname,
    skip_cons (show isSpace ':' = false from rfl), Option.bind_eq_bind, Option.bind_some,
    parseValue_blank, hvalue depth fuel (',' :: s) hfuel (endsNumber_comma s),
    skip_cons (show isSpace ',' = false from rfl)]
  cases parseMembers fuel s <;> rfl

theorem parseMembers_lines {member : List Char × Value} {members : List (List Char × Value)}
    (hreads : ∀ other ∈ member :: members, Reads other.2) (depth fuel : ℕ) (rest : List Char)
    (hfuel : (lines '}' depth (prettyMembers (depth + 1) (member :: members))).length ≤ fuel) :
    parseMembers fuel (lines '}' depth (prettyMembers (depth + 1) (member :: members)) ++ rest) =
      some (jsonMembers (member :: members), rest) := by
  have hmember := hreads member (by simp)
  induction members generalizing member fuel with
  | nil =>
      simp only [prettyMembers, lines, List.length_append, List.length_cons] at hfuel
      have hpos := length_newline (depth + 1)
      obtain ⟨k, rfl⟩ : ∃ k, fuel = k + 1 := ⟨fuel - 1, by omega⟩
      have hclose : skip (newline depth ++ ('}' :: rest)) = '}' :: rest := by
        rw [skip_newline, skip_cons rfl]
      have hread := parseMembers_last hmember member.1 (depth + 1) k (by omega)
        (endsNumber_newline depth _) hclose
      simpa [prettyMembers, lines, jsonMembers] using hread
  | cons next members ih =>
      simp only [prettyMembers, lines_cons_cons, List.length_append, List.length_cons] at hfuel
      have hpos := length_newline (depth + 1)
      obtain ⟨k, rfl⟩ : ∃ k, fuel = k + 1 := ⟨fuel - 1, by omega⟩
      have hnext := ih (fun other hother => hreads other (by simp_all)) k
        (show (lines '}' depth (prettyMembers (depth + 1) (next :: members))).length ≤ k by
          simp only [prettyMembers]
          omega) (hreads next (by simp))
      have hread := parseMembers_comma hmember member.1 (depth + 1) k
        (lines '}' depth (prettyMembers (depth + 1) (next :: members)) ++ rest) (by omega)
      rw [hnext] at hread
      simpa [prettyMembers, lines_cons_cons, jsonMembers] using hread

/-- The lines of an array start with an item, not with the closing bracket. -/
theorem skip_itemLines (depth : ℕ) (item : Value) (items : List Value) (rest : List Char) :
    ∃ c t, skip (lines ']' depth (prettyItems (depth + 1) (item :: items)) ++ rest) = c :: t ∧
      c ≠ ']' := by
  obtain ⟨c, t, hhead, hspace, hne⟩ := pretty_head (depth + 1) item
  cases items with
  | nil =>
      simp only [prettyItems, lines, List.append_assoc, skip_newline, hhead, List.cons_append,
        skip_cons hspace]
      exact ⟨c, _, rfl, hne⟩
  | cons next items =>
      simp only [prettyItems, lines_cons_cons, List.append_assoc, skip_newline, hhead,
        List.cons_append, skip_cons hspace]
      exact ⟨c, _, rfl, hne⟩

/-- The lines of an object start with a name. -/
theorem skip_memberLines (depth : ℕ) (member : List Char × Value)
    (members : List (List Char × Value)) (rest : List Char) :
    ∃ t, skip (lines '}' depth (prettyMembers (depth + 1) (member :: members)) ++ rest) =
      '"' :: t := by
  cases members with
  | nil =>
      simp only [prettyMembers, lines, List.append_assoc, skip_newline, printText,
        List.cons_append, skip_cons (show isSpace '"' = false from rfl)]
      exact ⟨_, rfl⟩
  | cons next members =>
      simp only [prettyMembers, lines_cons_cons, List.append_assoc, skip_newline, printText,
        List.cons_append, skip_cons (show isSpace '"' = false from rfl)]
      exact ⟨_, rfl⟩

/-- Every value is read back from what it prints. -/
theorem reads (value : Value) : Reads value := by
  induction value using Value.induct with
  | null =>
      intro depth fuel rest hfuel hrest
      obtain ⟨k, rfl⟩ : ∃ k, fuel = k + 1 := Nat.exists_eq_add_of_le' (by
        simp only [Value.pretty, List.length_cons] at hfuel; omega)
      rfl
  | bool value =>
      intro depth fuel rest hfuel hrest
      obtain ⟨k, rfl⟩ : ∃ k, fuel = k + 1 := Nat.exists_eq_add_of_le' (by
        cases value <;> simp only [Value.pretty, List.length_cons] at hfuel <;> omega)
      cases value <;> rfl
  | number n =>
      intro depth fuel rest hfuel hrest
      have hpos : 0 < (Nat.toDigits 10 n).length :=
        List.length_pos_iff.mpr Nat.toDigits_ne_nil
      obtain ⟨k, rfl⟩ : ∃ k, fuel = k + 1 := Nat.exists_eq_add_of_le' (by
        simp only [Value.pretty] at hfuel; omega)
      exact parseValue_print k (.number n) hrest
  | text s =>
      intro depth fuel rest hfuel hrest
      obtain ⟨k, rfl⟩ : ∃ k, fuel = k + 1 := Nat.exists_eq_add_of_le' (by
        simp only [Value.pretty, printText, List.cons_append, List.length_cons] at hfuel; omega)
      exact parseValue_print k (.text s) hrest
  | arr items ih =>
      intro depth fuel rest hfuel hrest
      rw [Value.pretty, List.length_cons] at hfuel
      obtain ⟨k, rfl⟩ : ∃ k, fuel = k + 1 := ⟨fuel - 1, by omega⟩
      rw [Value.pretty, List.cons_append, parseValue, skip_cons rfl]
      cases items with
      | nil => rfl
      | cons item items =>
          obtain ⟨c, t, hskip, hne⟩ := skip_itemLines depth item items rest
          have hitems := parseItems_lines ih depth k rest (by omega)
          rw [← parseItems_skip, hskip] at hitems
          simp only [hskip]
          split
          · next h => exact absurd (List.cons.inj h).1 hne
          · rw [hitems]
            rfl
  | obj members ih =>
      intro depth fuel rest hfuel hrest
      rw [Value.pretty, List.length_cons] at hfuel
      obtain ⟨k, rfl⟩ : ∃ k, fuel = k + 1 := ⟨fuel - 1, by omega⟩
      rw [Value.pretty, List.cons_append, parseValue, skip_cons rfl]
      cases members with
      | nil => rfl
      | cons member members =>
          obtain ⟨t, hskip⟩ := skip_memberLines depth member members rest
          have hmembers := parseMembers_lines ih depth k rest (by omega)
          rw [← parseMembers_skip, hskip] at hmembers
          simp only [hskip]
          exact congrArg (Option.map fun (found : List (Text × Json) × List Char) =>
            (obj found.1, found.2)) hmembers

/-- A printed file with its last line break is read back. -/
theorem parse_pretty (value : Value) :
    parse (value.pretty 0 ++ ['\n']) = some value.json := by
  have hread := reads value 0 (2 * (value.pretty 0 ++ ['\n']).length + 2) ['\n']
    (by rw [List.length_append]; omega) (endsNumber_newline 0 [])
  rw [parse, hread]
  rfl

/-! ## Objects with optional properties -/

/-- An object; a property that is undefined is left out. -/
def object (fields : List (String × Option Value)) : Value :=
  .obj (fields.filterMap fun field => field.2.map fun value => (field.1.toList, value))

/-- `value.name` -/
def property (value : Json) (name : String) : Option Json :=
  value.member (name.toList.map some)

/-- A text without half surrogate pairs. -/
def plain : Text → Option (List Char)
  | [] => some []
  | none :: _ => none
  | some c :: text => (plain text).map (c :: ·)

def asString? (value : Json) : Option String :=
  (value.asText?.bind plain).map String.ofList

@[simp] theorem plain_map_some (s : List Char) : plain (s.map some) = some s := by
  induction s with
  | nil => rfl
  | cons c s ih => simp [plain, ih]

@[simp] theorem asString_text (s : String) : (Value.text s.toList).json.asString? = some s := by
  simp [Value.json, asString?, asText?]

theorem asNat_num (n : ℕ) : (Value.number n).json.asNat? = some n := by
  have hneg : ¬(n : ℤ) < 0 := by omega
  by_cases hzero : n = 0
  · simp [Value.json, asNat?, hzero]
  · simp [Value.json, asNat?, hzero, hneg]

theorem jsonMembers_eq (members : List (List Char × Value)) :
    jsonMembers members = members.map fun member => (member.1.map some, member.2.json) := by
  induction members with
  | nil => rfl
  | cons member members ih => rw [List.map_cons, ← ih]; rfl

/-- A member of an object comes from a property of its name. -/
theorem mem_object {fields : List (String × Option Value)} {members : List (Text × Json)}
    (h : (object fields).json = .obj members) (member : Text × Json) : member ∈ members ↔
      ∃ name value, (name, some value) ∈ fields ∧
        member = (name.toList.map some, value.json) := by
  rw [object, Value.json, Json.obj.injEq] at h
  rw [← h, jsonMembers_eq]
  simp only [List.mem_map, List.mem_filterMap, Option.map_eq_some_iff]
  constructor
  · rintro ⟨_, ⟨⟨name, _⟩, hmem, value, rfl, rfl⟩, rfl⟩
    exact ⟨name, value, hmem, rfl⟩
  · rintro ⟨name, value, hmem, rfl⟩
    exact ⟨_, ⟨_, hmem, value, rfl, rfl⟩, rfl⟩

theorem name_injective {name other : String}
    (h : name.toList.map some = (other.toList.map some : Text)) : name = other :=
  String.toList_inj.mp (List.map_injective_iff.mpr (fun _ _ => Option.some.inj) h)

/-- An object is read property by property. -/
theorem property_object {fields : List (String × Option Value)}
    (hnodup : (fields.map Prod.fst).Nodup) {name : String} {value : Option Value}
    (hmem : (name, value) ∈ fields) :
    (object fields).json.property name = value.map Value.json := by
  have hunique (other : Option Value) (hother : (name, other) ∈ fields) : other = value :=
    congrArg Prod.snd (List.inj_on_of_nodup_map hnodup hother hmem rfl)
  cases hjson : (object fields).json with
  | obj members =>
      have hfound := mem_object hjson
      rw [property, Json.member]
      cases hfind : members.reverse.find? fun member => member.1 = name.toList.map some with
      | none =>
          cases value with
          | none => rfl
          | some value =>
              have habsent := List.find?_eq_none.mp hfind (name.toList.map some, value.json)
                (List.mem_reverse.mpr ((hfound _).mpr ⟨name, value, hmem, rfl⟩))
              simp at habsent
      | some member =>
          have hin := List.mem_reverse.mp (List.mem_of_find?_eq_some hfind)
          obtain ⟨other, v, hother, rfl⟩ := (hfound member).mp hin
          have hname : other.toList.map some = (name.toList.map some : Text) := by
            simpa using List.find?_some hfind
          obtain rfl := name_injective hname
          rw [← hunique _ hother]
          rfl
  | _ => simp [object, Value.json] at hjson

end Json

end OverSync.Library
