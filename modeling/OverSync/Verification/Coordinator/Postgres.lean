import OverSync.Model.Coordinator.Postgres

/-! # The rewriting for Postgres keeps what a statement says

Every place gets a number of its own, which ends where the name or the mark ended, so that
Postgres reads the same values in the same places. -/

namespace OverSync.Coordinator.Postgres

open Library Library.Scan

variable {V : Type} {sql s : List Char} {pieces : List Piece} {params : Params V}
  {values : List (Option V)} {fields : List (List Char × V)} {p : Pattern}

/-! ## Numbers -/

theorem isDigit_of_mem_digits {n : ℕ} {c : Char} (h : c ∈ digits n) : c.isDigit = true :=
  Nat.isDigit_of_mem_toDigits (by decide) (by decide) h

theorem digits_ne_nil (n : ℕ) : digits n ≠ [] := Nat.toDigits_ne_nil

@[simp] theorem numberOf_digits (n : ℕ) : numberOf (digits n) = n :=
  Nat.ofDigitChars_ten_toDigits

theorem not_mem_digits {c : Char} (hc : c.isDigit = false) (n : ℕ) : c ∉ digits n := by
  intro h
  rw [isDigit_of_mem_digits h] at hc
  cases hc

theorem isDigit_of_isWord {c : Char} (h : isWord c = false) : c.isDigit = false := by
  simp only [isWord, Char.isAlphanum, Bool.or_eq_false_iff] at h
  exact h.1.2

/-! ## What Postgres reads -/

theorem numbers_renumber (k : ℕ) (pieces : List Piece) :
    ((founds (renumber digits (k + 1) pieces)).map numberOf).foldr max 0 =
      if founds pieces = [] then 0 else k + (founds pieces).length := by
  induction pieces generalizing k with
  | nil => rfl
  | cons piece pieces ih =>
      cases piece with
      | char c => exact ih k
      | found old =>
          have hrest := ih (k + 1)
          simp only [renumber, founds_found, List.map_cons, List.foldr_cons, numberOf_digits,
            hrest]
          by_cases hnone : founds pieces = []
          · simp [hnone]
          · simp only [hnone, if_false, List.length_cons, reduceCtorEq]
            omega

/-- The numbers pick the values in turn. -/
theorem bindNumbers_renumber (k : ℕ) (pieces : List Piece) :
    bindNumbers values (renumber digits (k + 1) pieces) = bindMarks (values.drop k) pieces := by
  induction pieces generalizing k with
  | nil => rfl
  | cons piece pieces ih =>
      cases piece with
      | char c =>
          have hrest := ih k
          simp only [renumber, bindNumbers, List.map_cons, bindMarks] at hrest ⊢
          rw [hrest]
      | found old =>
          have hrest := ih (k + 1)
          simp only [renumber, bindNumbers, List.map_cons, bindMarks, numberOf_digits] at hrest ⊢
          rw [hrest, Nat.add_sub_cancel, List.head?_drop, List.tail_drop]

theorem bindMarks_founds (fields : List (List Char × V)) (pieces : List Piece) :
    bindMarks ((founds pieces).map (lookup fields)) pieces = bindNames fields pieces := by
  induction pieces with
  | nil => rfl
  | cons piece pieces ih =>
      cases piece with
      | char c =>
          simp only [founds_char, bindMarks, bindNames, List.map_cons] at ih ⊢
          rw [ih]
      | found name =>
          simp only [founds_found, bindMarks, bindNames, List.map_cons, List.head?_cons,
            Option.join_some, List.tail_cons] at ih ⊢
          rw [ih]

/-- Postgres finds the numbers that were written, and no others. -/
theorem postgresReading_numbered (houtside : Outside false pieces)
    (hmaximal : Maximal Char.isDigit pieces) (hdollar : ∀ c, .char c ∈ pieces → c ≠ '$')
    (hcount : values.length = (founds pieces).length) :
    postgresReading (replaceFrom numbered 1 pieces) (.positional values) =
      some (bindMarks values pieces) := by
  have hread : read numberPattern (replaceFrom numbered 1 pieces) =
      renumber digits 1 pieces := by
    have hwritten : replaceFrom numbered 1 pieces = render '$' (renumber digits 1 pieces) :=
      replaceFrom_eq_render 1 pieces
    rw [hwritten]
    refine readFrom_render (by decide) rfl false ?_ ?_
      (renumber_outside (fun n => not_mem_digits rfl n) false 1 houtside)
      (renumber_maximal 1 hmaximal)
    · intro c hc
      rcases mem_renumber hc with ⟨d, hd, hmem⟩ | ⟨n, hnew⟩
      · rw [Piece.char.injEq] at hd
        exact hdollar c (hd ▸ hmem)
      · cases hnew
    · intro b hb
      rcases mem_renumber hb with ⟨d, hd, -⟩ | ⟨n, hnew⟩
      · cases hd
      · rw [Piece.found.injEq] at hnew
        rw [hnew]
        exact ⟨digits_ne_nil n, fun c hc => isDigit_of_mem_digits hc⟩
  have hnumbers := numbers_renumber 0 pieces
  have hhighest : ((founds (renumber digits 1 pieces)).map numberOf).foldr max 0 =
      values.length := by
    rw [hnumbers, hcount]
    by_cases hnone : founds pieces = []
    · simp [hnone]
    · simp [hnone]
  have hbound : bindNumbers values (renumber digits 1 pieces) = bindMarks values pieces :=
    bindNumbers_renumber 0 pieces
  simp only [postgresReading, hread, hhighest, if_true, hbound]

/-! ## The rewritten statement -/

theorem namePattern_unquoted : namePattern.Unquoted := run_unquoted (by decide) rfl

theorem markPattern_unquoted : markPattern.Unquoted := by
  refine ⟨by decide, fun rest n h => ?_⟩
  have hn : n = 0 := by simpa [markPattern, Pattern.fixed] using h.symm
  simp [hn]

theorem isIdChar_eq {c : Char} (hdollar : c ≠ '$') (hascii : c.toNat < 128) :
    isIdChar c = isWord c := by
  simp [isIdChar, hdollar, Nat.not_le.mpr hascii]

theorem Plain.ne_dollar (h : Plain s) : ∀ c ∈ s, c ≠ '$' := by
  rintro c hc rfl
  exact h.familiar _ hc (by decide)

theorem sqliteReading_named (h : Plain s) (hliterals : ':' ∉ literals false s) :
    sqliteReading s (.named fields) = bindNames fields (scan namePattern s) := by
  have hsame : ∀ c ∈ s, isIdChar c = isWord c := fun c hc =>
    isIdChar_eq (h.ne_dollar c hc) (h.ascii c hc)
  have hread : read (.run ':' isIdChar) s = read namePattern s :=
    readFrom_run_congr false 0 s hsame
  rw [sqliteReading, hread, read_eq_scan namePattern_unquoted hliterals]

/-- No digit goes on with a place that stands apart. -/
theorem maximal_of_apart (h : apart pieces = true) : Maximal Char.isDigit pieces := by
  fun_induction apart pieces with
  | case1 => trivial
  | case2 c body pieces ih =>
      rw [Bool.and_eq_true] at h
      exact ih h.2
  | case3 body c pieces ih =>
      rw [Bool.and_eq_true] at h
      refine ⟨fun d hd => ?_, ih h.2⟩
      obtain rfl : c = d := by simpa using hd
      have hword : isWord c = false := by
        simp only [mayFollow, Bool.and_eq_true, Bool.not_eq_true'] at h
        exact h.1.1.1
      exact isDigit_of_isWord hword
  | case4 piece pieces hbefore hbehind ih =>
      cases piece with
      | char c => exact ih h
      | found body =>
          refine ⟨fun c hc => ?_, ih h⟩
          obtain ⟨rest, rfl⟩ := List.head?_eq_some_iff.mp hc
          exact absurd rfl (hbehind _ _ _ rfl)

theorem scan_outside (hp : p.Unquoted) (hliterals : p.sigil ∉ literals false s) :
    Outside false (scan p s) := by
  rw [← read_eq_scan hp hliterals]
  exact readFrom_outside hp false 0 s

/-- No mark comes out of the replacement of the names. -/
theorem marks_numbered (hmark : '?' ∉ s) :
    founds (scan markPattern (replaceAll namePattern numbered s)) = [] := by
  refine founds_scanFrom_of_not_mem 0 fun hmem => ?_
  have hwritten : replaceAll namePattern numbered s =
      render '$' (renumber digits 1 (scan namePattern s)) := replaceFrom_eq_render 1 _
  rw [hwritten] at hmem
  rcases mem_render hmem with hdollar | hchar | ⟨b, hb, hc⟩
  · cases hdollar
  · rcases mem_renumber hchar with ⟨d, hd, hold⟩ | ⟨n, hnew⟩
    · rw [Piece.char.injEq] at hd
      exact hmark (mem_of_char_mem_scanFrom 0 (hd ▸ hold))
    · cases hnew
  · rcases mem_renumber hb with ⟨d, hd, -⟩ | ⟨n, hnew⟩
    · cases hd
    · rw [Piece.found.injEq] at hnew
      exact not_mem_digits rfl n (hnew ▸ hc)

theorem convert_named (hnames : founds (scan namePattern (withClock sql)) ≠ [])
    (hmark : '?' ∉ withClock sql) :
    convertSqliteToPostgres sql (.named fields) =
      (replaceAll namePattern numbered (withClock sql),
        .positional ((founds (scan namePattern (withClock sql))).map (lookup fields))) := by
  have hlength : 0 < ((founds (scan namePattern (withClock sql))).map (lookup fields)).length := by
    rw [List.length_map]
    exact List.length_pos_iff.mpr hnames
  have hmarks : ¬0 < (founds (scan markPattern
      (replaceAll namePattern numbered (withClock sql)))).length := by
    rw [marks_numbered hmark]
    simp
  simp only [convertSqliteToPostgres, if_neg hmarks]
  rw [if_pos hlength]

theorem convert_positional (hnames : founds (scan namePattern (withClock sql)) = []) :
    convertSqliteToPostgres sql (.positional values) =
      (replaceAll markPattern numbered (withClock sql), .positional values) := by
  have hsame : replaceAll namePattern numbered (withClock sql) = withClock sql :=
    replaceAll_of_no_match numbered hnames
  simp only [convertSqliteToPostgres, hsame, hnames]
  split
  · rfl
  · rename_i hnone
    have hmarks : founds (scan markPattern (withClock sql)) = [] :=
      List.length_eq_zero_iff.mp (Nat.eq_zero_of_not_pos hnone)
    rw [replaceAll_of_no_match numbered hmarks]
    rfl

/-- `updateStatus`, on one line. -/
def updateStatus : List Char :=
  ("UPDATE orders SET status = :status, updated_at = CAST(strftime('%s','now') AS INTEGER) " ++
    "WHERE public_id = :publicId").toList

def statusFields : List (List Char × String) :=
  [("publicId".toList, "7f"), ("status".toList, "expired")]

/-- What the conditions ask of the statement with its clock, evaluated together. -/
theorem updateStatus_facts :
    ((withClock updateStatus).all (fun c => decide (c.toNat < 128 ∧ c ∉ strangers)) = true ∧
      hasComment (withClock updateStatus) = false) ∧
    (':' ∉ literals false (withClock updateStatus) ∧
      apart (scan namePattern (withClock updateStatus)) = true) ∧
    founds (scan namePattern (withClock updateStatus)) =
      ["status".toList, "publicId".toList] ∧ '?' ∉ withClock updateStatus := by
  decide +kernel

end OverSync.Coordinator.Postgres
