import Mathlib.Data.List.Basic
import Mathlib.Data.List.TakeWhile
import Mathlib.Tactic.Common

/-! # Texts taken apart at a pattern

A pattern is a character with what belongs to it behind. A scan finds its places from left to
right, as a global regular expression does; a reader of a language also skips what stands in
quotes. -/

namespace OverSync.Library.Scan

/-- The patterns of one leading character. -/
structure Pattern where
  sigil : Char
  /-- How much of what follows the sigil belongs to the match, if there is one. -/
  extent : List Char → Option ℕ

/-- The sigil and the longest run of characters behind it, which may not be empty. -/
def Pattern.run (sigil : Char) (body : Char → Bool) : Pattern where
  sigil := sigil
  extent rest := match rest.takeWhile body with
    | [] => none
    | c :: cs => some (c :: cs).length

/-- A fixed text. -/
def Pattern.fixed (sigil : Char) (word : List Char) : Pattern where
  sigil := sigil
  extent rest := if word.isPrefixOf rest then some word.length else none

/-- `found` keeps what stood behind the sigil. -/
inductive Piece where
  | char (c : Char)
  | found (body : List Char)
  deriving DecidableEq

def scanFrom (p : Pattern) : ℕ → List Char → List Piece
  | _, [] => []
  | skip + 1, _ :: cs => scanFrom p skip cs
  | 0, c :: cs =>
    if c = p.sigil then
      match p.extent cs with
      | some n => .found (cs.take n) :: scanFrom p n cs
      | none => .char c :: scanFrom p 0 cs
    else .char c :: scanFrom p 0 cs

/-- The matches of the pattern and the characters between them. -/
def scan (p : Pattern) (s : List Char) : List Piece := scanFrom p 0 s

/-- As `scanFrom`; what stands in single quotes is left alone. -/
def readFrom (p : Pattern) : Bool → ℕ → List Char → List Piece
  | _, _, [] => []
  | quoted, skip + 1, _ :: cs => readFrom p quoted skip cs
  | quoted, 0, c :: cs =>
    if c = '\'' then .char c :: readFrom p (!quoted) 0 cs
    else if c = p.sigil ∧ quoted = false then
      match p.extent cs with
      | some n => .found (cs.take n) :: readFrom p quoted n cs
      | none => .char c :: readFrom p quoted 0 cs
    else .char c :: readFrom p quoted 0 cs

def read (p : Pattern) (s : List Char) : List Piece := readFrom p false 0 s

/-- The bodies of the matches. -/
def founds (pieces : List Piece) : List (List Char) :=
  pieces.filterMap fun
    | .char _ => none
    | .found body => some body

/-- The text with the matches replaced, by their number and their body. -/
def replaceFrom (f : ℕ → List Char → List Char) : ℕ → List Piece → List Char
  | _, [] => []
  | index, .char c :: pieces => c :: replaceFrom f index pieces
  | index, .found body :: pieces => f index body ++ replaceFrom f (index + 1) pieces

/-- `s.replace(pattern, ..)` with a global pattern; matches are counted from one. -/
def replaceAll (p : Pattern) (f : ℕ → List Char → List Char) (s : List Char) : List Char :=
  replaceFrom f 1 (scan p s)

/-- What stands in quotes. -/
def literals : Bool → List Char → List Char
  | _, [] => []
  | quoted, c :: cs =>
    if c = '\'' then literals (!quoted) cs
    else if quoted then c :: literals quoted cs
    else literals quoted cs

variable {p : Pattern} {s : List Char} {pieces : List Piece}

theorem readFrom_skip (quoted : Bool) (skip : ℕ) (s : List Char) :
    readFrom p quoted skip s = readFrom p quoted 0 (s.drop skip) := by
  induction s generalizing skip with
  | nil => simp [readFrom]
  | cons c cs ih =>
      cases skip with
      | zero => rfl
      | succ skip => exact ih skip

@[simp] theorem founds_char (c : Char) : founds (.char c :: pieces) = founds pieces := rfl

@[simp] theorem founds_found (body : List Char) :
    founds (.found body :: pieces) = body :: founds pieces := rfl

/-! ## Texts without matches -/

theorem founds_scanFrom_of_not_mem (skip : ℕ) (h : p.sigil ∉ s) :
    founds (scanFrom p skip s) = [] := by
  induction s generalizing skip with
  | nil => cases skip <;> rfl
  | cons c cs ih =>
      rw [List.mem_cons, not_or] at h
      cases skip with
      | succ skip => exact ih skip h.2
      | zero =>
          rw [scanFrom, if_neg (Ne.symm h.1)]
          exact ih 0 h.2

/-- Without a match nothing is replaced. -/
theorem replaceAll_of_no_match (f : ℕ → List Char → List Char)
    (h : founds (scan p s) = []) : replaceAll p f s = s := by
  rw [replaceAll]
  rw [scan] at h ⊢
  generalize (1 : ℕ) = index
  induction s with
  | nil => rfl
  | cons c cs ih =>
      rw [scanFrom] at h ⊢
      by_cases hc : c = p.sigil
      · rw [if_pos hc] at h ⊢
        cases hextent : p.extent cs with
        | none =>
            rw [hextent] at h
            simp only [replaceFrom]
            rw [ih h]
        | some n =>
            rw [hextent] at h
            simp [founds] at h
      · rw [if_neg hc] at h ⊢
        simp only [replaceFrom]
        rw [ih h]

theorem mem_of_char_mem_scanFrom {c : Char} (skip : ℕ) (h : .char c ∈ scanFrom p skip s) :
    c ∈ s := by
  induction s generalizing skip with
  | nil => simp [scanFrom] at h
  | cons d cs ih =>
      cases skip with
      | succ skip => exact List.mem_cons_of_mem _ (ih skip h)
      | zero =>
          have hchar (h : .char c ∈ Piece.char d :: scanFrom p 0 cs) : c ∈ d :: cs := by
            rcases List.mem_cons.mp h with hc | hc
            · rw [Piece.char.injEq] at hc
              exact hc ▸ List.mem_cons_self
            · exact List.mem_cons_of_mem _ (ih 0 hc)
          rw [scanFrom] at h
          split at h
          · split at h
            · rcases List.mem_cons.mp h with hc | hc
              · cases hc
              · exact List.mem_cons_of_mem _ (ih _ hc)
            · exact hchar h
          · exact hchar h

/-! ## Quotes -/

/-- The matches of the pattern run into no quote. -/
def Pattern.Unquoted (p : Pattern) : Prop :=
  p.sigil ≠ '\'' ∧ ∀ rest n, p.extent rest = some n → '\'' ∉ rest.take n

theorem readFrom_eq_scanFrom (hp : p.Unquoted) (quoted : Bool) (skip : ℕ) (s : List Char)
    (hskip : quoted = true → skip = 0) (hquote : '\'' ∉ s.take skip)
    (hliterals : p.sigil ∉ literals quoted s) :
    readFrom p quoted skip s = scanFrom p skip s := by
  induction s generalizing quoted skip with
  | nil => rfl
  | cons c cs ih =>
      cases skip with
      | succ skip =>
          have hquoted : quoted = false := by
            cases quoted with
            | false => rfl
            | true => simp at hskip
          subst hquoted
          rw [List.take_succ_cons, List.mem_cons, not_or] at hquote
          rw [literals, if_neg (Ne.symm hquote.1)] at hliterals
          exact ih false skip (by simp) hquote.2 hliterals
      | zero =>
          rw [readFrom, scanFrom]
          by_cases hc : c = '\''
          · subst hc
            rw [literals, if_pos rfl] at hliterals
            rw [if_pos rfl, if_neg (Ne.symm hp.1), ih _ 0 (fun _ => rfl) (by simp) hliterals]
          · rw [literals, if_neg hc] at hliterals
            rw [if_neg hc]
            cases quoted with
            | true =>
                simp only [if_true, List.mem_cons, not_or] at hliterals
                rw [if_neg (by simp), if_neg (Ne.symm hliterals.1),
                  ih true 0 (fun _ => rfl) (by simp) hliterals.2]
            | false =>
                have hrest := ih false 0 (by simp) (by simp) hliterals
                by_cases hsigil : c = p.sigil
                · rw [if_pos ⟨hsigil, rfl⟩, if_pos hsigil]
                  cases hextent : p.extent cs with
                  | none => simp only [hrest]
                  | some n =>
                      simp only [ih false n (by simp) (hp.2 cs n hextent) hliterals]
                · rw [if_neg (by simp [hsigil]), if_neg hsigil, hrest]

/-- A reader finds what a scan finds, if the sigil is in no quotes. -/
theorem read_eq_scan (hp : p.Unquoted) (hliterals : p.sigil ∉ literals false s) :
    read p s = scan p s :=
  readFrom_eq_scanFrom hp false 0 s (by simp) (by simp) hliterals

/-- No match is in quotes or runs into one. -/
def Outside : Bool → List Piece → Prop
  | _, [] => True
  | quoted, .char c :: pieces => Outside (if c = '\'' then !quoted else quoted) pieces
  | quoted, .found body :: pieces => quoted = false ∧ '\'' ∉ body ∧ Outside quoted pieces

theorem readFrom_outside (hp : p.Unquoted) (quoted : Bool) (skip : ℕ) (s : List Char) :
    Outside quoted (readFrom p quoted skip s) := by
  induction s generalizing quoted skip with
  | nil => trivial
  | cons c cs ih =>
      cases skip with
      | succ skip => exact ih quoted skip
      | zero =>
          rw [readFrom]
          by_cases hc : c = '\''
          · rw [if_pos hc, Outside, if_pos hc]
            exact ih (!quoted) 0
          · rw [if_neg hc]
            have hchar : Outside quoted (.char c :: readFrom p quoted 0 cs) := by
              rw [Outside, if_neg hc]
              exact ih quoted 0
            by_cases hsigil : c = p.sigil ∧ quoted = false
            · rw [if_pos hsigil]
              cases hextent : p.extent cs with
              | none => exact hchar
              | some n => exact ⟨hsigil.2, hp.2 cs n hextent, ih quoted n⟩
            · rw [if_neg hsigil]
              exact hchar

/-! ## Runs -/

variable {sigil : Char} {body : Char → Bool}

@[simp] theorem run_sigil : (Pattern.run sigil body).sigil = sigil := rfl

theorem takeWhile_congr {body' : Char → Bool} (h : ∀ c ∈ s, body c = body' c) :
    s.takeWhile body = s.takeWhile body' := by
  induction s with
  | nil => rfl
  | cons c cs ih =>
      rw [List.takeWhile_cons, List.takeWhile_cons, h c List.mem_cons_self,
        ih fun d hd => h d (List.mem_cons_of_mem c hd)]

theorem extent_run_of_append {run rest : List Char} (hrun : run ≠ [])
    (hbody : ∀ c ∈ run, body c = true) (hrest : ∀ c ∈ rest.head?, body c = false) :
    (Pattern.run sigil body).extent (run ++ rest) = some run.length := by
  have hnone : rest.takeWhile body = [] := by
    cases rest with
    | nil => rfl
    | cons c cs => simp [hrest c rfl]
  have htake : (run ++ rest).takeWhile body = run := by
    rw [List.takeWhile_append_of_pos hbody, hnone, List.append_nil]
  simp only [Pattern.run, htake]
  cases run with
  | nil => exact absurd rfl hrun
  | cons c cs => rfl

theorem take_extent_run {rest : List Char} {n : ℕ}
    (h : (Pattern.run sigil body).extent rest = some n) : rest.take n = rest.takeWhile body := by
  simp only [Pattern.run] at h
  cases htake : rest.takeWhile body with
  | nil => simp [htake] at h
  | cons c cs =>
      simp only [htake, Option.some.injEq] at h
      subst h
      have hsplit : (c :: cs) ++ rest.dropWhile body = rest := by
        rw [← htake, List.takeWhile_append_dropWhile]
      rw [← hsplit]
      exact List.take_left

theorem run_unquoted (hsigil : sigil ≠ '\'') (hbody : body '\'' = false) :
    (Pattern.run sigil body).Unquoted := by
  refine ⟨hsigil, fun rest n h hmem => ?_⟩
  rw [take_extent_run h] at hmem
  have hquote := List.mem_takeWhile_imp hmem
  rw [hbody] at hquote
  cases hquote

/-- No match is followed by a character it could have taken. -/
def Maximal (body : Char → Bool) : List Piece → Prop
  | [] => True
  | .char _ :: pieces => Maximal body pieces
  | .found _ :: pieces =>
    (∀ c, pieces.head? = some (.char c) → body c = false) ∧ Maximal body pieces

/-- Readers that agree on the characters of a text read it the same. -/
theorem readFrom_run_congr {body' : Char → Bool} (quoted : Bool) (skip : ℕ) (s : List Char)
    (h : ∀ c ∈ s, body c = body' c) :
    readFrom (.run sigil body) quoted skip s = readFrom (.run sigil body') quoted skip s := by
  induction s generalizing quoted skip with
  | nil => rfl
  | cons c cs ih =>
      have hcs : ∀ d ∈ cs, body d = body' d := fun d hd => h d (List.mem_cons_of_mem c hd)
      have hextent : (Pattern.run sigil body).extent cs = (Pattern.run sigil body').extent cs := by
        have htake := takeWhile_congr hcs
        simp only [Pattern.run, htake]
      cases skip with
      | succ skip => exact ih quoted skip hcs
      | zero =>
          have hsame := fun quoted skip => ih quoted skip hcs
          simp only [readFrom, hextent, hsame, run_sigil]
          rfl

/-! ## Writing matches back -/

def render (sigil : Char) : List Piece → List Char
  | [] => []
  | .char c :: pieces => c :: render sigil pieces
  | .found body :: pieces => sigil :: (body ++ render sigil pieces)

/-- The matches with new bodies, by their number. -/
def renumber (f : ℕ → List Char) : ℕ → List Piece → List Piece
  | _, [] => []
  | index, .char c :: pieces => .char c :: renumber f index pieces
  | index, .found _ :: pieces => .found (f index) :: renumber f (index + 1) pieces

theorem mem_render {c : Char} (h : c ∈ render sigil pieces) :
    c = sigil ∨ .char c ∈ pieces ∨ ∃ b, .found b ∈ pieces ∧ c ∈ b := by
  induction pieces with
  | nil => simp [render] at h
  | cons piece pieces ih =>
      cases piece with
      | char d =>
          rcases List.mem_cons.mp h with hc | hc
          · exact .inr (.inl (hc ▸ List.mem_cons_self))
          · rcases ih hc with hsigil | hchar | ⟨b, hb, hc⟩
            · exact .inl hsigil
            · exact .inr (.inl (List.mem_cons_of_mem _ hchar))
            · exact .inr (.inr ⟨b, List.mem_cons_of_mem _ hb, hc⟩)
      | found b =>
          rcases List.mem_cons.mp h with hc | hc
          · exact .inl hc
          · rcases List.mem_append.mp hc with hc | hc
            · exact .inr (.inr ⟨b, List.mem_cons_self, hc⟩)
            · rcases ih hc with hsigil | hchar | ⟨b', hb, hc⟩
              · exact .inl hsigil
              · exact .inr (.inl (List.mem_cons_of_mem _ hchar))
              · exact .inr (.inr ⟨b', List.mem_cons_of_mem _ hb, hc⟩)

variable {f : ℕ → List Char}

theorem replaceFrom_eq_render (index : ℕ) (pieces : List Piece) :
    replaceFrom (fun index _ => sigil :: f index) index pieces =
      render sigil (renumber f index pieces) := by
  induction pieces generalizing index with
  | nil => rfl
  | cons piece pieces ih =>
      cases piece with
      | char c => rw [replaceFrom, renumber, render, ih]
      | found old => rw [replaceFrom, renumber, render, ih, List.cons_append]

theorem renumber_outside (hf : ∀ n, '\'' ∉ f n) (quoted : Bool) (index : ℕ)
    (h : Outside quoted pieces) : Outside quoted (renumber f index pieces) := by
  induction pieces generalizing quoted index with
  | nil => trivial
  | cons piece pieces ih =>
      cases piece with
      | char c => exact ih _ index h
      | found old => exact ⟨h.1, hf index, ih quoted (index + 1) h.2.2⟩

theorem renumber_maximal (index : ℕ) (h : Maximal body pieces) :
    Maximal body (renumber f index pieces) := by
  induction pieces generalizing index with
  | nil => trivial
  | cons piece pieces ih =>
      cases piece with
      | char c => exact ih index h
      | found old =>
          refine ⟨fun c hc => h.1 c ?_, ih (index + 1) h.2⟩
          cases pieces with
          | nil => simp [renumber] at hc
          | cons next pieces =>
              cases next with
              | char d => simpa [renumber] using hc
              | found old' => simp [renumber] at hc

theorem mem_renumber {piece : Piece} {index : ℕ} (h : piece ∈ renumber f index pieces) :
    (∃ c, piece = .char c ∧ .char c ∈ pieces) ∨ ∃ n, piece = .found (f n) := by
  induction pieces generalizing index with
  | nil => simp [renumber] at h
  | cons first pieces ih =>
      have hmore (hpiece : (∃ c, piece = .char c ∧ .char c ∈ pieces) ∨
          ∃ n, piece = .found (f n)) :
          (∃ c, piece = .char c ∧ .char c ∈ first :: pieces) ∨ ∃ n, piece = .found (f n) := by
        rcases hpiece with ⟨c, hc, hmem⟩ | hfound
        · exact .inl ⟨c, hc, List.mem_cons_of_mem _ hmem⟩
        · exact .inr hfound
      cases first with
      | char c =>
          rcases List.mem_cons.mp h with hpiece | hpiece
          · exact .inl ⟨c, hpiece, List.mem_cons_self⟩
          · exact hmore (ih hpiece)
      | found old =>
          rcases List.mem_cons.mp h with hpiece | hpiece
          · exact .inr ⟨index, hpiece⟩
          · exact hmore (ih hpiece)

/-- A reader of the sigil finds the matches that were written, where each ends before what
follows and nothing else looks like one. -/
theorem readFrom_render (hsigil : sigil ≠ '\'') (hstop : body sigil = false) (quoted : Bool)
    (hchars : ∀ c, .char c ∈ pieces → c ≠ sigil)
    (hbodies : ∀ b, .found b ∈ pieces → b ≠ [] ∧ ∀ c ∈ b, body c = true)
    (houtside : Outside quoted pieces) (hmaximal : Maximal body pieces) :
    readFrom (.run sigil body) quoted 0 (render sigil pieces) = pieces := by
  induction pieces generalizing quoted with
  | nil => rfl
  | cons piece pieces ih =>
      have hrest := fun quoted => ih quoted
        (fun c hc => hchars c (List.mem_cons_of_mem _ hc))
        fun b hb => hbodies b (List.mem_cons_of_mem _ hb)
      cases piece with
      | char c =>
          rw [render, readFrom]
          rw [Outside] at houtside
          by_cases hc : c = '\''
          · rw [if_pos hc] at houtside ⊢
            rw [hrest _ houtside hmaximal]
          · have hne : c ≠ sigil := hchars c List.mem_cons_self
            rw [if_neg hc] at houtside ⊢
            rw [if_neg (by simp [Pattern.run, hne]), hrest _ houtside hmaximal]
      | found b =>
          obtain ⟨hquoted, -, houtside⟩ := houtside
          obtain ⟨hne, hb⟩ := hbodies b List.mem_cons_self
          have hhead : ∀ c ∈ (render sigil pieces).head?, body c = false := by
            intro c hc
            cases pieces with
            | nil => simp [render] at hc
            | cons next pieces =>
                cases next with
                | char d =>
                    refine hmaximal.1 c ?_
                    simpa [render] using hc
                | found b' =>
                    have hcs : sigil = c := by simpa [render] using hc
                    exact hcs ▸ hstop
          have hextent : (Pattern.run sigil body).extent (b ++ render sigil pieces) =
              some b.length := extent_run_of_append hne hb hhead
          rw [render, readFrom, if_neg hsigil, if_pos ⟨rfl, hquoted⟩, hextent]
          simp only [List.take_left]
          rw [readFrom_skip, List.drop_left, hrest _ houtside hmaximal.2]

end OverSync.Library.Scan
