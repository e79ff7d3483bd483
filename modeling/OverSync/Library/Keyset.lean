import Mathlib.Data.List.Sort
import Mathlib.Data.Nat.Notation

/-! # Keyset pagination

A reader asks for the keys of a growing set in pages, highest key first. Each page goes on below
the last key of the page before it; one key more than a page shows is looked up to learn whether
another page follows. -/

namespace OverSync.Library.Keyset

variable {K : Type*} [LinearOrder K]

/-- The keys below a position, highest first; without a position, all keys. -/
def listing (keys : List K) (before : Option K) : List K :=
  (keys.filter fun key => before.all fun k => key < k).insertionSort (· ≥ ·)

/-- Where a reader goes on. -/
inductive Position (K : Type*) where
  | start
  | after (key : K)
  | finished
  deriving DecidableEq

structure Reader (K : Type*) where
  served : List K
  pages : ℕ
  position : Position K

def Reader.initial : Reader K := ⟨[], 0, .start⟩

/-- The page of a reader who goes on below `before`. -/
def Reader.readBelow (reader : Reader K) (keys : List K) (limit : ℕ) (before : Option K) :
    Reader K :=
  let fetched := (listing keys before).take (limit + 1)
  let shown := fetched.take limit
  { served := reader.served ++ shown
    pages := reader.pages + 1
    position :=
      if limit < fetched.length then
        match shown.getLast? with
        | some last => .after last
        | none => .finished
      else .finished }

/-- One page; a reader who has finished reads no more. -/
def Reader.read (reader : Reader K) (keys : List K) (limit : ℕ) : Reader K :=
  match reader.position with
  | .start => reader.readBelow keys limit none
  | .after key => reader.readBelow keys limit (some key)
  | .finished => reader

/-! ## Listings -/

variable {keys : List K} {before : Option K} {limit : ℕ} {x : K}

theorem mem_listing : x ∈ listing keys before ↔ x ∈ keys ∧ ∀ k ∈ before, x < k := by
  cases before <;> simp [listing, List.mem_insertionSort]

theorem listing_descending (before : Option K) (hkeys : keys.Nodup) :
    (listing keys before).Pairwise (· > ·) := by
  have hsorted : (listing keys before).Pairwise (· ≥ ·) := List.pairwise_insertionSort _ _
  have hnodup : (listing keys before).Nodup :=
    (List.perm_insertionSort _ _).nodup_iff.mpr (hkeys.filter _)
  exact hsorted.imp₂ (fun _ _ hle hne => lt_of_le_of_ne hle hne.symm) hnodup

/-- What is not among the first keys of a listing is below all of them. -/
theorem mem_take_listing_or_below (hkeys : keys.Nodup) (hx : x ∈ listing keys before) (n : ℕ) :
    x ∈ (listing keys before).take n ∨ ∀ y ∈ (listing keys before).take n, x < y := by
  have hdescending := listing_descending before hkeys
  rw [← List.take_append_drop n (listing keys before)] at hx hdescending
  rcases List.mem_append.mp hx with hx | hx
  · exact .inl hx
  · exact .inr fun y hy => (List.pairwise_append.mp hdescending).2.2 y hy x hx

/-! ## Readers -/

/-- What a reader has been served, where `existing` are the keys there were when the first page
was read and `keys` those there are now. -/
structure Reader.Sound (reader : Reader K) (existing keys : List K) (limit : ℕ) : Prop where
  descending : reader.served.Pairwise (· > ·)
  subset : reader.served ⊆ keys
  start : reader.position = .start → reader.served = [] ∧ reader.pages = 0
  after : ∀ key, reader.position = .after key →
    reader.served.getLast? = some key ∧ reader.served.length = limit * reader.pages ∧
      ∀ x ∈ existing, x ∈ reader.served ∨ x < key
  finished : reader.position = .finished → ∀ x ∈ existing, x ∈ reader.served

theorem Reader.sound_initial (existing keys : List K) (limit : ℕ) :
    (Reader.initial : Reader K).Sound existing keys limit where
  descending := .nil
  subset := List.nil_subset _
  start _ := ⟨rfl, rfl⟩
  after := by simp [initial]
  finished := by simp [initial]

theorem Reader.Sound.mono {reader : Reader K} {existing keys keys' : List K}
    (h : reader.Sound existing keys limit) (hkeys : keys ⊆ keys') :
    reader.Sound existing keys' limit :=
  { h with subset := fun _ hx => hkeys (h.subset hx) }

/-- What is shown of a listing: the key it stops at, if another page follows. -/
theorem Reader.position_readBelow (reader : Reader K) (keys : List K) (hlimit : 0 < limit)
    (before : Option K) :
    (∃ last, (reader.readBelow keys limit before).position = .after last ∧
      ((listing keys before).take limit).getLast? = some last ∧
      ((listing keys before).take limit).length = limit) ∨
    ((reader.readBelow keys limit before).position = .finished ∧
      (listing keys before).take limit = listing keys before) := by
  have hshown : ((listing keys before).take (limit + 1)).take limit =
      (listing keys before).take limit := by
    rw [List.take_take, Nat.min_eq_left (Nat.le_succ limit)]
  simp only [readBelow, hshown, List.length_take]
  by_cases hmore : limit < (listing keys before).length
  · have hlength : ((listing keys before).take limit).length = limit :=
      List.length_take_of_le hmore.le
    rw [if_pos (by omega)]
    cases hlast : ((listing keys before).take limit).getLast? with
    | none =>
        rw [List.getLast?_eq_none_iff] at hlast
        rw [hlast] at hlength
        exact absurd hlength hlimit.ne
    | some last => exact .inl ⟨last, rfl, rfl, by omega⟩
  · rw [if_neg (by omega), List.take_of_length_le (by omega)]
    exact .inr ⟨rfl, rfl⟩

/-- A page goes on with what the reader has been served, if all of that lies above it. -/
theorem Reader.sound_readBelow {reader : Reader K} {existing : List K} (hkeys : keys.Nodup)
    (hlimit : 0 < limit) (hexisting : existing ⊆ keys)
    (hdescending : reader.served.Pairwise (· > ·)) (hsubset : reader.served ⊆ keys)
    (habove : ∀ y ∈ reader.served, ∃ k ∈ before, k ≤ y)
    (hpages : reader.served.length = limit * reader.pages)
    (hcovered : ∀ x ∈ existing, x ∈ reader.served ∨ ∀ k ∈ before, x < k) :
    (reader.readBelow keys limit before).Sound existing keys limit := by
  have hserved : (reader.readBelow keys limit before).served =
      reader.served ++ (listing keys before).take limit := by
    rw [readBelow, List.take_take, Nat.min_eq_left (Nat.le_succ limit)]
  have hmem : ∀ x ∈ (listing keys before).take limit, x ∈ keys ∧ ∀ k ∈ before, x < k :=
    fun x hx => mem_listing.mp (List.mem_of_mem_take hx)
  have hnext : ∀ x ∈ existing, x ∈ (reader.readBelow keys limit before).served ∨
      ∀ y ∈ (listing keys before).take limit, x < y := by
    intro x hx
    rw [hserved, List.mem_append]
    rcases hcovered x hx with hold | hbelow
    · exact .inl (.inl hold)
    · have hlisted : x ∈ listing keys before := mem_listing.mpr ⟨hexisting hx, hbelow⟩
      rcases mem_take_listing_or_below hkeys hlisted limit with hshown | hbelow
      · exact .inl (.inr hshown)
      · exact .inr hbelow
  have hposition := reader.position_readBelow keys hlimit before
  constructor
  case descending =>
    rw [hserved, List.pairwise_append]
    refine ⟨hdescending, (listing_descending before hkeys).sublist (List.take_sublist _ _), ?_⟩
    intro y hy x hx
    obtain ⟨k, hk, hle⟩ := habove y hy
    exact lt_of_lt_of_le ((hmem x hx).2 k hk) hle
  case subset =>
    rw [hserved]
    exact List.append_subset.mpr ⟨hsubset, fun x hx => (hmem x hx).1⟩
  case start =>
    intro hstart
    rcases hposition with ⟨last, hafter, -⟩ | ⟨hfinished, -⟩
    · rw [hafter] at hstart
      contradiction
    · rw [hfinished] at hstart
      contradiction
  case after =>
    intro key hkey
    rcases hposition with ⟨last, hafter, hlast, hlength⟩ | ⟨hfinished, -⟩
    · rw [hafter, Position.after.injEq] at hkey
      subst hkey
      refine ⟨?_, ?_, ?_⟩
      · rw [hserved, List.getLast?_append, hlast]
        rfl
      · rw [hserved, List.length_append, hpages, hlength, readBelow]
        exact (Nat.mul_succ limit reader.pages).symm
      · exact fun x hx => (hnext x hx).imp_right fun h => h last (List.mem_of_getLast? hlast)
    · rw [hfinished] at hkey
      contradiction
  case finished =>
    intro hfinished x hx
    rcases hposition with ⟨last, hafter, -⟩ | ⟨-, hall⟩
    · rw [hafter] at hfinished
      contradiction
    · rw [hserved, hall, List.mem_append]
      rcases hcovered x hx with hold | hbelow
      · exact .inl hold
      · exact .inr (mem_listing.mpr ⟨hexisting hx, hbelow⟩)

theorem Reader.sound_read_start {reader : Reader K} (hkeys : keys.Nodup) (hlimit : 0 < limit)
    (hstart : reader.position = .start) (h : reader.Sound [] keys limit) :
    (reader.read keys limit).Sound keys keys limit := by
  obtain ⟨hserved, hpages⟩ := h.start hstart
  rw [read, hstart]
  apply sound_readBelow hkeys hlimit (List.Subset.refl keys) h.descending h.subset
  · simp [hserved]
  · simp [hserved, hpages]
  · simp

/-- Keys that came up since the first page change nothing about those there were. -/
theorem Reader.sound_read {reader : Reader K} {existing : List K} (hkeys : keys.Nodup)
    (hlimit : 0 < limit) (hexisting : existing ⊆ keys) (hstarted : reader.position ≠ .start)
    (h : reader.Sound existing keys limit) : (reader.read keys limit).Sound existing keys limit := by
  rw [read]
  split
  · next hstart => exact absurd hstart hstarted
  · next key hafter =>
      obtain ⟨hlast, hpages, hcovered⟩ := h.after key hafter
      apply sound_readBelow hkeys hlimit hexisting h.descending h.subset _ hpages
      · simpa using hcovered
      · intro y hy
        refine ⟨key, rfl, ?_⟩
        obtain ⟨front, hfront⟩ := List.getLast?_eq_some_iff.mp hlast
        have hdescending := h.descending
        rw [hfront] at hy hdescending
        rcases List.mem_append.mp hy with hy | hy
        · exact ((List.pairwise_append.mp hdescending).2.2 y hy key List.mem_cons_self).le
        · exact (List.mem_singleton.mp hy).ge
  · exact h

/-- A reader who has not finished has read no more pages than the keys fill. -/
theorem Reader.Sound.pages_le {reader : Reader K} {existing : List K}
    (h : reader.Sound existing keys limit) (hunfinished : reader.position ≠ .finished) :
    limit * reader.pages ≤ keys.length := by
  have hlength : reader.served.length = limit * reader.pages := by
    cases hposition : reader.position with
    | start =>
        obtain ⟨hserved, hpages⟩ := h.start hposition
        rw [hserved, hpages]
        rfl
    | after key => exact (h.after key hposition).2.1
    | finished => exact absurd hposition hunfinished
  have hnodup : reader.served.Nodup := h.descending.imp fun hgt => hgt.ne'
  rw [← hlength]
  exact (List.subperm_of_subset hnodup h.subset).length_le

end OverSync.Library.Keyset
