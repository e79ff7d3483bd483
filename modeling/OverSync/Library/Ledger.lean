import OverSync.Library.Stakes

/-! # Ledgers

An account is opened with an amount, raised, reduced, and closed with what is left in it. The
postings tell the book, and what went into an account is still there or came out of it. -/

namespace OverSync.Library

open Function

variable {Member Money : Type*}

namespace Ledger

/-- The open accounts, and what is in each. -/
abbrev Book (Member Money : Type*) := Member → Option Money

/-- The book without accounts. -/
def blank : Book Member Money := fun _ => none

/-- One line of a ledger; a raise may say what is in the account after it. -/
inductive Posting (Member Money : Type*) where
  | opened (member : Member) (amount : Money)
  | raised (member : Member) (amount : Money) (total : Option Money)
  | reduced (member : Member) (amount : Money)
  | closed (member : Member) (amount : Money)
  deriving DecidableEq, Repr

section Reading

variable [DecidableEq Member] [AddCommMonoid Money] [PartialOrder Money]

/-- A posting fits the book: no account is opened twice, totals are right, and nobody takes more
than there is. -/
inductive Posts (book : Book Member Money) :
    Posting Member Money → Book Member Money → Prop where
  | opened {member amount} : book member = none → 0 ≤ amount →
      Posts book (.opened member amount) (update book member (some amount))
  | raised {member old amount total} : book member = some old → 0 ≤ amount →
      (∀ t ∈ total, t = old + amount) →
      Posts book (.raised member amount total) (update book member (some (old + amount)))
  | reduced {member rest amount} : book member = some (rest + amount) → 0 ≤ rest → 0 ≤ amount →
      Posts book (.reduced member amount) (update book member (some rest))
  | closed {member amount} : book member = some amount →
      Posts book (.closed member amount) (update book member none)

variable {book book₁ book₂ : Book Member Money} {posting : Posting Member Money}
  {postings : List (Posting Member Money)}

theorem Posts.unique [IsRightCancelAdd Money] (h₁ : Posts book posting book₁)
    (h₂ : Posts book posting book₂) : book₁ = book₂ := by
  cases h₁ with
  | opened _ _ => cases h₂; rfl
  | raised hold₁ _ _ =>
      cases h₂ with
      | raised hold₂ _ _ => rw [Option.some.inj (hold₁.symm.trans hold₂)]
  | reduced hold₁ _ _ =>
      cases h₂ with
      | reduced hold₂ _ _ =>
          rw [add_right_cancel (Option.some.inj (hold₁.symm.trans hold₂))]
  | closed _ => cases h₂; rfl

/-- A ledger is the ledger of one book only. -/
theorem book_unique [IsRightCancelAdd Money] (h₁ : Execution Posts book postings book₁)
    (h₂ : Execution Posts book postings book₂) : book₁ = book₂ := by
  induction h₁ generalizing book₂ with
  | refl => exact h₂.eq_of_nil.symm
  | snoc _ hlast₁ ih =>
      obtain ⟨c, hfront₂, hlast₂⟩ := h₂.last_step
      obtain rfl := ih hfront₂
      exact hlast₁.unique hlast₂

end Reading

/-! ## Accounts -/

section Accounts

variable [DecidableEq Member] [AddCommMonoid Money]

/-- What a posting puts into an account. -/
def Posting.paidIn (member : Member) : Posting Member Money → Money
  | .opened m amount => if m = member then amount else 0
  | .raised m amount _ => if m = member then amount else 0
  | .reduced _ _ => 0
  | .closed _ _ => 0

/-- What a posting takes out of an account. -/
def Posting.paidOut (member : Member) : Posting Member Money → Money
  | .opened _ _ => 0
  | .raised _ _ _ => 0
  | .reduced m amount => if m = member then amount else 0
  | .closed m amount => if m = member then amount else 0

/-- What went into an account. -/
def paidIn (postings : List (Posting Member Money)) (member : Member) : Money :=
  (postings.map (Posting.paidIn member)).sum

/-- What came out of an account. -/
def paidOut (postings : List (Posting Member Money)) (member : Member) : Money :=
  (postings.map (Posting.paidOut member)).sum

@[simp] theorem paidIn_append (front back : List (Posting Member Money)) (member : Member) :
    paidIn (front ++ back) member = paidIn front member + paidIn back member := by
  simp [paidIn]

@[simp] theorem paidOut_append (front back : List (Posting Member Money)) (member : Member) :
    paidOut (front ++ back) member = paidOut front member + paidOut back member := by
  simp [paidOut]

variable [PartialOrder Money] {book book' : Book Member Money}
  {posting : Posting Member Money} {postings : List (Posting Member Money)}

/-- A posting balances in every account. -/
theorem Posts.balances (h : Posts book posting book') (member : Member) :
    (book member).getD 0 + posting.paidIn member =
      (book' member).getD 0 + posting.paidOut member := by
  cases h with
  | @opened m amount hnone _ =>
      by_cases hm : m = member
      · subst hm
        simp [Posting.paidIn, Posting.paidOut, hnone]
      · simp [Posting.paidIn, Posting.paidOut, hm, update_of_ne (Ne.symm hm)]
  | @raised m old amount total hold _ _ =>
      by_cases hm : m = member
      · subst hm
        simp [Posting.paidIn, Posting.paidOut, hold]
      · simp [Posting.paidIn, Posting.paidOut, hm, update_of_ne (Ne.symm hm)]
  | @reduced m rest amount hold _ _ =>
      by_cases hm : m = member
      · subst hm
        simp [Posting.paidIn, Posting.paidOut, hold]
      · simp [Posting.paidIn, Posting.paidOut, hm, update_of_ne (Ne.symm hm)]
  | @closed m amount hold =>
      by_cases hm : m = member
      · subst hm
        simp [Posting.paidIn, Posting.paidOut, hold]
      · simp [Posting.paidIn, Posting.paidOut, hm, update_of_ne (Ne.symm hm)]

/-- What went into an account is still there or came out of it. -/
theorem accounts_balance (h : Execution Posts blank postings book) (member : Member) :
    paidIn postings member = (book member).getD 0 + paidOut postings member := by
  induction h with
  | refl => simp [paidIn, paidOut, blank]
  | @snoc c book posting postings _ hstep ih =>
      have hlast := hstep.balances member
      have hin : paidIn [posting] member = posting.paidIn member := by simp [paidIn]
      have hout : paidOut [posting] member = posting.paidOut member := by simp [paidOut]
      rw [paidIn_append, paidOut_append, ih, hin, hout, add_right_comm, hlast, add_right_comm,
        add_assoc]

end Accounts

end Ledger

/-! ## The stakes of a pool as a book -/

namespace Stakes

open Ledger

variable [DecidableEq Member] {b c : Stakes Member Money} {member : Member} {amount : Money}

/-- The members, each with its stake. -/
def book (b : Stakes Member Money) : Book Member Money :=
  fun member => if member ∈ b.members then some (b.stake member) else none

@[simp] theorem book_of_mem (h : member ∈ b.members) : b.book member = some (b.stake member) :=
  if_pos h

@[simp] theorem book_of_notMem (h : member ∉ b.members) : b.book member = none :=
  if_neg h

/-- A stake is rewritten. -/
theorem book_update (hmembers : c.members = b.members) (hmem : member ∈ b.members)
    (hstake : c.stake = update b.stake member amount) :
    c.book = update b.book member (some amount) := by
  funext other
  by_cases ho : other = member
  · subst ho
    simp [book, hmembers, hstake, hmem]
  · simp [book, hmembers, hstake, ho]

variable [AddCommMonoid Money] [PartialOrder Money]

theorem Step.posts_joined (h : Step b (.joined member amount) c) :
    Posts b.book (.opened member amount) c.book := by
  cases h with
  | joined hnew hamount hmembers hstake _ =>
      have hbook : c.book = update b.book member (some amount) := by
        funext other
        by_cases ho : other = member
        · simp [book, hstake, hmembers.mem_iff, ho]
        · simp [book, hstake, hmembers.mem_iff, ho]
      rw [hbook]
      exact .opened (book_of_notMem hnew) hamount

theorem Step.posts_raised (h : Step b (.raised member amount) c) {total : Option Money}
    (htotal : ∀ t ∈ total, t = b.stake member + amount) :
    Posts b.book (.raised member amount total) c.book := by
  cases h with
  | raised hmem hamount hmembers hstake _ =>
      rw [book_update hmembers hmem hstake]
      exact .raised (book_of_mem hmem) hamount htotal

theorem Step.posts_cut (h : Step b (.cut member amount) c) (hamount : 0 ≤ amount) :
    Posts b.book (.reduced member amount) c.book := by
  cases h with
  | cut hmem hrest hmembers hsplit hstake _ =>
      rw [book_update hmembers hmem hstake]
      exact .reduced ((book_of_mem hmem).trans (congrArg some hsplit)) hrest hamount

theorem Step.posts_left (h : Step b (.left member) c) (hnodup : b.members.Nodup) :
    Posts b.book (.closed member (b.stake member)) c.book := by
  cases h with
  | left hmembers hstake _ =>
      have hleft : member ∉ c.members :=
        (List.nodup_cons.mp (hmembers.nodup_iff.mp hnodup)).1
      have hmem : member ∈ b.members := hmembers.mem_iff.mpr List.mem_cons_self
      have hbook : c.book = update b.book member none := by
        funext other
        by_cases ho : other = member
        · subst ho
          simp [hleft]
        · simp [book, hmembers.mem_iff, ho, hstake other ho]
      rw [hbook]
      exact .closed (book_of_mem hmem)

end Stakes

end OverSync.Library
