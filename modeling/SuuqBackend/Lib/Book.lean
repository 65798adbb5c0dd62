import Mathlib.Algebra.BigOperators.Group.List.Basic
import Mathlib.Algebra.Ring.Int.Defs

/-!
# Balances and their journal

A `Book` keeps a balance for each account and the journal of what was posted.  `post k d` moves the
balance of `k` by `d` and appends the posting.  `Posts b b'` says that `b'` comes from `b` by any
number of postings none of which overdraws its account.

* `Posts.settled`: when every balance is the sum of its postings and none is negative, the same
  holds after any number of postings that do not overdraw.
-/

namespace SuuqBackend

/-- Balances with the journal of their changes. -/
@[ext] structure Book (κ : Type) where
  balance : κ → ℤ
  journal : List (κ × ℤ)

namespace Book

variable {κ : Type} [DecidableEq κ]

/-- The sum of the postings to an account. -/
def posted (journal : List (κ × ℤ)) (k : κ) : ℤ := ((journal.filter fun e => e.1 = k).map (·.2)).sum

@[simp] theorem posted_nil (k : κ) : posted [] k = 0 := rfl

theorem posted_append (j j' : List (κ × ℤ)) (k : κ) : posted (j ++ j') k = posted j k + posted j' k := by
  rw [posted, posted, posted, List.filter_append, List.map_append, List.sum_append]

theorem posted_singleton (e : κ × ℤ) (k : κ) : posted [e] k = if e.1 = k then e.2 else 0 := by
  unfold posted
  by_cases h : e.1 = k
  · simp [h]
  · simp [h]

/-- Post `d` to the account `k`. -/
def post (b : Book κ) (k : κ) (d : ℤ) : Book κ where
  balance := Function.update b.balance k (b.balance k + d)
  journal := b.journal ++ [(k, d)]

@[simp] theorem balance_post_self (b : Book κ) (k : κ) (d : ℤ) : (b.post k d).balance k = b.balance k + d :=
  Function.update_self ..

variable {k : κ} {d : ℤ} {b : Book κ}

theorem balance_post_of_ne (b : Book κ) {k' : κ} (d : ℤ) (h : k' ≠ k) : (b.post k d).balance k' = b.balance k' :=
  Function.update_of_ne h ..

theorem posted_post (b : Book κ) (k k' : κ) (d : ℤ) :
    posted (b.post k d).journal k' = posted b.journal k' + if k = k' then d else 0 := by
  rw [post, posted_append, posted_singleton]

/-- A posting does not overdraw the account: it adds to it, or the balance covers it. -/
def Covers (b : Book κ) (k : κ) (d : ℤ) : Prop := 0 ≤ d ∨ 0 ≤ b.balance k + d

/-- Any number of postings, none of which overdraws its account. -/
inductive Posts (b : Book κ) : Book κ → Prop where
  | none : Posts b b
  | post {b' : Book κ} (k : κ) (d : ℤ) : Posts b b' → b'.Covers k d → Posts b (b'.post k d)

/-- Every balance is the sum of its postings and none is negative. -/
def Settled (b : Book κ) : Prop := ∀ k, 0 ≤ b.balance k ∧ b.balance k = posted b.journal k

theorem Settled.post (h : b.Settled) (hd : b.Covers k d) : (b.post k d).Settled := by
  intro k'
  obtain ⟨hnonneg, hsum⟩ := h k'
  rw [posted_post]
  by_cases hk : k' = k
  · subst hk
    rw [balance_post_self, if_pos rfl, ← hsum]
    refine ⟨?_, rfl⟩
    rcases hd with hd | hd
    · exact Int.add_nonneg hnonneg hd
    · exact hd
  · rw [balance_post_of_ne b d hk, if_neg fun h => hk h.symm, add_zero]
    exact ⟨hnonneg, hsum⟩

/-- **Postings that do not overdraw keep a book settled.** -/
theorem Posts.settled {b' : Book κ} (h : Posts b b') (hb : b.Settled) : b'.Settled := by
  induction h with
  | none => exact hb
  | post k d _ hd ih => exact ih.post hd

theorem Posts.single (hd : 0 ≤ b.balance k + d) : Posts b (b.post k d) :=
  .post k d .none (Or.inr hd)

/-- A transfer between two accounts: a debit that the first one covers, and the credit. -/
theorem Posts.transfer {k' : κ} (hd : d ≤ b.balance k) (hcredit : 0 ≤ d) : Posts b ((b.post k (-d)).post k' d) :=
  .post k' d (.single (by omega)) (Or.inl hcredit)

end Book

end SuuqBackend
