import Mathlib.Data.ENat.Lattice
import SignOn.Directory.Client
import SignOn.Proofs.Call

/-!
# How often a search is sent

A search is repeated until an answer is final or the policy has no attempt left. Of the answers
that a directory would give without end, the call takes as many as come up to the first final
one, and no more than the budget of the policy (`Client.send_exact`). The number of an attempt
is counted in a machine word that stays at its greatest value, which no bound exceeds
(`allowsRetryAfter_iff`).
-/

set_option autoImplicit false

namespace SignOn

/-- Most attempts that a policy makes for one search; one of no attempts makes one. -/
def RetryPolicy.budget (policy : RetryPolicy) : ℕ∞ :=
  match policy.maxAttempts with
  | none => ⊤
  | some most => (max most.toNat 1 : ℕ)

theorem RetryPolicy.zero_lt_budget (policy : RetryPolicy) : ((0 : ℕ) : ℕ∞) < policy.budget := by
  rw [budget]
  cases policy.maxAttempts with
  | none => exact ENat.natCast_lt_top 0
  | some most => exact Nat.cast_lt.mpr (lt_max_of_lt_right Nat.zero_lt_one)

namespace Directory

/-! ## Answers without end -/

/-- Whether an answer ends the search. -/
def Answer.isFinal : Answer → Bool
  | .unavailable _ => false
  | .entries _ | .refused _ => true

theorem Answer.isFinal_eq_false_iff {answer : Answer} :
    answer.isFinal = false ↔ ∃ reason, answer = .unavailable reason := by
  cases answer with
  | entries entries => simp [isFinal]
  | unavailable reason => simp [isFinal]
  | refused reason => simp [isFinal]

open Classical in
/-- The number of the first final answer, counted from one, if there is one. -/
noncomputable def firstFinal (answers : ℕ → Answer) : ℕ∞ :=
  if h : ∃ i, (answers i).isFinal = true then (Nat.find h + 1 : ℕ) else ⊤

/-- The first final answer comes after all answers that are not. -/
theorem lt_firstFinal_iff {answers : ℕ → Answer} {n : ℕ} :
    (n : ℕ∞) < firstFinal answers ↔ ∀ i < n, (answers i).isFinal = false := by
  rw [firstFinal]
  split
  · next h =>
      rw [Nat.cast_lt, Nat.lt_succ_iff, Nat.le_find_iff]
      simp only [Bool.not_eq_true]
  · next h =>
      push Not at h
      simpa using fun i _ => h i

theorem zero_lt_firstFinal {answers : ℕ → Answer} : ((0 : ℕ) : ℕ∞) < firstFinal answers :=
  lt_firstFinal_iff.mpr fun _ hi => absurd hi (Nat.not_lt_zero _)

/-- Answers of a directory that has settled. -/
def Answer.ofSettled : Except String (List Entry) → Answer
  | .ok found => .entries found
  | .error reason => .refused reason

/-- The answer to a search with `i` searches before it. -/
def Script.answer (script : Script) (search : Search) (i : ℕ) : Answer :=
  script.opening[i]?.getD (.ofSettled (script.settled search))

/-- The directory is about to answer the search, repeated, with the first `n` of `answers`. -/
def Script.Follows (script : Script) (search : Search) (answers : ℕ → Answer) (n : ℕ) : Prop :=
  ∀ i < n, script.answer search i = answers i

/-- A directory that has settled ends every search. -/
theorem firstFinal_answer_ne_top (script : Script) (search : Search) :
    firstFinal (script.answer search) ≠ ⊤ := by
  intro htop
  have hlt : ((script.opening.length + 1 : ℕ) : ℕ∞) < firstFinal (script.answer search) := by
    rw [htop]
    exact ENat.natCast_lt_top _
  have hlast := lt_firstFinal_iff.mp hlt script.opening.length (Nat.lt_succ_self _)
  rw [Script.answer, List.getElem?_eq_none (Nat.le_refl _), Option.getD_none] at hlast
  cases hsettled : script.settled search with
  | ok entries =>
      rw [hsettled] at hlast
      cases hlast
  | error reason =>
      rw [hsettled] at hlast
      cases hlast

/-! ## Attempts and their numbers -/

/-- The number that is counted for an attempt with `i` attempts before it. -/
def attemptNumber : ℕ → UInt32
  | 0 => 1
  | i + 1 => nextAttempt (attemptNumber i)

/-- Attempts are counted from one up to the greatest number there is. -/
theorem toNat_attemptNumber (i : ℕ) : (attemptNumber i).toNat = min (i + 1) 4294967295 := by
  induction i with
  | zero => rfl
  | succ i ih =>
      rw [attemptNumber, nextAttempt]
      split
      · next hlast =>
          have hgreatest : (attemptNumber i).toNat = 4294967295 := congrArg UInt32.toNat hlast
          omega
      · next hless =>
          have hne : (attemptNumber i).toNat ≠ 4294967295 :=
            fun heq => hless (UInt32.toNat_inj.mp heq)
          rw [UInt32.toNat_add, ih, UInt32.toNat_one]
          omega

/-- An attempt may follow those of which there are fewer than the budget. -/
theorem allowsRetryAfter_iff (policy : RetryPolicy) (i : ℕ) :
    policy.allowsRetryAfter (attemptNumber i) = true ↔ ((i + 1 : ℕ) : ℕ∞) < policy.budget := by
  rw [RetryPolicy.allowsRetryAfter, RetryPolicy.budget]
  cases policy.maxAttempts with
  | none => simp
  | some most =>
      have hmost : most.toNat < 4294967296 := most.toNat_lt
      rw [Option.all_some, decide_eq_true_iff, UInt32.lt_iff_toNat_lt, toNat_attemptNumber,
        Nat.cast_lt]
      omega

section Sending

variable (policy : RetryPolicy) (search : Search) (script : Script)

/-- The steps of `n` attempts: searches, with a pause between any two. -/
def attempts (n : ℕ) : List Step :=
  (List.replicate n (.search search)).intersperse (.pause policy.delayMs)

/-- The steps of `n` attempts that fail and are followed by another. -/
def failures (n : ℕ) : List Step :=
  (List.replicate n [Step.search search, Step.pause policy.delayMs]).flatten

/-- Attempts that fail are attempts of which one more is made. -/
theorem failures_append_search (n : ℕ) :
    failures policy search n ++ [.search search] = attempts policy search (n + 1) := by
  induction n with
  | zero => rfl
  | succ n ih =>
      rw [failures, List.replicate_succ, List.flatten_cons, List.append_assoc, ← failures, ih]
      rfl

/-- What comes of an attempt is up to the answer and to the policy. -/
theorem attemptFrom_drop (attempt : UInt32) (i : ℕ) :
    attemptFrom policy search script.settled attempt (script.opening.drop i) =
      match script.answer search i with
      | .entries entries => .found search attempt entries (script.opening.drop (i + 1))
      | .refused reason => .refused search reason (script.opening.drop (i + 1))
      | .unavailable reason =>
        if policy.allowsRetryAfter attempt then
          .retried search policy attempt reason
            (attemptFrom policy search script.settled (nextAttempt attempt)
              (script.opening.drop (i + 1)))
        else .givenUp search attempt reason (script.opening.drop (i + 1)) := by
  rw [Script.answer]
  cases hanswer : script.opening[i]? with
  | none =>
      have hlength := List.getElem?_eq_none_iff.mp hanswer
      rw [List.drop_eq_nil_of_le hlength, List.drop_eq_nil_of_le (Nat.le_succ_of_le hlength),
        attemptFrom, Option.getD_none]
      cases script.settled search with
      | ok entries => rfl
      | error reason => rfl
  | some answer =>
      obtain ⟨hlength, rfl⟩ := List.getElem?_eq_some_iff.mp hanswer
      rw [List.drop_eq_getElem_cons hlength, Option.getD_some]
      cases script.opening[i] with
      | entries entries => rfl
      | unavailable reason => rfl
      | refused reason => rfl

/-- Every attempt starts with a search. -/
theorem steps_attemptFrom (i : ℕ) (attempt : UInt32) :
    ∃ rest, (attemptFrom policy search script.settled attempt (script.opening.drop i)).steps =
      [.search search] ++ rest := by
  rw [attemptFrom_drop]
  cases script.answer search i with
  | entries entries => exact ⟨[], rfl⟩
  | refused reason => exact ⟨[], rfl⟩
  | unavailable reason =>
      dsimp only
      split
      · exact ⟨_, rfl⟩
      · exact ⟨[], rfl⟩

/-- After attempts that failed within the budget the call stands where it would if the next
answer were the first one, save for the number of the attempt. -/
theorem send_of_outage {n : ℕ}
    (hdown : ∀ i < n, (script.answer search i).isFinal = false)
    (hbudget : ∀ i < n, ((i + 1 : ℕ) : ℕ∞) < policy.budget) :
    ∃ events, send policy search script =
      let rest := attemptFrom policy search script.settled (attemptNumber n)
        (script.opening.drop n)
      { rest with
        steps := failures policy search n ++ rest.steps
        events := events ++ rest.events } := by
  -- over the attempts, each of which is repeated after the one before it
  induction n with
  | zero => exact ⟨[], rfl⟩
  | succ n ih =>
      obtain ⟨events, hsend⟩ := ih (fun i hi => hdown i (Nat.lt_succ_of_lt hi))
        (fun i hi => hbudget i (Nat.lt_succ_of_lt hi))
      obtain ⟨reason, hanswer⟩ := Answer.isFinal_eq_false_iff.mp (hdown n (Nat.lt_succ_self n))
      have hallowed := (allowsRetryAfter_iff policy n).mpr (hbudget n (Nat.lt_succ_self n))
      rw [attemptFrom_drop, hanswer] at hsend
      dsimp only at hsend
      rw [if_pos hallowed] at hsend
      refine ⟨events ++ [.searchRetried (attemptNumber n).toNat reason policy.delayMs.toNat], ?_⟩
      rw [hsend]
      simp [Outcome.retried, failures, List.replicate_succ', attemptNumber]

end Sending

/-! ## Where the call ends -/

/-- No answer before the one that ends a call is final. -/
theorem isFinal_of_lt_last {answers : ℕ → Answer} {budget : ℕ∞} {last i : ℕ}
    (hlast : ((last + 1 : ℕ) : ℕ∞) = min (firstFinal answers) budget) (hi : i < last) :
    (answers i).isFinal = false := by
  have hbefore : (last : ℕ∞) < firstFinal answers :=
    lt_of_lt_of_le (Nat.cast_lt.mpr (Nat.lt_succ_self last)) (hlast ▸ min_le_left _ _)
  exact lt_firstFinal_iff.mp hbefore i hi

/-- The answer that ends a call is final, unless the budget was spent before one was. -/
theorem isFinal_last_iff {answers : ℕ → Answer} {budget : ℕ∞} {last : ℕ}
    (hlast : ((last + 1 : ℕ) : ℕ∞) = min (firstFinal answers) budget) :
    (answers last).isFinal = true ↔ firstFinal answers ≤ budget := by
  constructor
  · intro hfinal
    by_contra hspent
    -- the budget is spent here, so the first final answer is yet to come
    have hbudget : ((last + 1 : ℕ) : ℕ∞) = budget := by
      rw [hlast, min_eq_right (le_of_not_ge hspent)]
    have hnot := lt_firstFinal_iff.mp (hbudget ▸ lt_of_not_ge hspent) last (Nat.lt_succ_self last)
    rw [hfinal] at hnot
    cases hnot
  · intro hle
    by_contra hnot
    -- otherwise the first final answer would come after the last one
    have hafter : ((last + 1 : ℕ) : ℕ∞) < firstFinal answers := by
      apply lt_firstFinal_iff.mpr
      intro i hi
      rcases Nat.lt_succ_iff_lt_or_eq.mp hi with hless | rfl
      · exact isFinal_of_lt_last hlast hless
      · exact Bool.eq_false_iff.mpr hnot
    rw [min_eq_left hle] at hlast
    exact absurd hlast (ne_of_lt hafter)

/-- What a call answers when it ends with `answer`. -/
def Answer.told : Answer → Except Fault (List Entry)
  | .entries found => .ok found
  | .refused reason => .error (.directoryRefused reason)
  | .unavailable reason => .error (.directoryUnavailable reason)

/-- A final answer is told as what it is, entries or a refusal. -/
theorem Answer.told_of_isFinal {answer : Answer} (h : answer.isFinal = true) :
    (∃ found, answer = .entries found ∧ answer.told = .ok found) ∨
      ∃ reason, answer = .refused reason ∧ answer.told = .error (.directoryRefused reason) := by
  cases answer with
  | entries found => exact .inl ⟨found, rfl, rfl⟩
  | refused reason => exact .inr ⟨reason, rfl, rfl⟩
  | unavailable reason => cases h

/-- Where the first final answer or the last attempt is, there the call ends with the answer. -/
theorem send_of_eq_min {policy : RetryPolicy} {search : Search} {answers : ℕ → Answer} {last : ℕ}
    (hlast : ((last + 1 : ℕ) : ℕ∞) = min (firstFinal answers) policy.budget) {script : Script}
    (hfollows : script.Follows search answers (last + 1)) :
    ∃ events, send policy search script =
      { answer := (answers last).told
        steps := attempts policy search (last + 1)
        events := events
        left := script.opening.drop (last + 1) } := by
  have hdown : ∀ i < last, (script.answer search i).isFinal = false := by
    intro i hi
    rw [hfollows i (Nat.lt_succ_of_lt hi)]
    exact isFinal_of_lt_last hlast hi
  have hbudget : ∀ i < last, ((i + 1 : ℕ) : ℕ∞) < policy.budget := by
    intro i hi
    have hless : ((i + 1 : ℕ) : ℕ∞) < ((last + 1 : ℕ) : ℕ∞) := Nat.cast_lt.mpr (by omega)
    exact lt_of_lt_of_le hless (hlast ▸ min_le_right _ _)
  obtain ⟨events, hsend⟩ := send_of_outage policy search script hdown hbudget
  rw [attemptFrom_drop, hfollows last (Nat.lt_succ_self last)] at hsend
  rw [hsend, ← failures_append_search]
  cases hanswer : answers last with
  | entries entries => exact ⟨_, rfl⟩
  | refused reason => exact ⟨_, rfl⟩
  | unavailable reason =>
      -- an answer that is not final is the last one only because the budget is spent
      have hless : policy.budget < firstFinal answers := by
        by_contra hle
        have hfinal := (isFinal_last_iff hlast).mpr (le_of_not_gt hle)
        rw [hanswer] at hfinal
        cases hfinal
      have hspent : ¬ policy.allowsRetryAfter (attemptNumber last) = true := by
        rw [allowsRetryAfter_iff, hlast, min_eq_right hless.le]
        exact lt_irrefl _
      dsimp only
      rw [if_neg hspent]
      exact ⟨_, rfl⟩

/-- While neither a final answer nor the end of the budget is reached, the call goes on. -/
theorem steps_of_lt_min {policy : RetryPolicy} {search : Search} {answers : ℕ → Answer} {n : ℕ}
    (hlt : (n : ℕ∞) < min (firstFinal answers) policy.budget) {script : Script}
    (hfollows : script.Follows search answers n) :
    ∃ rest, (send policy search script).steps = attempts policy search (n + 1) ++ rest := by
  obtain ⟨hfinal, hbudget⟩ := lt_min_iff.mp hlt
  obtain ⟨events, hsend⟩ := send_of_outage policy search script (n := n)
    (fun i hi => by
      rw [hfollows i hi]
      exact lt_firstFinal_iff.mp hfinal i hi)
    (fun i hi => lt_of_le_of_lt (Nat.cast_le.mpr hi) hbudget)
  obtain ⟨rest, hrest⟩ := steps_attemptFrom policy search script n (attemptNumber n)
  refine ⟨rest, ?_⟩
  rw [hsend, ← failures_append_search, List.append_assoc]
  exact congrArg _ hrest

/-- A policy without a bound gives up no search. -/
theorem answer_ne_unavailable {policy : RetryPolicy} (hunbounded : policy.maxAttempts = none)
    (search : Search) (script : Script) (reason : String) :
    (send policy search script).answer ≠ .error (.directoryUnavailable reason) := by
  have hbudget : policy.budget = ⊤ := by
    rw [RetryPolicy.budget, hunbounded]
  have hle : firstFinal (script.answer search) ≤ policy.budget := hbudget ▸ le_top
  obtain ⟨n, hn⟩ := ENat.ne_top_iff_exists.mp (firstFinal_answer_ne_top script search)
  cases n with
  | zero => exact absurd hn (ne_of_lt zero_lt_firstFinal)
  | succ last =>
      have hlast := hn.trans (min_eq_left hle).symm
      obtain ⟨events, hsend⟩ := send_of_eq_min hlast fun i _ => rfl
      have hfinal := (isFinal_last_iff hlast).mpr hle
      rw [hsend]
      rcases Answer.told_of_isFinal hfinal with ⟨found, -, htold⟩ | ⟨refusal, -, htold⟩
      · rw [htold]
        rintro ⟨⟩
      · rw [htold]
        rintro ⟨⟩

/-! ## Calls of the client -/

variable {σ : Type}

/-- Up to the first final answer or the end of the budget, whichever comes first, the call sends
one and the same search with a pause between any two. There it ends: with the final answer, or
with the reason of the last attempt. Before, it goes on, and without a bound it never gives up. -/
theorem Client.send_exact (client : Client) (attributes : List String) (filter : String)
    (answers : ℕ → Answer) (context : Context σ) :
    let search : Search := ⟨client.base, filter, attributes⟩
    (∀ n : ℕ, (n : ℕ∞) = min (firstFinal answers) client.policy.budget →
      context.directory.Follows search answers n →
      ∃ outcome events, client.send attributes filter context = (outcome,
          (context.asking (attempts client.policy search n)
            (context.directory.opening.drop n)).logging events) ∧
        (firstFinal answers ≤ client.policy.budget →
          (∃ found, answers (n - 1) = .entries found ∧ outcome = .ok found) ∨
            ∃ reason, answers (n - 1) = .refused reason ∧
              outcome = .error (.directoryRefused reason)) ∧
        (client.policy.budget < firstFinal answers →
          ∃ reason, answers (n - 1) = .unavailable reason ∧
            outcome = .error (.directoryUnavailable reason)) ∧
        ∀ i < n, ∀ reason, answers i = .refused reason → i + 1 = n) ∧
      (∀ n : ℕ, (n : ℕ∞) < min (firstFinal answers) client.policy.budget →
        context.directory.Follows search answers n →
        ∃ rest, (client.send attributes filter context).2.trace.steps =
          context.trace.steps ++ (attempts client.policy search (n + 1) ++ rest)) ∧
      (client.policy.maxAttempts = none → ∀ reason,
        (client.send attributes filter context).1 ≠ .error (.directoryUnavailable reason)) := by
  intro search
  refine ⟨?_, ?_, ?_⟩
  · intro n hn hfollows
    -- there is a last attempt, since one is always made
    obtain ⟨last, rfl⟩ : ∃ last, n = last + 1 := by
      apply Nat.exists_eq_succ_of_ne_zero
      rintro rfl
      exact absurd hn (ne_of_lt (lt_min zero_lt_firstFinal client.policy.zero_lt_budget))
    obtain ⟨events, hsend⟩ := send_of_eq_min hn hfollows
    refine ⟨(answers last).told, events, ?_, ?_, ?_, ?_⟩
    · rw [Client.send, Client.search, Call.onDirectory, hsend]
      rfl
    · intro hle
      exact Answer.told_of_isFinal ((isFinal_last_iff hn).mpr hle)
    · intro hless
      have hnot := mt (isFinal_last_iff hn).mp (not_le_of_gt hless)
      obtain ⟨reason, hanswer⟩ := Answer.isFinal_eq_false_iff.mp (Bool.eq_false_iff.mpr hnot)
      rw [Nat.add_sub_cancel, hanswer]
      exact ⟨reason, rfl, rfl⟩
    · intro i hi reason hanswer
      by_contra hne
      have hnot := isFinal_of_lt_last hn (i := i) (by omega)
      rw [hanswer] at hnot
      cases hnot
  · intro n hlt hfollows
    obtain ⟨rest, hsteps⟩ := steps_of_lt_min hlt hfollows
    exact ⟨rest, congrArg (context.trace.steps ++ ·) hsteps⟩
  · intro hunbounded
    exact answer_ne_unavailable hunbounded search context.directory

/-! ### An outage without end -/

/-- A directory that is down for as long as it is asked. -/
def outage (_ : ℕ) : Answer := .unavailable "down"

/-- A client that makes at most `most` attempts. -/
def patientClient (most : UInt32) : Client := ⟨"ou=users,dc=example,dc=com", ⟨some most, 500⟩⟩

/-- What the client works on when the next three attempts will fail. -/
def outageContext : Context Unit :=
  ⟨(), .empty, ⟨[outage 0, outage 1, outage 2], fun _ => .ok []⟩, none, .empty⟩

/-- The outage is given up after two attempts, and after one where none is allowed. -/
theorem send_outage :
    let search : Search := ⟨"ou=users,dc=example,dc=com", "(&(uid=bob))", ["cn"]⟩
    (∃ events, (patientClient 2).send ["cn"] "(&(uid=bob))" outageContext =
      (.error (.directoryUnavailable "down"),
        (outageContext.asking [.search search, .pause 500, .search search]
          [outage 2]).logging events)) ∧
      ∃ events, (patientClient 0).send ["cn"] "(&(uid=bob))" outageContext =
        (.error (.directoryUnavailable "down"),
          (outageContext.asking [.search search] [outage 1, outage 2]).logging events) := by
  intro search
  have hendless (n : ℕ) : (n : ℕ∞) < firstFinal outage := lt_firstFinal_iff.mpr fun _ _ => rfl
  have hfollows : outageContext.directory.Follows search outage 3 := by
    intro i hi
    match i, hi with
    | 0, _ => rfl
    | 1, _ => rfl
    | 2, _ => rfl
  have hgivenUp (most : UInt32) (n : ℕ) (hbudget : (patientClient most).policy.budget = (n : ℕ∞))
      (hn : n ≤ 3) : ∃ events, (patientClient most).send ["cn"] "(&(uid=bob))" outageContext =
      (.error (.directoryUnavailable "down"),
        (outageContext.asking (attempts (patientClient most).policy search n)
          (outageContext.directory.opening.drop n)).logging events) := by
    have hless : (patientClient most).policy.budget < firstFinal outage := hbudget ▸ hendless n
    obtain ⟨outcome, events, hsend, -, hspent, -⟩ :=
      (Client.send_exact (patientClient most) ["cn"] "(&(uid=bob))" outage outageContext).1 n
        (by rw [min_eq_right hless.le, hbudget]) fun i hi => hfollows i (by omega)
    obtain ⟨reason, hreason, rfl⟩ := hspent hless
    cases hreason
    exact ⟨events, hsend⟩
  exact ⟨hgivenUp 2 2 rfl (by omega), hgivenUp 0 1 rfl (by omega)⟩

end Directory

end SignOn
