import Mathlib.Data.List.Nodup
import SignOn.Proofs.Call
import SignOn.Proofs.Text
import SignOn.Provider.Verify

/-!
# When an assertion is accepted

An assertion may be taken to the provider when it names the provider as its
issuer and the service as its addressee (`MayBeTaken`); then one form is posted,
and the claims count when the answer confirms them (`Confirmed`). `verify_exact`
says that nothing else decides, and which form is posted.
-/

set_option autoImplicit false

namespace SignOn.Provider

open SignOn.Text

/-! ## Conditions -/

/-- The assertion names an endpoint of the provider: one with the same scheme, host
and port, and the same path up to slashes at its end. -/
def IssuedBy (provider : Provider) (params : Assertion.Params) : Prop :=
  ∃ text endpoint, params.get? "openid.op_endpoint" = some text ∧ Url.parse text = .ok endpoint ∧
    endpoint.scheme = provider.url.scheme ∧ endpoint.hostText? = provider.url.hostText? ∧
    endpoint.effectivePort? = provider.url.effectivePort? ∧
    ∃ stem m n, endpoint.path.text.toList = stem ++ List.replicate m '/' ∧
      provider.url.path.text.toList = stem ++ List.replicate n '/'

/-- The assertion names a return URL that begins with `base`. -/
def AddressedTo (base : String) (params : Assertion.Params) : Prop :=
  ∃ text, params.get? "openid.return_to" = some text ∧ base.toList <+: text.toList

/-- The assertion is read and may be taken to the provider. -/
def MayBeTaken (provider : Provider) (base : String) (params : Assertion.Params) : Prop :=
  (∃ claims, Assertion.parse params = .ok claims) ∧ provider.IssuedBy params ∧
    AddressedTo base params

/-- A line gives a key a value: they stand on the two sides of its first colon, with
blanks around. -/
def Gives (line key value : String) : Prop :=
  ∃ before after : String, line.toList = before.toList ++ ':' :: after.toList ∧
    ':' ∉ before.toList ∧ trim before = key ∧ trim after = value

/-- An answer that reports no failure and whose last line about the validity says
that the assertion is valid. -/
def Confirmed (reply : Option Reply) : Prop :=
  ∃ answer, reply = some answer ∧ ¬ (400 ≤ answer.status ∧ answer.status < 600) ∧
    ∃ before line after, pieces '\n' answer.body = before ++ line :: after ∧
      Gives line "is_valid" "true" ∧ ∀ later ∈ after, ∀ value, ¬ Gives later "is_valid" value

/-- How often a pair stands in the form that asks for confirmation: a parameter of
the protocol once, with its value, and the mode of the question once. -/
def asked (params : Assertion.Params) (pair : String × String) : Nat :=
  if pair.1 = "openid.mode" then (if pair.2 = "check_authentication" then 1 else 0)
  else if params.get? pair.1 = some pair.2 ∧ "openid.".toList <+: pair.1.toList then 1 else 0

/-! ## What is taken to the provider -/

section Accepting

variable {provider : Provider} {base : String} {params : Assertion.Params} {claims : Claims}

theorem sameEndpoint_iff {a b : Url} : a.sameEndpoint b = true ↔
    a.scheme = b.scheme ∧ a.hostText? = b.hostText? ∧ a.effectivePort? = b.effectivePort? ∧
      ∃ stem m n, a.path.text.toList = stem ++ List.replicate m '/' ∧
        b.path.text.toList = stem ++ List.replicate n '/' := by
  simp only [Url.sameEndpoint, Bool.and_eq_true, decide_eq_true_eq, dropEnd_eq_iff, and_assoc]

theorem endpoint?_eq_some_iff {endpoint : Url} : endpoint? params = some endpoint ↔
    ∃ text, params.get? "openid.op_endpoint" = some text ∧ Url.parse text = .ok endpoint := by
  rw [endpoint?, Option.bind_eq_some_iff]
  refine exists_congr fun text => and_congr_right fun _ => ?_
  cases Url.parse text <;> simp [Except.toOption]

theorem checkIssuer_eq_ok_iff :
    checkIssuer provider params = .ok () ↔ provider.IssuedBy params := by
  constructor
  · intro h
    rw [checkIssuer] at h
    split at h
    · cases h
    · next endpoint hendpoint =>
        split at h
        · next hsame =>
            obtain ⟨text, hget, hparse⟩ := endpoint?_eq_some_iff.mp hendpoint
            exact ⟨text, endpoint, hget, hparse, sameEndpoint_iff.mp hsame⟩
        · cases h
  · rintro ⟨text, endpoint, hget, hparse, hsame⟩
    rw [checkIssuer, endpoint?_eq_some_iff.mpr ⟨text, hget, hparse⟩]
    exact if_pos (sameEndpoint_iff.mpr hsame)

theorem checkAddress_eq_ok_iff : checkAddress base params = .ok () ↔ AddressedTo base params := by
  have hiff : isAddressedTo base params = true ↔ AddressedTo base params := by
    rw [isAddressedTo, Option.any_eq_true]
    refine exists_congr fun text => and_congr_right fun _ => ?_
    exact startsWith_iff
  rw [← hiff, checkAddress]
  split
  · next h => simp [h]
  · next h => simp [h]

/-- The claims that may be taken to the provider. -/
theorem accept_eq_ok_iff : provider.accept base params = .ok claims ↔
    Assertion.parse params = .ok claims ∧ provider.IssuedBy params ∧ AddressedTo base params := by
  rw [← checkIssuer_eq_ok_iff, ← checkAddress_eq_ok_iff, accept]
  cases Assertion.parse params with
  | error fault => simp [bind, Except.bind]
  | ok read =>
      cases checkIssuer provider params with
      | error fault => simp [bind, Except.bind]
      | ok _ =>
          cases checkAddress base params with
          | error fault => simp [bind, Except.bind]
          | ok _ => simp [bind, Except.bind, pure, Except.pure]

end Accepting

/-! ## What confirms it -/

theorem keyValue?_eq_some_iff {line key value : String} :
    keyValue? line = some (key, value) ↔ Gives line key value := by
  rw [keyValue?, Option.map_eq_some_iff]
  constructor
  · rintro ⟨⟨before, after⟩, hcut, h⟩
    cases h
    obtain ⟨hline, hout⟩ := cut?_eq_some_iff.mp hcut
    exact ⟨before, after, hline, hout, rfl, rfl⟩
  · rintro ⟨before, after, hline, hout, rfl, rfl⟩
    exact ⟨(before, after), cut?_eq_some_iff.mpr ⟨hline, hout⟩, rfl⟩

/-- The last value of a key is the one that its last line gives it. -/
theorem lastValue?_eq_some_iff {body key value : String} :
    lastValue? body key = some value ↔
      ∃ before line after, pieces '\n' body = before ++ line :: after ∧ Gives line key value ∧
        ∀ later ∈ after, ∀ other, ¬ Gives later key other := by
  have hkey (line : String) (pair : String × String) :
      (keyValue? line).filter (·.1 = key) = some pair ↔ pair.1 = key ∧ Gives line key pair.2 := by
    rw [Option.filter_eq_some_iff, decide_eq_true_eq, and_comm]
    refine and_congr_right fun h => ?_
    rw [← h]
    exact keyValue?_eq_some_iff
  have hnone (line : String) :
      (keyValue? line).filter (·.1 = key) = none ↔ ∀ other, ¬ Gives line key other := by
    rw [Option.eq_none_iff_forall_ne_some]
    constructor
    · intro h other hgives
      exact h (key, other) ((hkey line (key, other)).mpr ⟨rfl, hgives⟩)
    · intro h pair hpair
      exact h pair.2 ((hkey line pair).mp hpair).2
  rw [lastValue?, keyValues, List.filter_filterMap, List.getLast?_filterMap, Option.map_eq_some_iff]
  constructor
  · rintro ⟨pair, hfound, rfl⟩
    -- the search from the end passes over the lines after the one that is found
    obtain ⟨after, line, before, hlines, hline, hafter⟩ := List.findSome?_eq_some_iff.mp hfound
    refine ⟨before.reverse, line, after.reverse, ?_, ((hkey line pair).mp hline).2, ?_⟩
    · simpa using congrArg List.reverse hlines
    · intro later hlater
      exact (hnone later).mp (hafter later (List.mem_reverse.mp hlater))
  · rintro ⟨before, line, after, hlines, hline, hafter⟩
    refine ⟨(key, value), List.findSome?_eq_some_iff.mpr ?_, rfl⟩
    refine ⟨after.reverse, line, before.reverse, by simp [hlines], ?_, ?_⟩
    · exact (hkey line (key, value)).mpr ⟨rfl, hline⟩
    · intro later hlater
      exact (hnone later).mpr (hafter later (List.mem_reverse.mp hlater))

example : lastValue? "is_valid:true\nis_valid : false\r\n" "is_valid" = some "false" := by
  decide +kernel

/-- The claims that an answer lets stand. -/
theorem judge_eq_ok_iff {claims judged : Claims} {reply : Option Reply} :
    judge claims reply = .ok judged ↔ claims = judged ∧ Confirmed reply := by
  cases reply with
  | none => simp [judge, Confirmed]
  | some answer =>
      -- the verdict as two tests, each with the condition it stands for
      have haccepted : answer.isAccepted = true ↔
          ¬ (400 ≤ answer.status ∧ answer.status < 600) := by
        simp only [Reply.isAccepted, Bool.or_eq_true, decide_eq_true_eq]
        omega
      have hconfirms : confirms answer = true ↔ ∃ before line after,
          pieces '\n' answer.body = before ++ line :: after ∧ Gives line "is_valid" "true" ∧
            ∀ later ∈ after, ∀ value, ¬ Gives later "is_valid" value := by
        rw [confirms, decide_eq_true_eq, lastValue?_eq_some_iff]
      have hconfirmed : Confirmed (some answer) ↔
          answer.isAccepted = true ∧ confirms answer = true := by
        rw [haccepted, hconfirms]
        simp [Confirmed]
      rw [hconfirmed, judge]
      cases answer.isAccepted <;> cases confirms answer <;> simp

/-! ## The form -/

/-- Every pair stands in the form as often as it is asked. -/
theorem count_confirmationForm (params : Assertion.Params) (pair : String × String) :
    (confirmationForm params).count pair = asked params pair := by
  -- no name stands twice among the parameters, so no pair stands twice in the form
  have hnodup : (params.entries.filter isReturned).Nodup :=
    (List.Nodup.of_map Prod.fst params.distinct).filter _
  have hmem : pair ∈ params.entries.filter isReturned ↔
      params.get? pair.1 = some pair.2 ∧ "openid.".toList <+: pair.1.toList ∧
        pair.1 ≠ "openid.mode" := by
    rw [List.mem_filter, ← Table.get?_eq_some_iff, isReturned, Bool.and_eq_true, startsWith_iff,
      decide_eq_true_eq]
  have hquestion : [("openid.mode", "check_authentication")].count pair =
      if pair.1 = "openid.mode" ∧ pair.2 = "check_authentication" then 1 else 0 := by
    rw [List.count_singleton]
    refine if_congr ?_ rfl rfl
    rw [beq_iff_eq, Prod.ext_iff, eq_comm, @eq_comm _ _ pair.2]
  rw [confirmationForm, List.count_append, hnodup.count, hquestion, asked]
  by_cases hmode : pair.1 = "openid.mode"
  · have hout : pair ∉ params.entries.filter isReturned := fun h => (hmem.mp h).2.2 hmode
    rw [if_neg hout, if_pos hmode, Nat.zero_add]
    exact if_congr (and_iff_right hmode) rfl rfl
  · have hother : ¬ (pair.1 = "openid.mode" ∧ pair.2 = "check_authentication") :=
      fun h => hmode h.1
    rw [if_neg hother, if_neg hmode, Nat.add_zero]
    refine if_congr (hmem.trans ?_) rfl rfl
    exact and_congr_right fun _ => and_iff_left hmode

/-! ## Verification -/

section Verifying

variable {σ : Type} {provider : Provider} {base : String} {params : Assertion.Params}

/-- An assertion that may not be taken to the provider is refused without a post. -/
theorem verify_of_error {fault : Fault} (h : provider.accept base params = .error fault)
    (context : Context σ) : ∃ events,
      provider.verify base params context = (.error fault, context.logging events) := by
  refine ⟨provider.acceptEvents params, ?_⟩
  simp [verify, Call.bind_apply, h]

/-- An assertion that may be taken to the provider is judged by the answer to one
post. -/
theorem verify_of_ok {claims : Claims} (h : provider.accept base params = .ok claims)
    (context : Context σ) : ∃ events, provider.verify base params context =
      (judge claims context.reply,
        (context.posting (provider.confirmation params)).logging events) := by
  refine ⟨provider.acceptEvents params ++ judgeEvents claims context.reply, ?_⟩
  simp [verify, Call.bind_apply, h, Context.posting, Context.logging]

/-- The claims that are accepted. -/
theorem verify_eq_ok_iff {claims : Claims} {context : Context σ} :
    (provider.verify base params context).1 = .ok claims ↔
      Assertion.parse params = .ok claims ∧ provider.IssuedBy params ∧ AddressedTo base params ∧
        Confirmed context.reply := by
  cases haccept : provider.accept base params with
  | error fault =>
      obtain ⟨events, hverify⟩ := verify_of_error haccept context
      rw [hverify]
      constructor
      · intro h
        cases h
      · rintro ⟨hparse, hissued, haddressed, -⟩
        rw [accept_eq_ok_iff.mpr ⟨hparse, hissued, haddressed⟩] at haccept
        cases haccept
  | ok read =>
      obtain ⟨hparse, hissued, haddressed⟩ := accept_eq_ok_iff.mp haccept
      obtain ⟨events, hverify⟩ := verify_of_ok haccept context
      rw [hverify, judge_eq_ok_iff, hparse, Except.ok.injEq]
      constructor
      · rintro ⟨he, hconfirmed⟩
        exact ⟨he, hissued, haddressed, hconfirmed⟩
      · rintro ⟨he, -, -, hconfirmed⟩
        exact ⟨he, hconfirmed⟩

/-- What is posted. -/
theorem posts_verify (context : Context σ) :
    (provider.MayBeTaken base params ∧
        (provider.verify base params context).2.trace.posts =
          context.trace.posts ++ [provider.confirmation params]) ∨
      (¬ provider.MayBeTaken base params ∧
        (provider.verify base params context).2.trace.posts = context.trace.posts) := by
  cases haccept : provider.accept base params with
  | error fault =>
      obtain ⟨events, hverify⟩ := verify_of_error haccept context
      refine Or.inr ⟨?_, by rw [hverify]; rfl⟩
      rintro ⟨⟨claims, hparse⟩, hissued, haddressed⟩
      rw [accept_eq_ok_iff.mpr ⟨hparse, hissued, haddressed⟩] at haccept
      cases haccept
  | ok claims =>
      obtain ⟨hparse, hissued, haddressed⟩ := accept_eq_ok_iff.mp haccept
      obtain ⟨events, hverify⟩ := verify_of_ok haccept context
      exact Or.inl ⟨⟨⟨claims, hparse⟩, hissued, haddressed⟩, by rw [hverify]; rfl⟩

end Verifying

/-- The claims of an assertion are accepted exactly when the assertion is read, names
the provider and the service, and is confirmed by the answer of the provider. A post
is made exactly when the first three hold: one, to the provider, with every parameter
of the protocol as it came and the mode changed. -/
theorem verify_exact {σ : Type} (provider : Provider) (base : String)
    (params : Assertion.Params) (context : Context σ) :
    (∀ claims, (provider.verify base params context).1 = .ok claims ↔
      Assertion.parse params = .ok claims ∧ provider.IssuedBy params ∧ AddressedTo base params ∧
        Confirmed context.reply) ∧
    ((provider.MayBeTaken base params ∧
        ∃ form : List (String × String),
          (provider.verify base params context).2.trace.posts =
            context.trace.posts ++ [⟨provider.url.text, form⟩] ∧
          ∀ pair, form.count pair = asked params pair) ∨
      (¬ provider.MayBeTaken base params ∧
        (provider.verify base params context).2.trace.posts = context.trace.posts)) := by
  refine ⟨fun claims => verify_eq_ok_iff, ?_⟩
  rcases posts_verify context with ⟨htaken, hposts⟩ | hnot
  · exact Or.inl ⟨htaken, confirmationForm params, hposts, count_confirmationForm params⟩
  · exact Or.inr hnot

end SignOn.Provider
