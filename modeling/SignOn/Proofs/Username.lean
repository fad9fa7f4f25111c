import Mathlib.Data.List.TakeWhile
import SignOn.Username

/-!
# What usernames are made of

A text with a character that may not stand in a username is none
(`Username.isValid_eq_false`), and every name that a principal is read as is one
(`Username.isValid_of_ofPrincipal?`).

A principal is read as its user part (`Username.UserPart`) with an underscore for every
slash, provided that nothing but slashes keeps the user part from being a username
(`Username.ofPrincipal?_eq_some_iff`). So the reading leaves usernames as they are, answers
with nothing else, and does not see the realm (`Username.ofPrincipal?_retracts`).
-/

set_option autoImplicit false

namespace SignOn.Username

/-! ## Characters of usernames -/

theorem isValid_iff {name : String} :
    isValid name = true ↔ name ≠ "" ∧ ∀ c ∈ name.toList, isChar c = true := by
  rw [isValid, Bool.and_eq_true, decide_eq_true_eq, List.all_eq_true, Ne, String.toList_eq_nil_iff]

/-- A username is not empty. -/
theorem ne_empty_of_isValid {name : String} (h : isValid name = true) : name ≠ "" :=
  (isValid_iff.mp h).1

/-- Every character of a username may stand in one. -/
theorem isChar_of_mem {name : String} (h : isValid name = true) {c : Char}
    (hc : c ∈ name.toList) : isChar c = true :=
  (isValid_iff.mp h).2 c hc

/-- A text is no username when one of its characters may not stand in one. -/
theorem isValid_eq_false {name : String} {c : Char} (hc : c ∈ name.toList)
    (h : isChar c = false) : isValid name = false := by
  cases hvalid : isValid name with
  | false => rfl
  | true =>
      rw [isChar_of_mem hvalid hc] at h
      cases h

/-- A character that may not stand in a username stands in none. -/
theorem not_mem_of_isValid {name : String} (h : isValid name = true) {c : Char}
    (hc : isChar c = false) : c ∉ name.toList := by
  intro hmem
  rw [isValid_eq_false hmem hc] at h
  cases h

/-- The name that a principal is read as is a username. -/
theorem isValid_of_ofPrincipal? {principal name : String}
    (h : ofPrincipal? principal = some name) : isValid name = true := by
  rw [ofPrincipal?] at h
  split at h
  · next hvalid =>
      obtain rfl := Option.some.inj h
      exact hvalid
  · cases h

/-! ## Principals -/

/-- What stands in a name for a character of a principal. -/
def underscored (c : Char) : Char :=
  if c = '/' then '_' else c

/-- An underscore may stand in a username, a slash may not. -/
theorem isChar_underscored (c : Char) :
    isChar (underscored c) = true ↔ isChar c = true ∨ c = '/' := by
  rw [underscored]
  split
  · next hslash => exact iff_of_true (by decide) (Or.inr hslash)
  · next hslash => exact (or_iff_left hslash).symm

/-- The part of a principal before its first `@`, which is all of a principal without a
realm. -/
inductive UserPart : String → String → Prop
  | plain {user : String} (h : '@' ∉ user.toList) : UserPart user user
  | ofRealm {user : String} (realm : String) (h : '@' ∉ user.toList) :
      UserPart (user ++ "@" ++ realm) user

theorem userPart_iff {principal user : String} :
    UserPart principal user ↔ withoutRealm principal.toList = user.toList := by
  have hkept {cs : List Char} (h : '@' ∉ cs) : ∀ c ∈ cs, decide (c ≠ '@') = true := by
    intro c hc
    exact decide_eq_true fun he => h (he ▸ hc)
  constructor
  · intro h
    cases h with
    | plain hout => exact List.takeWhile_eq_self_iff.mpr (hkept hout)
    | ofRealm realm hout =>
        rw [withoutRealm, String.toList_append, String.toList_append, List.append_assoc,
          List.takeWhile_append_of_pos (hkept hout)]
        simp
  -- what is not taken is empty or begins with the sign before the realm
  · intro h
    have hout : '@' ∉ user.toList := by
      rw [← h]
      intro hmem
      simpa using List.mem_takeWhile_imp hmem
    have hall := List.takeWhile_append_dropWhile (p := (· ≠ '@')) (l := principal.toList)
    rw [← withoutRealm, h] at hall
    cases hrest : principal.toList.dropWhile (· ≠ '@') with
    | nil =>
        rw [hrest, List.append_nil] at hall
        obtain rfl := String.toList_injective hall
        exact .plain hout
    | cons c realm =>
        have hsign : c = '@' := by
          have hhead := List.head?_dropWhile_not (· ≠ '@') principal.toList
          rw [hrest] at hhead
          simpa using hhead
        have hwhole : principal = user ++ "@" ++ String.ofList realm := by
          apply String.toList_injective
          rw [← hall, hrest, hsign]
          simp
        rw [hwhole]
        exact .ofRealm (String.ofList realm) hout

/-- Every principal has one user part. -/
theorem existsUnique_userPart (principal : String) : ∃! user, UserPart principal user := by
  refine ⟨String.ofList (withoutRealm principal.toList), ?_, ?_⟩
  · exact userPart_iff.mpr String.toList_ofList.symm
  · intro user huser
    apply String.toList_injective
    rw [String.toList_ofList, userPart_iff.mp huser]

/-- A text that is a username once its slashes are underscores. -/
structure IsNameable (user : String) : Prop where
  ne_empty : user ≠ ""
  chars : ∀ c ∈ user.toList, isChar c = true ∨ c = '/'

theorem isValid_map_underscored {user : String} :
    isValid (user.map underscored) = true ↔ IsNameable user := by
  have hempty : user.map underscored = "" ↔ user = "" := by
    rw [← String.toList_eq_nil_iff, String.toList_map, List.map_eq_nil_iff,
      String.toList_eq_nil_iff]
  rw [isValid_iff, Ne, hempty, String.toList_map, List.forall_mem_map]
  simp only [isChar_underscored]
  exact ⟨fun h => ⟨h.1, h.2⟩, fun h => ⟨h.ne_empty, h.chars⟩⟩

/-- A principal is read as its user part with underscores. -/
theorem ofPrincipal?_of_userPart {principal user : String} (h : UserPart principal user) :
    ofPrincipal? principal =
      if isValid (user.map underscored) then some (user.map underscored) else none := by
  have hname : String.ofList ((withoutRealm principal.toList).map underscored) =
      user.map underscored := by
    apply String.toList_injective
    rw [String.toList_ofList, String.toList_map, userPart_iff.mp h]
  rw [← hname]
  rfl

theorem ofPrincipal?_eq_some_iff {principal name : String} :
    ofPrincipal? principal = some name ↔
      ∃ user, UserPart principal user ∧ IsNameable user ∧ name = user.map underscored := by
  obtain ⟨user, huser, honly⟩ := existsUnique_userPart principal
  rw [ofPrincipal?_of_userPart huser]
  constructor
  · intro h
    obtain ⟨hvalid, hname⟩ := Option.ite_none_right_eq_some.mp h
    obtain rfl := Option.some.inj hname
    exact ⟨user, huser, isValid_map_underscored.mp hvalid, rfl⟩
  · rintro ⟨other, hother, hnameable, rfl⟩
    obtain rfl := honly other hother
    rw [if_pos (isValid_map_underscored.mpr hnameable)]

/-- A username is read as itself. -/
theorem ofPrincipal?_of_isValid {name : String} (h : isValid name = true) :
    ofPrincipal? name = some name := by
  -- neither the sign before the realm nor the one before the instance stands in it
  have hpart : UserPart name name := .plain (not_mem_of_isValid h (by decide))
  have hsame : name.map underscored = name := by
    apply String.toList_injective
    rw [String.toList_map]
    refine (List.map_congr_left fun c hc => if_neg ?_).trans (List.map_id _)
    rintro rfl
    exact not_mem_of_isValid h (by decide) hc
  rw [ofPrincipal?_of_userPart hpart, hsame, if_pos h]

/-- The realm of a principal makes no difference. -/
theorem ofPrincipal?_append_realm {user : String} (h : '@' ∉ user.toList) (realm : String) :
    ofPrincipal? (user ++ "@" ++ realm) = ofPrincipal? user := by
  rw [ofPrincipal?_of_userPart (.ofRealm realm h), ofPrincipal?_of_userPart (.plain h)]

/-- Every principal has one user part and is read as this part with an underscore for every
slash, exactly when the part is not empty and made of characters of usernames and of slashes.
The name is a username and read as itself, every username and no other text is read as
itself, and whatever stands behind the first `@` makes no difference. -/
theorem ofPrincipal?_retracts :
    (∀ principal, ∃! user, UserPart principal user) ∧
    (∀ principal name, ofPrincipal? principal = some name ↔
      ∃ user, UserPart principal user ∧ user ≠ "" ∧
        (∀ c ∈ user.toList, isChar c = true ∨ c = '/') ∧
        name = user.map fun c => if c = '/' then '_' else c) ∧
    (∀ principal name, ofPrincipal? principal = some name →
      isValid name = true ∧ ofPrincipal? name = some name) ∧
    (∀ name, isValid name = true ↔ ofPrincipal? name = some name) ∧
    ∀ user realm, '@' ∉ user.toList → ofPrincipal? (user ++ "@" ++ realm) = ofPrincipal? user := by
  refine ⟨existsUnique_userPart, ?_, ?_, ?_, ?_⟩
  · intro principal name
    rw [ofPrincipal?_eq_some_iff]
    refine exists_congr fun user => and_congr_right fun _ => ?_
    exact ⟨fun h => ⟨h.1.ne_empty, h.1.chars, h.2⟩, fun h => ⟨⟨h.1, h.2.1⟩, h.2.2⟩⟩
  · intro principal name hname
    have hvalid := isValid_of_ofPrincipal? hname
    exact ⟨hvalid, ofPrincipal?_of_isValid hvalid⟩
  · intro name
    exact ⟨ofPrincipal?_of_isValid, isValid_of_ofPrincipal?⟩
  · intro user realm hout
    exact ofPrincipal?_append_realm hout realm

/-- A host as the instance of a service, with two signs in its principal. -/
theorem ofPrincipal?_buildHost :
    '@' ∉ "HTTP/build.example.com".toList ∧
      ofPrincipal? ("HTTP/build.example.com" ++ "@" ++ "A.COM@B.COM") =
        some "HTTP_build.example.com" ∧
      isValid "HTTP_build.example.com" = true ∧
      ofPrincipal? "HTTP_build.example.com" = some "HTTP_build.example.com" := by
  obtain ⟨-, hread, hfixed, -, hrealm⟩ := ofPrincipal?_retracts
  have hout : '@' ∉ "HTTP/build.example.com".toList := by decide
  have hname : ofPrincipal? "HTTP/build.example.com" = some "HTTP_build.example.com" := by
    decide
  have hwhole := (hrealm "HTTP/build.example.com" "A.COM@B.COM" hout).trans hname
  obtain ⟨hvalid, hself⟩ := hfixed _ _ hwhole
  exact ⟨hout, hwhole, hvalid, hself⟩

end SignOn.Username
