import SignOn.Groups
import SignOn.Proofs.Text

/-!
# Names of groups

A list of teams and the names in the directory are two ways to name groups. A list of
teams gives back the names that were joined to it (`teamNames_joined`) and holds names in
normal form only (`isNormal_of_mem_teamNames`).

A name in the directory is a list of parts (`Directory.Dn`), and every text is one
(`Directory.Dn.exists_text`). Its group is the value of its first `cn`
(`ofDn?_text`), an item always but empty where the value is blank
(`forall_isNormal_ofDns_iff`).
-/

set_option autoImplicit false

namespace SignOn

open SignOn.Text

/-- The normal form of the name of a group: an item that is not empty. -/
structure GroupName.IsNormal (name : String) : Prop extends IsItem name where
  nonempty : name ≠ ""

instance (name : String) : Decidable (GroupName.IsNormal name) :=
  decidable_of_iff (IsItem name ∧ name ≠ "")
    ⟨fun h => ⟨h.1, h.2⟩, fun h => ⟨h.toIsItem, h.nonempty⟩⟩

/-! ## Lists of teams -/

namespace Assertion

open SignOn.GroupName

/-- The names in a list of teams are the trimmed pieces that are not empty. -/
theorem mem_teamNames_iff {list name : String} :
    name ∈ teamNames list ↔ (∃ piece ∈ pieces ',' list, trim piece = name) ∧ name ≠ "" := by
  rw [teamNames, List.mem_filter, List.mem_map, decide_eq_true_iff]

/-- The names in a list of teams are in normal form. -/
theorem isNormal_of_mem_teamNames {list name : String} (h : name ∈ teamNames list) :
    IsNormal name := by
  obtain ⟨⟨piece, hpiece, rfl⟩, hne⟩ := mem_teamNames_iff.mp h
  exact ⟨isItem_trim (not_mem_of_mem_pieces hpiece), hne⟩

/-- Names in normal form are read from their list as they were. -/
theorem teamNames_joined {names : List String} (h : ∀ name ∈ names, IsNormal name) :
    teamNames (joined "," names) = names := by
  cases hnames : names with
  -- no name gives the list with one empty piece
  | nil => decide
  | cons first rest =>
      rw [← hnames]
      have hcut : pieces ',' (joined "," names) = names :=
        pieces_joined rfl (by simp [hnames]) fun name hname => (h name hname).plain
      have htrim : names.map trim = names :=
        (List.map_congr_left fun name hname => trim_eq_self (h name hname).trimmed).trans
          (List.map_id names)
      rw [teamNames, hcut, htrim, List.filter_eq_self]
      exact fun name hname => decide_eq_true (h name hname).nonempty

end Assertion

/-! ## Names in the directory -/

namespace Directory

/-- A part of a name in the directory: an attribute with a value, or a text that is none. -/
inductive DnPart where
  | assignment (name value : String) (hname : ',' ∉ name.toList ∧ '=' ∉ name.toList)
      (hvalue : ',' ∉ value.toList)
  | bare (text : String) (htext : ',' ∉ text.toList ∧ '=' ∉ text.toList)

namespace DnPart

/-- The part as it is written. -/
def text : DnPart → String
  | assignment name value _ _ => name ++ "=" ++ value
  | bare text _ => text

/-- The value of the part, if its attribute is `cn` in any letter case. -/
def commonName? : DnPart → Option String
  | assignment name value _ _ => if sameName (trim name) "cn" then some (trim value) else none
  | bare _ _ => none

/-- A part holds no comma. -/
theorem comma_not_mem_text (part : DnPart) : ',' ∉ part.text.toList := by
  cases part with
  | assignment name value hname hvalue => simp [text, hname.1, hvalue]
  | bare text htext => exact htext.1

/-- A text without commas is a part. -/
theorem exists_text {text : String} (h : ',' ∉ text.toList) :
    ∃ part : DnPart, part.text = text := by
  by_cases heq : '=' ∈ text.toList
  · obtain ⟨before, after, hcut, hfirst⟩ := List.eq_append_cons_of_mem heq
    rw [hcut, List.mem_append, List.mem_cons, not_or, not_or] at h
    refine ⟨.assignment (.ofList before) (.ofList after) ?_ ?_, ?_⟩
    · rw [String.toList_ofList]
      exact ⟨h.1, hfirst⟩
    · rw [String.toList_ofList]
      exact h.2.2
    · apply String.toList_injective
      simp [DnPart.text, hcut]
  · exact ⟨.bare text ⟨h, heq⟩, rfl⟩

/-- A part is cut into its attribute and its value. -/
theorem cut?_text (part : DnPart) :
    cut? '=' part.text =
      match part with
      | assignment name value _ _ => some (name, value)
      | bare _ _ => none := by
  cases part with
  | assignment name value hname hvalue =>
      apply cut?_eq_some_iff.mpr
      refine ⟨?_, hname.2⟩
      simp [text]
  | bare text htext => exact Option.map_eq_none_iff.mpr (splitFirst?_of_not_mem htext.2)

/-- The value of a `cn` is an item. -/
theorem isItem_of_commonName? {part : DnPart} {name : String}
    (h : part.commonName? = some name) : IsItem name := by
  cases part with
  | assignment name value hname hvalue =>
      rw [commonName?] at h
      split at h
      · exact Option.some.inj h ▸ isItem_trim hvalue
      · cases h
  | bare text htext => cases h

end DnPart

/-- A name in the directory by its parts. -/
abbrev Dn : Type := List DnPart

namespace Dn

/-- The name as it is written. -/
def text (dn : Dn) : String :=
  joined "," (dn.map DnPart.text)

/-- The value of the first `cn`. -/
def commonName? (dn : Dn) : Option String :=
  dn.findSome? DnPart.commonName?

/-- Every text is a name of parts. -/
theorem exists_text (text : String) : ∃ dn : Dn, Dn.text dn = text := by
  have hparts : ∀ texts : List String, (∀ text ∈ texts, ',' ∉ text.toList) →
      ∃ dn : Dn, dn.map DnPart.text = texts := by
    intro texts
    induction texts with
    | nil => exact fun _ => ⟨[], rfl⟩
    | cons text texts ih =>
        intro h
        obtain ⟨hfirst, hrest⟩ := List.forall_mem_cons.mp h
        obtain ⟨part, rfl⟩ := DnPart.exists_text hfirst
        obtain ⟨dn, rfl⟩ := ih hrest
        exact ⟨part :: dn, rfl⟩
  obtain ⟨dn, hdn⟩ := hparts (pieces ',' text) fun _ hpiece => not_mem_of_mem_pieces hpiece
  refine ⟨dn, ?_⟩
  rw [Dn.text, hdn, joined_pieces rfl]

/-- The pieces of a name are its parts. -/
theorem pieces_text {dn : Dn} (h : dn ≠ []) : pieces ',' (text dn) = dn.map DnPart.text := by
  refine pieces_joined rfl (mt List.map_eq_nil_iff.mp h) ?_
  intro text htext
  obtain ⟨part, -, rfl⟩ := List.mem_map.mp htext
  exact part.comma_not_mem_text

end Dn

end Directory

/-! ## The group a name stands for -/

namespace GroupName

open SignOn.Directory

/-- The first `cn` among cut parts is the first one of the parts. -/
theorem find?_cut_text (dn : Dn) :
    ((((dn.map DnPart.text).filterMap (cut? '=')).find? fun part => isCommonName part.1).map
      fun part => trim part.2) = Dn.commonName? dn := by
  -- over the parts; a bare one is dropped by the cut and another one is looked at
  induction dn with
  | nil => rfl
  | cons part dn ih =>
      rw [List.map_cons, List.filterMap_cons, DnPart.cut?_text, Dn.commonName?,
        List.findSome?_cons]
      cases part with
      | bare text htext => exact ih
      | assignment name value hname hvalue =>
          rw [List.find?_cons, DnPart.commonName?, isCommonName]
          cases sameName (trim name) "cn" with
          | true => rfl
          | false => exact ih

/-- A name of parts stands for the value of its first `cn`. -/
theorem ofDn?_text (dn : Dn) : ofDn? (Dn.text dn) = Dn.commonName? dn := by
  -- the name without parts is read as one empty piece, which is no assignment
  by_cases hnil : dn = []
  · subst hnil
    decide
  · rw [ofDn?, Dn.pieces_text hnil, find?_cut_text]

/-- Names of parts stand for the values of their first `cn`s, as far as they have one. -/
theorem ofDns_text (dns : List Dn) : ofDns (dns.map Dn.text) = dns.filterMap Dn.commonName? := by
  rw [ofDns, List.filterMap_map]
  exact congrArg (fun read => dns.filterMap read) (funext ofDn?_text)

/-- The names without a `cn` are those that are warned about. -/
theorem events_text (dns : List Dn) :
    events (dns.map Dn.text) =
      (dns.filter fun dn => Dn.commonName? dn = none).map fun dn => .groupSkipped (Dn.text dn) := by
  have hnone (dn : Dn) : (ofDn? (Dn.text dn)).isNone = decide (Dn.commonName? dn = none) := by
    rw [ofDn?_text]
    cases Dn.commonName? dn <;> rfl
  rw [events, List.filter_map, List.map_map]
  exact congrArg (fun keep => (dns.filter keep).map _) (funext hnone)

/-- A name stands for an item. -/
theorem isItem_of_ofDn? {dn name : String} (h : ofDn? dn = some name) : IsItem name := by
  obtain ⟨parts, rfl⟩ := Dn.exists_text dn
  rw [ofDn?_text] at h
  obtain ⟨part, -, hpart⟩ := List.exists_of_findSome?_eq_some h
  exact DnPart.isItem_of_commonName? hpart

/-- The first `cn` of a name has a blank value. -/
def HasBlankName (dn : String) : Prop :=
  ∃ parts : Dn, Dn.text parts = dn ∧ Dn.commonName? parts = some ""

/-- A name stands for the empty one exactly when its first `cn` is blank. -/
theorem hasBlankName_iff {dn : String} : HasBlankName dn ↔ ofDn? dn = some "" := by
  constructor
  · rintro ⟨parts, rfl, hblank⟩
    rw [ofDn?_text, hblank]
  · intro h
    obtain ⟨parts, rfl⟩ := Dn.exists_text dn
    exact ⟨parts, rfl, ofDn?_text parts ▸ h⟩

instance (dn : String) : Decidable (HasBlankName dn) :=
  decidable_of_iff (ofDn? dn = some "") hasBlankName_iff.symm

/-- Groups in the directory have items for names. -/
theorem isItem_of_mem_ofDns {dns : List String} {name : String} (h : name ∈ ofDns dns) :
    IsItem name := by
  obtain ⟨dn, -, hdn⟩ := List.mem_filterMap.mp h
  exact isItem_of_ofDn? hdn

/-- Groups in the directory have names in normal form exactly when no `cn` is blank. -/
theorem forall_isNormal_ofDns_iff {dns : List String} :
    (∀ name ∈ ofDns dns, IsNormal name) ↔ ∀ dn ∈ dns, ¬ HasBlankName dn := by
  constructor
  · intro h dn hdn hblank
    have hempty : "" ∈ ofDns dns := List.mem_filterMap.mpr ⟨dn, hdn, hasBlankName_iff.mp hblank⟩
    exact (h "" hempty).nonempty rfl
  -- a name from the directory is an item, so it is in normal form unless it is empty
  · intro h name hname
    refine ⟨isItem_of_mem_ofDns hname, ?_⟩
    rintro rfl
    obtain ⟨dn, hdn, hblank⟩ := List.mem_filterMap.mp hname
    exact h dn hdn (hasBlankName_iff.mpr hblank)

-- the first `cn` counts, even where a later one is not blank
example : HasBlankName "cn= ,cn=qa" ∧ ¬ IsNormal "" := by decide +kernel

end GroupName

end SignOn
