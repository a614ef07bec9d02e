import EditableProfile.Config
import EditableProfile.Proofs.KeywordSpelling

set_option autoImplicit false

namespace EditableProfile

open Text

namespace Layout

theorem keyword_desktop_iff (text : String) :
    keyword text = "desktop" ↔ SpellingOf text "desktop" :=
  keyword_eq_iff text "desktop" ⟨by decide, by decide, by decide⟩

theorem keyword_mobile_iff (text : String) : keyword text = "mobile" ↔ SpellingOf text "mobile" :=
  keyword_eq_iff text "mobile" ⟨by decide, by decide, by decide⟩

end Layout

namespace Config

/-- What the variable of the layout comes to, with the warnings about it. -/
inductive LayoutChosen : Option String → Layout × List Warning → Prop where
  | absent : LayoutChosen none (.desktop, [])
  | desktop (text : String) (spelling : SpellingOf text "desktop")
      (other : ¬ SpellingOf text "mobile") : LayoutChosen (some text) (.desktop, [])
  | mobile (text : String) (spelling : SpellingOf text "mobile") :
      LayoutChosen (some text) (.mobile, [])
  | unknown (text name : String) (keywordOf : KeywordOf text name)
      (notDesktop : ¬ SpellingOf text "desktop") (notMobile : ¬ SpellingOf text "mobile") :
      LayoutChosen (some text)
        (.desktop, [⟨"PROFILEDESK_SHELL", "unknown shell kind: " ++ name⟩])

theorem layout_chosen (value : Option String) : LayoutChosen value (layoutOf value) := by
  cases value with
  | none => exact .absent
  | some text =>
      by_cases desktop : keyword text = "desktop"
      · have mobile : keyword text ≠ "mobile" := by
          rw [desktop]
          decide
        have told : layoutOf (some text) = (.desktop, []) := by
          simp [layoutOf, Layout.parse, desktop]
        rw [told]
        rw [Layout.keyword_desktop_iff] at desktop
        rw [Ne, Layout.keyword_mobile_iff] at mobile
        exact .desktop text desktop mobile
      · by_cases mobile : keyword text = "mobile"
        · have told : layoutOf (some text) = (.mobile, []) := by
            simp [layoutOf, Layout.parse, mobile]
          rw [told]
          exact .mobile text ((Layout.keyword_mobile_iff text).mp mobile)
        · have told : layoutOf (some text) =
              (.desktop, [⟨"PROFILEDESK_SHELL", "unknown shell kind: " ++ keyword text⟩]) := by
            rw [layoutOf, Layout.parse]
            simp only [if_neg desktop, if_neg mobile]
            rfl
          rw [told]
          rw [Layout.keyword_desktop_iff] at desktop
          rw [Layout.keyword_mobile_iff] at mobile
          exact .unknown text _ ((keyword_of_iff text _).mpr rfl) desktop mobile

theorem mobile_iff (value : Option String) :
    (layoutOf value).1 = .mobile ↔ ∃ text, value = some text ∧ SpellingOf text "mobile" := by
  have chosen := layout_chosen value
  generalize layoutOf value = result at chosen
  cases chosen with
  | absent => simp
  | desktop text spelling other => simp [other]
  | mobile text spelling => simp [spelling]
  | unknown text name keywordOf notDesktop notMobile => simp [notMobile]

theorem desktop_iff (value : Option String) : (layoutOf value).1 = .desktop ↔
    ¬ ∃ text, value = some text ∧ SpellingOf text "mobile" := by
  rw [← mobile_iff]
  cases (layoutOf value).1 <;> simp

theorem warned_iff (value : Option String) : (layoutOf value).2.length = 1 ↔ ∃ text,
    value = some text ∧ ¬ SpellingOf text "desktop" ∧ ¬ SpellingOf text "mobile" := by
  have chosen := layout_chosen value
  generalize layoutOf value = result at chosen
  cases chosen with
  | absent => simp
  | desktop text spelling other => simp [spelling]
  | mobile text spelling => simp [spelling]
  | unknown text name keywordOf notDesktop notMobile => simp [notDesktop, notMobile]

theorem warning_content (value : Option String) (warning : Warning)
    (warned : warning ∈ (layoutOf value).2) : (layoutOf value).2 = [warning] ∧
      warning.name = "PROFILEDESK_SHELL" ∧ ∃ text name, value = some text ∧ KeywordOf text name ∧
        warning.message = "unknown shell kind: " ++ name := by
  have chosen := layout_chosen value
  generalize layoutOf value = result at chosen warned
  cases chosen with
  | unknown text name keywordOf notDesktop notMobile =>
      rw [List.mem_singleton] at warned
      rw [warned]
      exact ⟨rfl, rfl, text, name, rfl, keywordOf, rfl⟩
  | _ => cases warned

theorem given_or_default (value : Option String) (fallback : String) :
    value.getD fallback = fallback ↔ value = none ∨ value = some fallback := by
  cases value <;> simp

theorem of_lookup_values (lookup : String → Option String) : ofLookup lookup =
    (⟨(layoutOf (lookup "PROFILEDESK_SHELL")).1, (lookup "PROFILEDESK_USERNAME").getD "guest",
        (lookup "PROFILEDESK_EMAIL").getD "guest@example.com",
        (lookup "PROFILEDESK_AVATAR").getD ""⟩,
      (layoutOf (lookup "PROFILEDESK_SHELL")).2) := rfl

theorem default_iff (lookup : String → Option String) : (ofLookup lookup).1 = default ↔
    (¬ ∃ text, lookup "PROFILEDESK_SHELL" = some text ∧ SpellingOf text "mobile") ∧
    (lookup "PROFILEDESK_USERNAME" = none ∨ lookup "PROFILEDESK_USERNAME" = some "guest") ∧
    (lookup "PROFILEDESK_EMAIL" = none ∨
      lookup "PROFILEDESK_EMAIL" = some "guest@example.com") ∧
    (lookup "PROFILEDESK_AVATAR" = none ∨ lookup "PROFILEDESK_AVATAR" = some "") := by
  have parts : (ofLookup lookup).1 = default ↔
      (layoutOf (lookup "PROFILEDESK_SHELL")).1 = .desktop ∧
      (lookup "PROFILEDESK_USERNAME").getD "guest" = "guest" ∧
      (lookup "PROFILEDESK_EMAIL").getD "guest@example.com" = "guest@example.com" ∧
      (lookup "PROFILEDESK_AVATAR").getD "" = "" := by
    rw [of_lookup_values]
    simp only [default, Config.mk.injEq, Record.mk.injEq]
  simp only [parts, given_or_default, desktop_iff]

theorem environment_text_iff (bytes : List UInt8) (text : String) :
    environmentText bytes = some text ↔ bytes = text.toUTF8.data.toList := by
  constructor
  · intro decoded
    rw [environmentText, String.fromUTF8?] at decoded
    split at decoded
    · cases decoded
      rfl
    · cases decoded
  · intro encoded
    have whole : (⟨bytes.toArray⟩ : ByteArray) = text.toUTF8 := by
      rw [encoded]
    rw [environmentText, whole]
    exact dif_pos text.isValidUTF8

theorem environment_value_iff (value : Option (List UInt8)) (text : String) :
    value.bind environmentText = some text ↔ value = some text.toUTF8.data.toList := by
  simp only [Option.bind_eq_some_iff, environment_text_iff, exists_eq_right]

theorem lookups_agree (lookup other : String → Option String)
    (agree : ∀ name ∈ Variable.all, lookup name = other name) : ofLookup lookup = ofLookup other := by
  have layout := agree Variable.layout (by decide)
  have username := agree Variable.username (by decide)
  have email := agree Variable.email (by decide)
  have avatar := agree Variable.avatar (by decide)
  calc ofLookup lookup
      = ofValues (lookup Variable.layout) (lookup Variable.username) (lookup Variable.email)
          (lookup Variable.avatar) := rfl
    _ = ofLookup other := by
        rw [layout, username, email, avatar]
        rfl

theorem decided_by_four_variables :
    (∀ lookup, traced lookup = (ofLookup lookup, ["PROFILEDESK_SHELL", "PROFILEDESK_USERNAME",
      "PROFILEDESK_EMAIL", "PROFILEDESK_AVATAR"])) ∧
    (∀ lookup other, (∀ name ∈ Variable.all, lookup name = other name) →
      ofLookup lookup = ofLookup other) ∧
    (∀ lookup,
      let config := (ofLookup lookup).1
      let warnings := (ofLookup lookup).2
      let layout := lookup "PROFILEDESK_SHELL"
      config.user = ⟨(lookup "PROFILEDESK_USERNAME").getD "guest",
        (lookup "PROFILEDESK_EMAIL").getD "guest@example.com",
        (lookup "PROFILEDESK_AVATAR").getD ""⟩ ∧
      (config.layout = .mobile ↔ ∃ text, layout = some text ∧ SpellingOf text "mobile") ∧
      (config.layout = .desktop ↔ ¬ ∃ text, layout = some text ∧ SpellingOf text "mobile") ∧
      (warnings.length = 1 ↔ ∃ text, layout = some text ∧ ¬ SpellingOf text "desktop" ∧
        ¬ SpellingOf text "mobile") ∧
      (∀ warning ∈ warnings, warnings = [warning] ∧ warning.name = "PROFILEDESK_SHELL" ∧
        ∃ text name, layout = some text ∧ KeywordOf text name ∧
          warning.message = "unknown shell kind: " ++ name) ∧
      (config = default ↔ (¬ ∃ text, layout = some text ∧ SpellingOf text "mobile") ∧
        (lookup "PROFILEDESK_USERNAME" = none ∨ lookup "PROFILEDESK_USERNAME" = some "guest") ∧
        (lookup "PROFILEDESK_EMAIL" = none ∨
          lookup "PROFILEDESK_EMAIL" = some "guest@example.com") ∧
        (lookup "PROFILEDESK_AVATAR" = none ∨ lookup "PROFILEDESK_AVATAR" = some ""))) ∧
    (∀ environment lookup, (∀ name ∈ Variable.all, ∀ text : String,
        lookup name = some text ↔ environment name = some text.toUTF8.data.toList) →
      ofEnvironment environment = ofLookup lookup) := by
  refine ⟨fun lookup => rfl, lookups_agree, ?_, ?_⟩
  · intro lookup config warnings layout
    exact ⟨rfl, mobile_iff layout, desktop_iff layout, warned_iff layout, warning_content layout,
      default_iff lookup⟩
  · intro environment lookup decodes
    apply lookups_agree
    intro name listed
    ext text
    rw [decodes name listed text]
    exact environment_value_iff (environment name) text

def stray (name : String) : Option String :=
  if name = "PROFILEDESK_SHELL" then some "\u00a0TABLET "
  else if name = "PROFILEDESK_USERNAME" then some ""
  else if name = "HOME" then some "/home/ann"
  else none

def strayBytes (name : String) : Option (List UInt8) :=
  if name = "PROFILEDESK_SHELL" then some [0xc2, 0xa0, 0x54, 0x41, 0x42, 0x4c, 0x45, 0x54, 0x20]
  else if name = "PROFILEDESK_USERNAME" then some []
  else if name = "PROFILEDESK_EMAIL" then some [0x61, 0xff]
  else none

theorem decided_by_four_variables_stray :
    let homeless := fun name => if name = "HOME" then none else stray name
    (∀ name ∈ Variable.all, stray name = homeless name) ∧ ofLookup stray = ofLookup homeless ∧
    (ofLookup stray).2 = [⟨"PROFILEDESK_SHELL", "unknown shell kind: tablet"⟩] ∧
    (∃ text name, stray "PROFILEDESK_SHELL" = some text ∧ KeywordOf text name ∧
      "unknown shell kind: tablet" = "unknown shell kind: " ++ name) ∧
    ofEnvironment strayBytes = ofLookup stray := by
  intro homeless
  obtain ⟨_, agree, values, decode⟩ := decided_by_four_variables
  obtain ⟨_, _, _, _, content, _⟩ := values stray
  have same : ∀ name ∈ Variable.all, stray name = homeless name := by decide
  have warned : (ofLookup stray).2 = [⟨"PROFILEDESK_SHELL", "unknown shell kind: tablet"⟩] := by
    decide
  obtain ⟨_, _, named⟩ := content ⟨"PROFILEDESK_SHELL", "unknown shell kind: tablet"⟩
    (by rw [warned]; exact List.mem_singleton_self _)
  refine ⟨same, agree stray homeless same, warned, named, decode strayBytes stray ?_⟩
  have decoded : ∀ name ∈ Variable.all, (strayBytes name).bind environmentText = stray name := by
    decide
  intro name listed text
  rw [← decoded name listed]
  exact environment_value_iff (strayBytes name) text

end Config

end EditableProfile
