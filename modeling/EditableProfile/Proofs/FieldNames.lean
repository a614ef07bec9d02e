import EditableProfile.Wire.Choice
import EditableProfile.Proofs.KeywordSpelling
import EditableProfile.Proofs.SpelledReading

set_option autoImplicit false

namespace EditableProfile

open Json Text

namespace Wire.Choice

variable {α : Type}

theorem string_read (choice : Choice α) (content json : String)
    (denotes : Denotes json (.string content)) : choice.read json = choice.accept content := by
  refine whole_denoted _ _ _ ?_ json denotes
  intro core lead rest spelt spaces
  obtain ⟨body, chars, rfl⟩ := spelt
  rw [reader, List.cons_append, skip_spaces_solid lead '"' _ spaces rfl, List.append_assoc]
  simp only [List.singleton_append, string_spelt content body rest chars, bind, Except.bind]
  cases choice.accept content <;> rfl

theorem named_ok_iff (choice : Choice α) (complete : ∀ option, option ∈ choice.options)
    (distinct : Function.Injective choice.name) (name : String) (option : α) :
    choice.named name = .ok option ↔ name = choice.name option := by
  cases found : choice.options.find? fun option => choice.name option == name with
  | none =>
      have missing := List.find?_eq_none.mp found option (complete option)
      have different : name ≠ choice.name option := fun same => missing (by simp [same])
      simp [named, found, different]
  | some other =>
      have called : choice.name other = name := by simpa using List.find?_some found
      rw [← called, distinct.eq_iff]
      simp [named, found, called]

theorem accept_ok_iff (choice : Choice α) (name : String) (option : α) :
    choice.accept name = .ok option ↔ choice.named name = .ok option := by
  cases told : choice.named name <;> simp [accept, told, Except.mapError]

end Wire.Choice

namespace Field

theorem name_injective : Function.Injective name := by
  intro first second same
  have read := ofName_name first
  rw [same, ofName_name] at read
  exact (Option.some.inj read).symm

theorem name_settled (field : Field) : Settled field.name := by
  cases field <;> exact ⟨by decide, by decide, by decide⟩

theorem name_ascii (field : Field) : ∀ c ∈ field.name.toList, c.toNat < 0x80 := by
  have ascii : (field.name.toList.all fun c => c.toNat < 0x80) = true := by
    cases field <;> decide
  simpa using ascii

theorem parse_keyword_iff (text : String) (field : Field) :
    parse text = .ok field ↔ keyword text = field.name := by
  rw [← ofName_eq_some, parse]
  cases ofName? (keyword text) <;> simp

theorem parse_ok_iff (text : String) (field : Field) :
    parse text = .ok field ↔ SpellingOf text field.name := by
  rw [parse_keyword_iff, keyword_eq_iff text field.name field.name_settled]

theorem parse_error (text : String) (strange : ∀ field : Field, ¬ SpellingOf text field.name) :
    parse text = .error ⟨keyword text⟩ := by
  have unnamed : ofName? (keyword text) = none := by
    rw [Option.eq_none_iff_forall_ne_some]
    intro field named
    rw [ofName_eq_some, keyword_eq_iff text field.name field.name_settled] at named
    exact strange field named
  rw [parse, unnamed]

theorem parse_respelled (first second : String) (respelled : Respelled first second) :
    parse first = parse second := by
  rw [parse, parse, (respelled_iff first second).mp respelled]

theorem parse_keyword (text : String) : parse (keyword text) = parse text := by
  apply parse_respelled
  rw [respelled_iff]
  exact settled_keyword _ (keyword_settled text)

theorem choice_named_iff (name : String) (field : Field) :
    choice.named name = .ok field ↔ name = field.name := by
  have complete : ∀ option : Field, option ∈ choice.options := by
    intro option
    cases option <;> decide
  exact choice.named_ok_iff complete name_injective name field

theorem read_string_iff (content json : String) (denotes : Denotes json (.string content))
    (field : Field) : choice.read json = .ok field ↔ content = field.name := by
  rw [choice.string_read content json denotes, choice.accept_ok_iff, choice_named_iff]

theorem parse_read (content json : String) (denotes : Denotes json (.string content))
    (field : Field) (read : choice.read json = .ok field) : parse content = .ok field := by
  rw [(read_string_iff content json denotes field).mp read, parse_keyword_iff]
  exact settled_keyword field.name field.name_settled

theorem parse_unread (content json : String) (denotes : Denotes json (.string content))
    (field : Field) (accepted : parse content = .ok field) (refused : choice.read json ≠ .ok field) :
    trim content.toList ≠ content.toList ∨
      content.toList.map Char.toLower ≠ content.toList := by
  by_cases trimmed : trim content.toList = content.toList
  · right
    intro lowered
    rw [parse_keyword_iff, keyword_unchanged content trimmed lowered] at accepted
    exact refused ((read_string_iff content json denotes field).mpr accepted)
  · exact .inl trimmed

theorem named_by_spelling (text : String) :
    (∀ field, parse text = .ok field ↔ SpellingOf text field.name) ∧
    (∀ field other : Field, SpellingOf text field.name → SpellingOf text other.name →
      field = other) ∧
    (∀ field, parse text = .ok field → ∀ c ∈ text.toList, isBlank c = true ∨ c.toNat < 0x80) ∧
    ((∀ field : Field, ¬ SpellingOf text field.name) → ∃ error, parse text = .error error ∧
      KeywordOf text error.name ∧ (∀ name, KeywordOf text name → name = error.name) ∧
      error.detail = "Unknown profile field: " ++ error.name ∧
      parse error.name = .error error) ∧
    (∀ insideAction field,
      choice.ofValue insideAction (.string text) = .ok field ↔ text = field.name) ∧
    (∀ json field, Denotes json (.string text) →
      (choice.read json = .ok field ↔ text = field.name) ∧
      (choice.read json = .ok field → parse text = .ok field) ∧
      (parse text = .ok field → choice.read json ≠ .ok field →
        trim text.toList ≠ text.toList ∨ text.toList.map Char.toLower ≠ text.toList)) := by
  refine ⟨parse_ok_iff text, ?_, ?_, ?_, fun _ => choice_named_iff text, ?_⟩
  · intro field other spelling spellingOther
    rw [← parse_ok_iff] at spelling spellingOther
    exact Except.ok.inj (spelling.symm.trans spellingOther)
  · intro field accepted
    exact spelling_ascii text field.name ((parse_ok_iff text field).mp accepted) field.name_ascii
  · intro strange
    have refused := parse_error text strange
    exact ⟨⟨keyword text⟩, refused, (keyword_of_iff text _).mpr rfl,
      fun name keywordOf => (keyword_of_iff text name).mp keywordOf, rfl,
      (parse_keyword text).trans refused⟩
  · intro json field denotes
    exact ⟨read_string_iff text json denotes field, parse_read text json denotes field,
      parse_unread text json denotes field⟩

-- The long s is a small letter too, but none of the twenty-six.
theorem named_by_spelling_long_s :
    (parse "\u00a0Uſername" = .error ⟨"uſername"⟩ ∧ parse "uſername" = .error ⟨"uſername"⟩) ∧
    (SpellingOf "eMail\u3000" email.name ∧
      choice.read (Value.string "eMail\u3000").text ≠ .ok email ∧
      (trim "eMail\u3000".toList ≠ "eMail\u3000".toList ∨
        "eMail\u3000".toList.map Char.toLower ≠ "eMail\u3000".toList)) := by
  constructor
  · obtain ⟨accepted, _, _, otherwise, _⟩ := named_by_spelling "\u00a0Uſername"
    have refused : parse "\u00a0Uſername" = .error ⟨"uſername"⟩ := by decide
    have strange : ∀ field : Field, ¬ SpellingOf "\u00a0Uſername" field.name := by
      intro field spelling
      cases refused.symm.trans ((accepted field).mpr spelling)
    obtain ⟨error, told, _, _, _, again⟩ := otherwise strange
    have same : (⟨"uſername"⟩ : UnknownField) = error := Except.error.inj (refused.symm.trans told)
    rw [← same] at again
    exact ⟨refused, again⟩
  · obtain ⟨accepted, _, _, _, _, written⟩ := named_by_spelling "eMail\u3000"
    have spelt : parse "eMail\u3000" = .ok email := by decide
    obtain ⟨exactly, _, changed⟩ := written _ email (denotes_text (.string "eMail\u3000") trivial)
    have refused : choice.read (Value.string "eMail\u3000").text ≠ .ok email :=
      mt exactly.mp (by decide)
    exact ⟨(accepted email).mp spelt, refused, changed spelt refused⟩

end Field

end EditableProfile
