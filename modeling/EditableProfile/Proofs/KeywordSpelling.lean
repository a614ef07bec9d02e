import EditableProfile.Text
import Mathlib.Data.List.DropRight
import Mathlib.Data.List.Forall2

set_option autoImplicit false

namespace EditableProfile.Text

def Lowered (large small : Char) : Prop := large.isUpper = true ∧ small.toNat = large.toNat + 32

def SameLetter (a b : Char) : Prop := a = b ∨ Lowered a b ∨ Lowered b a

def SameLetters (first second : String) : Prop :=
  List.Forall₂ SameLetter first.toList second.toList

def Blank (text : String) : Prop := ∀ c ∈ text.toList, isBlank c = true

def SpellingOf (text name : String) : Prop :=
  ∃ before core after, Blank before ∧ SameLetters core name ∧ Blank after ∧
    text = before ++ core ++ after

def Respelled (first second : String) : Prop :=
  ∃ name, SpellingOf first name ∧ SpellingOf second name

/-- A name in which nothing is left to trim or to lower. -/
structure Settled (name : String) : Prop where
  small : name.toList.any Char.isUpper = false
  front : name.toList.head?.any isBlank = false
  back : name.toList.getLast?.any isBlank = false

structure KeywordOf (text name : String) : Prop where
  spelling : SpellingOf text name
  settled : Settled name

theorem upper_iff (c : Char) : c.isUpper = true ↔ 65 ≤ c.toNat ∧ c.toNat ≤ 90 :=
  decide_eq_true_iff

theorem lower_nat (c : Char) :
    c.toLower.toNat = if c.isUpper then c.toNat + 32 else c.toNat := by
  by_cases range : c.val ≥ 'A'.val ∧ c.val ≤ 'Z'.val
  · have large : c.isUpper = true := decide_eq_true range
    have lowered : c.toLower.val = c.val + 32 := congrArg Char.val (dif_pos range)
    have most : c.val.toNat ≤ 90 := range.2
    have inside : c.val.toNat + 32 < 2 ^ 32 := by omega
    calc c.toLower.toNat
        = (c.val + 32).toNat := congrArg UInt32.toNat lowered
      _ = c.toNat + 32 := (UInt32.toNat_add c.val 32).trans (Nat.mod_eq_of_lt inside)
      _ = if c.isUpper then c.toNat + 32 else c.toNat := by rw [large, if_pos rfl]
  · have other : c.isUpper = false := decide_eq_false range
    have kept : c.toLower = c := dif_neg range
    rw [kept, other, if_neg Bool.false_ne_true]

theorem lower_other (c : Char) (other : c.isUpper = false) : c.toLower = c := by
  rw [← Char.toNat_inj, lower_nat, other, if_neg Bool.false_ne_true]

theorem lower_not_upper (c : Char) : c.toLower.isUpper = false := by
  rw [← Bool.not_eq_true, upper_iff, lower_nat]
  split
  · next large =>
      rw [upper_iff] at large
      omega
  · next other => rwa [← upper_iff]

theorem same_letter_iff (a b : Char) : SameLetter a b ↔ a.toLower = b.toLower := by
  simp only [SameLetter, Lowered, ← Char.toNat_inj, lower_nat, upper_iff]
  split <;> split <;> omega

theorem same_letters_iff (first second : String) : SameLetters first second ↔
    first.toList.map Char.toLower = second.toList.map Char.toLower := by
  have letter : SameLetter = fun a b => a.toLower = b.toLower := by
    funext a b
    exact propext (same_letter_iff a b)
  rw [← List.forall₂_eq_eq_eq, List.forall₂_map_left_iff, List.forall₂_map_right_iff, SameLetters,
    letter]

theorem blank_lower (c : Char) : isBlank c.toLower = isBlank c := by
  cases large : c.isUpper with
  | false => rw [lower_other c large]
  | true =>
      have place := lower_nat c
      rw [large, if_pos rfl] at place
      have range := (upper_iff c).mp large
      rw [Bool.eq_iff_iff]
      simp [isBlank, blankRanges]
      omega

theorem trim_lower (text : List Char) :
    trim (text.map Char.toLower) = (trim text).map Char.toLower := by
  have blank : isBlank ∘ Char.toLower = isBlank := funext blank_lower
  simp only [trim, List.dropWhile_map, ← List.map_reverse, blank]

theorem trim_padded (before core after : List Char) (blankBefore : ∀ c ∈ before, isBlank c = true)
    (blankAfter : ∀ c ∈ after, isBlank c = true) : trim (before ++ core ++ after) = trim core := by
  rw [trim, trim, List.append_assoc, List.dropWhile_append_of_pos blankBefore,
    List.dropWhile_append]
  cases left : core.dropWhile isBlank with
  | nil => simp [List.dropWhile_eq_nil_iff.mpr blankAfter]
  | cons c rest =>
      have blank : ∀ c ∈ after.reverse, isBlank c = true := by simpa using blankAfter
      rw [List.isEmpty_cons, if_neg Bool.false_ne_true, List.reverse_append,
        List.dropWhile_append_of_pos blank]

theorem trim_cut (text : List Char) : ∃ before after, (∀ c ∈ before, isBlank c = true) ∧
    (∀ c ∈ after, isBlank c = true) ∧ text = before ++ trim text ++ after := by
  refine ⟨text.takeWhile isBlank, (text.dropWhile isBlank).rtakeWhile isBlank,
    fun c => List.mem_takeWhile_imp, fun c => List.mem_rtakeWhile_imp, ?_⟩
  rw [List.append_assoc]
  have back : trim text ++ (text.dropWhile isBlank).rtakeWhile isBlank = text.dropWhile isBlank :=
    List.rdropWhile_append_rtakeWhile
  rw [back, List.takeWhile_append_dropWhile]

theorem drop_while_front (text : List Char) : (text.dropWhile isBlank).head?.any isBlank = false := by
  have front := List.head?_dropWhile_not isBlank text
  cases here : (text.dropWhile isBlank).head? with
  | none => rfl
  | some c =>
      rw [here] at front
      exact front

theorem trim_front (text : List Char) : (trim text).head?.any isBlank = false := by
  have front := drop_while_front text
  obtain ⟨taken, whole⟩ : trim text <+: text.dropWhile isBlank := List.rdropWhile_prefix isBlank _
  cases kept : trim text with
  | nil => rfl
  | cons c rest =>
      rw [← whole, kept] at front
      exact front

theorem trim_back (text : List Char) : (trim text).getLast?.any isBlank = false := by
  rw [trim, List.getLast?_reverse]
  exact drop_while_front _

theorem trim_settled (text : List Char) (front : text.head?.any isBlank = false)
    (back : text.getLast?.any isBlank = false) : trim text = text := by
  have kept : ∀ list : List Char, list.head?.any isBlank = false → list.dropWhile isBlank = list := by
    intro list solid
    cases list with
    | nil => rfl
    | cons c rest => exact List.dropWhile_cons_of_neg (by simpa using solid)
  rw [trim, kept text front, kept text.reverse (by rwa [List.head?_reverse]), List.reverse_reverse]

theorem keyword_chars (text : String) :
    (keyword text).toList = trim (text.toList.map Char.toLower) := by
  rw [keyword, String.toList_ofList, trim_lower]

theorem keyword_unchanged (text : String) (trimmed : trim text.toList = text.toList)
    (lowered : text.toList.map Char.toLower = text.toList) : keyword text = text := by
  rw [keyword, trimmed, lowered, String.ofList_toList]

theorem keyword_settled (text : String) : Settled (keyword text) := by
  constructor
  · rw [keyword, String.toList_ofList, List.any_map]
    exact List.any_eq_false.mpr fun c _ => Bool.eq_false_iff.mp (lower_not_upper c)
  · rw [keyword_chars]
    exact trim_front _
  · rw [keyword_chars]
    exact trim_back _

theorem settled_keyword (name : String) (settled : Settled name) : keyword name = name := by
  apply String.toList_inj.mp
  have small : ∀ c ∈ name.toList, c.toLower = c := by
    intro c present
    exact lower_other c (Bool.eq_false_iff.mpr (List.any_eq_false.mp settled.small c present))
  rw [keyword_chars, (List.map_congr_left small).trans (List.map_id' _),
    trim_settled _ settled.front settled.back]

theorem spelling_keyword (text name : String) (spelling : SpellingOf text name) :
    keyword text = keyword name := by
  obtain ⟨before, core, after, blankBefore, same, blankAfter, rfl⟩ := spelling
  apply String.toList_inj.mp
  calc (keyword (before ++ core ++ after)).toList
      = (trim (before.toList ++ core.toList ++ after.toList)).map Char.toLower := by
        rw [keyword, String.toList_ofList, String.toList_append, String.toList_append]
    _ = (trim core.toList).map Char.toLower := by
        rw [trim_padded _ _ _ blankBefore blankAfter]
    _ = trim (name.toList.map Char.toLower) := by
        rw [← trim_lower, (same_letters_iff core name).mp same]
    _ = (keyword name).toList := (keyword_chars name).symm

theorem spelling_of_keyword (text : String) : SpellingOf text (keyword text) := by
  obtain ⟨before, after, blankBefore, blankAfter, whole⟩ := trim_cut text.toList
  refine ⟨String.ofList before, String.ofList (trim text.toList), String.ofList after, ?_, ?_, ?_, ?_⟩
  · rwa [Blank, String.toList_ofList]
  · rw [same_letters_iff, keyword, String.toList_ofList, String.toList_ofList, List.map_map]
    exact List.map_congr_left fun c _ => (lower_other _ (lower_not_upper c)).symm
  · rwa [Blank, String.toList_ofList]
  · rw [← String.ofList_append, ← String.ofList_append, ← whole, String.ofList_toList]

theorem keyword_eq_iff (text name : String) (settled : Settled name) :
    keyword text = name ↔ SpellingOf text name := by
  constructor
  · intro same
    exact same ▸ spelling_of_keyword text
  · intro spelling
    rw [spelling_keyword text name spelling, settled_keyword name settled]

theorem keyword_of_iff (text name : String) : KeywordOf text name ↔ name = keyword text := by
  constructor
  · intro keywordOf
    exact ((keyword_eq_iff text name keywordOf.settled).mpr keywordOf.spelling).symm
  · intro same
    rw [same]
    exact ⟨spelling_of_keyword text, keyword_settled text⟩

theorem same_letter_ascii (a b : Char) (same : SameLetter a b) (ascii : b.toNat < 0x80) :
    a.toNat < 0x80 := by
  rcases same with rfl | ⟨large, place⟩ | ⟨large, place⟩
  · exact ascii
  · omega
  · rw [upper_iff] at large
    omega

theorem spelling_ascii (text name : String) (spelling : SpellingOf text name)
    (ascii : ∀ c ∈ name.toList, c.toNat < 0x80) :
    ∀ c ∈ text.toList, isBlank c = true ∨ c.toNat < 0x80 := by
  obtain ⟨before, core, after, blankBefore, same, blankAfter, rfl⟩ := spelling
  intro c present
  simp only [String.toList_append, List.mem_append] at present
  rcases present with (front | inside) | back
  · exact .inl (blankBefore c front)
  · have lowered : c.toLower ∈ name.toList.map Char.toLower := by
      rw [← (same_letters_iff core name).mp same]
      exact List.mem_map_of_mem inside
    obtain ⟨letter, listed, alike⟩ := List.mem_map.mp lowered
    have letters := (same_letter_iff c letter).mpr alike.symm
    exact .inr (same_letter_ascii c letter letters (ascii letter listed))
  · exact .inl (blankAfter c back)

theorem respelled_iff (first second : String) :
    Respelled first second ↔ keyword first = keyword second := by
  constructor
  · rintro ⟨name, spelling, other⟩
    rw [spelling_keyword first name spelling, spelling_keyword second name other]
  · intro same
    have other := spelling_of_keyword second
    rw [← same] at other
    exact ⟨keyword first, spelling_of_keyword first, other⟩

end EditableProfile.Text
