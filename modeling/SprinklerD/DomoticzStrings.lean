import SprinklerD.DomoticzReach

/-!
# Which strings of a Domoticz message are copied

The characters skipped before a value can be its own, the copy ends at a mark in it, and a
colon behind the first character starts the copy again there.
-/

namespace SprinklerD.DomoticzStrings

open Foundation.CString Foundation.FlatJson
open SprinklerD.Config SprinklerD.DomoticzParser SprinklerD.DomoticzScan SprinklerD.DomoticzReach

set_option autoImplicit false

/-- The string behind these blanks is copied: only spaces come first, it is spelled as it is,
and does not end early. Or it happens to be the blanks from the first that is no space on. -/
def Copied (blanks raw value : Text) : Prop :=
  ((∀ char ∈ blanks, char = ' ') ∧ value = raw ∧ ∃ first others, raw = first :: others ∧
      beforeSvalue first = false ∧ ∀ char ∈ others, char ≠ ':' ∧ endsSvalue char = false) ∨
    (value ≠ [] ∧ blanks.dropWhile (· = ' ') = value)

section Landing

variable {junk : Text}

theorem read_svalue_idle {front : Text} (more svalue : Text) (bare : Bare front) :
    (readSvalue false (front ++ ':' :: more) svalue).value =
      (readSvalue true more svalue).value := by
  induction front with
  | nil => simp [readSvalue, nul]
  | cons char front ih =>
      have mark := bare char List.mem_cons_self
      simp only [List.mem_cons, List.not_mem_nil, or_false, not_or] at mark
      rw [List.cons_append, readSvalue, if_neg (by simp [mark.1, mark.2.2.2])]
      simp only [mark.2.1, decide_false]
      exact ih fun other member => bare other (List.mem_cons_of_mem _ member)

theorem read_svalue_skips {skipped : Text} (more svalue : Text)
    (before : ∀ char ∈ skipped, beforeSvalue char = true) :
    (readSvalue true (skipped ++ more) svalue).value = (readSvalue true more svalue).value := by
  induction skipped with
  | nil => rfl
  | cons char skipped ih =>
      rw [List.cons_append, readSvalue, if_pos (before char List.mem_cons_self)]
      exact ih fun other member => before other (List.mem_cons_of_mem _ member)

/-- Where the loop lands it copies, unless a colon before the next comma makes it copy again. -/
theorem landed_value {char : Char} {rest : Text} (svalue : Text) (visible : nul ∉ char :: rest)
    (settles : Settles false rest) (lands : beforeSvalue char = false) :
    (groups false (reach false rest) = 0 →
      (readSvalue true (char :: (rest ++ nul :: junk)) svalue).value =
        (char :: rest.takeWhile fun next => !endsSvalue next).take dzSvalueLen) ∧
    (groups false (reach false rest) ≠ 0 →
      FreshCopy (readSvalue true (char :: (rest ++ nul :: junk)) svalue).value) := by
  have landed : (readSvalue true (char :: (rest ++ nul :: junk)) svalue).value =
      (readSvalue false (rest ++ nul :: junk)
        (copySvalue (char :: (rest ++ nul :: junk)))).value := by
    rw [readSvalue, if_neg (Bool.eq_false_iff.mp lands)]
  obtain ⟨kept, copied⟩ := @read_svalue_value junk false rest
    (copySvalue (char :: (rest ++ nul :: junk)))
    (fun member => visible (List.mem_cons_of_mem _ member)) settles
  constructor
  · intro none
    rw [landed, kept rfl none, copy_svalue_eq visible]
  · intro some
    rw [landed]
    exact copied (Or.inr (Nat.pos_of_ne_zero some))

end Landing

section Strings

variable {junk trail more raw value : Text}

/-- What follows a string starts no group before the next comma. -/
structure Following (more : Text) : Prop where
  visible : nul ∉ more
  settles : ∀ waiting text, Settles waiting (text ++ more)
  quiet : ∀ text, ':' ∉ text → groups false (reach false (text ++ more)) = 0

theorem field_following (blank : ∀ char ∈ trail, isBlank char = true) (field : Field)
    (rest : List Field) : Following (field.after ++ behind ('}' :: trail) rest) where
  visible := by
    rw [List.mem_append, not_or]
    exact ⟨fun member => bare_of_blank (field_blank field).2.2.2 nul member (by decide),
      nul_not_behind blank rest⟩
  settles waiting text := by
    rw [← List.append_assoc]
    exact settles_behind waiting (text ++ field.after) blank rest
  quiet text plain := by
    have noColon : ':' ∉ text ++ field.after := by
      rw [List.mem_append, not_or]
      exact ⟨plain, fun member =>
        bare_of_blank (field_blank field).2.2.2 ':' member (by decide)⟩
    rw [← List.append_assoc]
    cases rest with
    | nil =>
        refine (no_group_of_no_colon ?_ []).2
        rw [behind, List.mem_append, not_or]
        exact ⟨noColon, fun member => bare_trail blank ':' member (by decide)⟩
    | cons next rest => exact (no_group_of_no_colon noColon _).1

theorem take_short_iff {copy : Text} (short : value.length < dzSvalueLen) :
    copy.take dzSvalueLen = value ↔ copy = value := by
  constructor
  · intro same
    have length := congrArg List.length same
    rw [List.length_take] at length
    rw [List.take_of_length_le (by omega)] at same
    exact same
  · rintro rfl
    exact List.take_of_length_le short.le

/-- The copy does not go over the quote that ends the string. -/
theorem copied_to_quote (text more : Text) :
    ((text ++ '"' :: more).takeWhile fun next => !endsSvalue next) =
      text.takeWhile fun next => !endsSvalue next := by
  induction text with
  | nil => rw [List.nil_append, List.takeWhile_cons_of_neg (by decide), List.takeWhile_nil]
  | cons char text ih =>
      rw [List.cons_append, List.takeWhile_cons, List.takeWhile_cons, ih]

theorem ends_svalue_mark {char : Char} (ends : endsSvalue char = true) : char ∈ marks := by
  simp only [endsSvalue, decide_eq_true_eq] at ends
  rcases ends with rfl | rfl | rfl | rfl <;> decide

theorem takeWhile_plain {text : Text} (plain : ∀ char ∈ text, endsSvalue char = false) :
    (text.takeWhile fun next => !endsSvalue next) = text := by
  refine List.takeWhile_eq_self_iff.mpr fun char member => ?_
  rw [plain char member]
  rfl

/-- A string that is equal to its copy has no mark the copy would end at. -/
theorem copied_whole {first : Char} {others : Text} (spells : Spells (first :: others) value)
    (lands : beforeSvalue first = false)
    (same : (first :: others.takeWhile fun next => !endsSvalue next) = value) :
    ∀ char ∈ others, endsSvalue char = false := by
  intro char member
  by_contra ends
  rw [Bool.not_eq_false] at ends
  have special := ends_svalue_mark ends
  have copied : char ∈ others.takeWhile fun next => !endsSvalue next := by
    by_cases quote : char = '"'
    · subst quote
      have spelled := mark_spelled special spells (List.mem_cons_of_mem _ member)
      rw [← same] at spelled
      refine (List.mem_cons.mp spelled).resolve_left ?_
      rintro rfl
      exact absurd lands (by decide)
    · obtain ⟨head, tail, split, inside⟩ := mark_spelled_behind special quote spells member
      rw [← same] at split
      rw [(List.cons.inj split).2]
      exact inside
  have kept := List.mem_takeWhile_imp copied
  rw [ends] at kept
  exact absurd kept (by decide)

/-- The loop has landed on a blank before the string. -/
theorem landed_blank_iff {char : Char} {blanks : Text} (svalue : Text) (following : Following more)
    (spells : Spells raw value) (short : value.length < dzSvalueLen)
    (blank : ∀ other ∈ char :: blanks, isBlank other = true) (lands : beforeSvalue char = false) :
    (readSvalue true (char :: (blanks ++ '"' :: (raw ++ '"' :: more) ++ nul :: junk))
        svalue).value = value ↔ char :: blanks = value := by
  have bare := bare_of_blank blank
  have shown : nul ∉ char :: (blanks ++ '"' :: (raw ++ '"' :: more)) := by
    have spelled := nul_not_spelled spells
    have first : nul ∉ char :: blanks := fun member => bare nul member (by decide)
    have quote : nul ≠ '"' := by decide
    simp only [List.mem_cons, List.mem_append, not_or] at first ⊢
    exact ⟨first.1, first.2, quote, spelled, quote, following.visible⟩
  have settles : Settles false (blanks ++ '"' :: (raw ++ '"' :: more)) := by
    have whole := following.settles false (blanks ++ '"' :: (raw ++ ['"']))
    simpa using whole
  have noMark : (blanks.takeWhile fun next => !endsSvalue next) = blanks := by
    refine takeWhile_plain fun other member => ?_
    have blankThere := blank other (List.mem_cons_of_mem _ member)
    simp only [isBlank, decide_eq_true_eq] at blankThere
    rcases blankThere with rfl | rfl | rfl | rfl <;> decide
  obtain ⟨kept, copied⟩ := @landed_value junk char _ svalue shown settles lands
  by_cases none : groups false (reach false (blanks ++ '"' :: (raw ++ '"' :: more))) = 0
  · rw [kept none, copied_to_quote, noMark, take_short_iff short]
  · have colon : ':' ∈ raw := by
      by_contra absent
      apply none
      have noColon : ':' ∉ blanks := fun member =>
        bare ':' (List.mem_cons_of_mem _ member) (by decide)
      have quiet := following.quiet (blanks ++ '"' :: (raw ++ ['"'])) (by simp [absent, noColon])
      simpa using quiet
    have spelled := mark_spelled (by decide) spells colon
    constructor
    · intro same
      exact absurd (same ▸ spelled) (fresh_no_colon (copied none))
    · rintro rfl
      exact absurd (by decide) (bare ':' spelled)

/-- The loop has landed on the first character of the string. -/
theorem landed_string_iff {first : Char} {others : Text} (svalue : Text)
    (following : Following more) (spells : Spells (first :: others) value)
    (short : value.length < dzSvalueLen) (lands : beforeSvalue first = false) :
    (readSvalue true (first :: (others ++ '"' :: more ++ nul :: junk)) svalue).value = value ↔
      value = first :: others ∧ ∀ char ∈ others, char ≠ ':' ∧ endsSvalue char = false := by
  have shown : nul ∉ first :: (others ++ '"' :: more) := by
    have spelled := nul_not_spelled spells
    have quote : nul ≠ '"' := by decide
    simp only [List.mem_cons, List.mem_append, not_or] at spelled ⊢
    exact ⟨spelled.1, spelled.2, quote, following.visible⟩
  have settles : Settles false (others ++ '"' :: more) := by
    have whole := following.settles false (others ++ ['"'])
    simpa using whole
  obtain ⟨kept, copied⟩ := @landed_value junk first _ svalue shown settles lands
  by_cases none : groups false (reach false (others ++ '"' :: more)) = 0
  · rw [kept none, copied_to_quote, take_short_iff short]
    constructor
    · intro same
      have noEnd := copied_whole spells lands same
      rw [takeWhile_plain noEnd] at same
      refine ⟨same.symm, fun char member => ⟨?_, noEnd char member⟩⟩
      rintro rfl
      have noComma : ∀ char ∈ others, decide (char ≠ ',') = true := by
        intro char inside
        apply decide_eq_true
        rintro rfl
        exact absurd (noEnd ',' inside) (by decide)
      have plain := no_colon_of_no_group none
      rw [List.takeWhile_append_of_pos noComma] at plain
      exact plain (List.mem_append_left _ member)
    · rintro ⟨same, plain⟩
      rw [same, takeWhile_plain fun char member => (plain char member).2]
  · have colon : ':' ∈ others := by
      by_contra absent
      apply none
      have quiet := following.quiet (others ++ ['"']) (by simp [absent])
      simpa using quiet
    have spelled := mark_spelled (by decide) spells (List.mem_cons_of_mem first colon)
    constructor
    · intro same
      exact absurd (same ▸ spelled) (fresh_no_colon (copied none))
    · rintro ⟨-, noColon⟩
      exact absurd rfl (noColon ':' colon).1

theorem skipped_string (svalue : Text) (following : Following more) (spells : Spells raw value)
    (skipped : ∀ first others, raw = first :: others → beforeSvalue first = true) :
    (readSvalue true (raw ++ '"' :: more ++ nul :: junk) svalue).value ≠ value := by
  have shown : nul ∉ raw ++ '"' :: more := by
    have quote : nul ≠ '"' := by decide
    simp only [List.mem_append, List.mem_cons, not_or]
    exact ⟨nul_not_spelled spells, quote, following.visible⟩
  have settles : Settles true (raw ++ '"' :: more) := by
    have whole := following.settles true (raw ++ ['"'])
    simpa using whole
  obtain ⟨head, tail, result, lands, -⟩ :=
    (@read_svalue_value junk true _ svalue shown settles).2 (Or.inl rfl)
  rw [result]
  cases raw with
  | nil =>
      cases spells
      exact List.cons_ne_nil head tail
  | cons first others =>
      have before := skipped first others rfl
      have noEscape : first ≠ '\\' := by
        rintro rfl
        exact absurd before (by decide)
      obtain ⟨-, later, split⟩ := spelled_head noEscape spells
      rw [split]
      intro same
      rw [(List.cons.inj same).1, before] at lands
      cases lands

theorem read_behind_spaces {blanks : Text} (svalue : Text) (following : Following more)
    (spells : Spells raw value) (short : value.length < dzSvalueLen)
    (spaces : ∀ char ∈ blanks, char = ' ') :
    (readSvalue true (blanks ++ '"' :: (raw ++ '"' :: more) ++ nul :: junk) svalue).value = value ↔
      value = raw ∧ ∃ first others, raw = first :: others ∧ beforeSvalue first = false ∧
        ∀ char ∈ others, char ≠ ':' ∧ endsSvalue char = false := by
  have skips : ∀ char ∈ blanks ++ ['"'], beforeSvalue char = true := by
    intro char member
    rcases List.mem_append.mp member with blank | quote
    · rw [spaces char blank]
      rfl
    · rw [List.mem_singleton.mp quote]
      rfl
  have skipped := read_svalue_skips (raw ++ '"' :: more ++ nul :: junk) svalue skips
  have text : blanks ++ '"' :: (raw ++ '"' :: more) ++ nul :: junk =
      blanks ++ ['"'] ++ (raw ++ '"' :: more ++ nul :: junk) := by
    simp
  rw [text, skipped]
  by_cases lands : ∃ first others, raw = first :: others ∧ beforeSvalue first = false
  · obtain ⟨first, others, rfl, lands⟩ := lands
    rw [List.cons_append, List.cons_append, landed_string_iff svalue following spells short lands]
    constructor
    · rintro ⟨same, plain⟩
      exact ⟨same, first, others, rfl, lands, plain⟩
    · rintro ⟨same, _, _, split, -, plain⟩
      obtain ⟨rfl, rfl⟩ := List.cons.inj split
      exact ⟨same, plain⟩
  · have before : ∀ first others, raw = first :: others → beforeSvalue first = true :=
      fun first others split => by
        by_contra lands'
        exact lands ⟨first, others, split, Bool.eq_false_iff.mpr lands'⟩
    constructor
    · exact fun same => absurd same (skipped_string svalue following spells before)
    · rintro ⟨-, first, others, split, lands', -⟩
      exact absurd ⟨first, others, split, lands'⟩ lands

theorem read_behind_blank {spaces later : Text} {char : Char} (svalue : Text)
    (following : Following more) (spells : Spells raw value) (short : value.length < dzSvalueLen)
    (before : ∀ char ∈ spaces, beforeSvalue char = true)
    (blank : ∀ other ∈ char :: later, isBlank other = true) (noSpace : char ≠ ' ') :
    (readSvalue true (spaces ++ char :: later ++ '"' :: (raw ++ '"' :: more) ++ nul :: junk)
        svalue).value = value ↔ char :: later = value := by
  have lands : beforeSvalue char = false := by
    have blankThere := blank char List.mem_cons_self
    simp only [isBlank, decide_eq_true_eq] at blankThere
    rcases blankThere with rfl | rfl | rfl | rfl
    · exact absurd rfl noSpace
    all_goals decide
  have text : spaces ++ char :: later ++ '"' :: (raw ++ '"' :: more) ++ nul :: junk =
      spaces ++ char :: (later ++ '"' :: (raw ++ '"' :: more) ++ nul :: junk) := by
    simp
  rw [text, read_svalue_skips _ svalue before,
    landed_blank_iff svalue following spells short blank lands]

theorem string_value_waits {field : Field} (rest : List Field) (svalue : Text)
    {spells : Spells raw value} (string : field.value = .string raw value spells) :
    (readSvalue false (stringText trail field rest ++ nul :: junk) svalue).value =
      (readSvalue true (field.afterColon ++ '"' :: (raw ++ '"' :: (field.after ++
        behind ('}' :: trail) rest)) ++ nul :: junk) svalue).value := by
  have text : stringText trail field rest ++ nul :: junk =
      field.beforeColon ++ ':' :: (field.afterColon ++ '"' :: (raw ++ '"' :: (field.after ++
        behind ('}' :: trail) rest)) ++ nul :: junk) := by
    simp [stringText, Field.tail, string, Value.text, quoted]
  rw [text]
  exact read_svalue_idle _ svalue (bare_of_blank (field_blank field).2.1)

theorem string_copied_iff (blank : ∀ char ∈ trail, isBlank char = true) {field : Field}
    (rest : List Field) (svalue : Text) {spells : Spells raw value}
    (string : field.value = .string raw value spells) (short : value.length < dzSvalueLen) :
    (readSvalue false (stringText trail field rest ++ nul :: junk) svalue).value = value ↔
      Copied field.afterColon raw value := by
  have following := field_following blank field rest
  have blanks := (field_blank field).2.2.1
  rw [string_value_waits rest svalue string, Copied]
  cases landing : field.afterColon.dropWhile (· = ' ') with
  | nil =>
      have spaces : ∀ char ∈ field.afterColon, char = ' ' := by simpa using landing
      rw [read_behind_spaces svalue following spells short spaces]
      constructor
      · exact fun copied => Or.inl ⟨spaces, copied⟩
      · rintro (⟨-, copied⟩ | ⟨some, none⟩)
        · exact copied
        · exact absurd none.symm some
  | cons char later =>
      have whole := List.takeWhile_append_dropWhile (p := (· = ' ')) (l := field.afterColon)
      rw [landing] at whole
      have noSpace : char ≠ ' ' := by
        have head := List.head?_dropWhile_not (· = ' ') field.afterColon
        rw [landing] at head
        simpa using head
      have before : ∀ char ∈ field.afterColon.takeWhile (· = ' '), beforeSvalue char = true := by
        intro char member
        have space := List.mem_takeWhile_imp member
        rw [decide_eq_true_eq] at space
        rw [space]
        rfl
      have blankThere : ∀ other ∈ char :: later, isBlank other = true := fun other member =>
        blanks other (whole ▸ List.mem_append_right _ member)
      have read := @read_behind_blank junk _ raw value _ later char svalue following spells short
        before blankThere noSpace
      rw [whole] at read
      rw [read]
      constructor
      · rintro rfl
        exact Or.inr ⟨List.cons_ne_nil char later, rfl⟩
      · rintro (⟨spaces, -⟩ | ⟨-, same⟩)
        · exact absurd (spaces char (whole ▸ List.mem_append_right _ List.mem_cons_self)) noSpace
        · exact same

end Strings

end SprinklerD.DomoticzStrings
