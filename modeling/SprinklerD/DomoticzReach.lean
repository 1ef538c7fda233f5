import SprinklerD.DomoticzScan
import Mathlib.Data.List.TakeWhile

/-!
# How far the string loop reaches

The loop behind the key of the string ends at a comma, but not at one it comes to while it
skips the characters before a value. Then it runs on into the next field. `reach` is the text
it passes, and each group of skipped characters with a colon in it counts as a field found.
-/

namespace SprinklerD.DomoticzReach

open Foundation.CString Foundation.FlatJson
open SprinklerD.Config SprinklerD.DomoticzParser SprinklerD.DomoticzScan

set_option autoImplicit false

/-- A colon has been seen and no character since that a value could begin with. -/
def openAfter (waiting : Bool) (char : Char) : Bool :=
  char = ':' ∨ (waiting = true ∧ beforeSvalue char = true)

/-- The text up to the first comma that does not stand where a value is waited for. -/
def reach : Bool → Text → Text
  | _, [] => []
  | waiting, char :: rest =>
      if char = ',' ∧ waiting = false then [] else char :: reach (openAfter waiting char) rest

def groups : Bool → Text → Nat
  | _, [] => 0
  | waiting, char :: rest =>
      (if char = ':' ∧ waiting = false then 1 else 0) + groups (openAfter waiting char) rest

/-- The comma after this text does not end the loop, nor does one in it. -/
def Passes (text : Text) : Prop := reach false (text ++ [',']) = text ++ [',']

instance (text : Text) : Decidable (Passes text) := inferInstanceAs (Decidable (_ = _))

/-- The fields behind the loop, which begins in `text` and goes on into `fields`. -/
def unreached : Text → List Field → List Field
  | _, [] => []
  | text, field :: rest => if Passes text then unreached field.text rest else field :: rest

section Texts

@[simp] theorem open_after_idle (char : Char) : openAfter false char = decide (char = ':') := by
  simp [openAfter]

@[simp] theorem open_after_waiting (char : Char) : openAfter true char = beforeSvalue char := by
  by_cases colon : char = ':'
  · subst colon
    decide
  · simp [openAfter, colon]

theorem before_svalue_comma : beforeSvalue ',' = false := by decide

def waitingAfter (waiting : Bool) (text : Text) : Bool := text.foldl openAfter waiting

theorem reach_cases (waiting : Bool) (text : Text) :
    text = reach waiting text ∨ ∃ later, text = reach waiting text ++ ',' :: later := by
  induction text generalizing waiting with
  | nil => exact Or.inl rfl
  | cons char rest ih =>
      rw [reach]
      split_ifs with stops
      · exact Or.inr ⟨rest, by rw [stops.1, List.nil_append]⟩
      · rcases ih (openAfter waiting char) with whole | ⟨later, split⟩
        · exact Or.inl (congrArg _ whole)
        · exact Or.inr ⟨later, congrArg (List.cons char) split⟩

theorem reach_append (waiting : Bool) (first second : Text) :
    reach waiting (first ++ second) =
      if reach waiting first = first then first ++ reach (waitingAfter waiting first) second
      else reach waiting first := by
  induction first generalizing waiting with
  | nil => simp [reach, waitingAfter]
  | cons char rest ih =>
      rw [List.cons_append, reach, reach]
      by_cases stops : char = ',' ∧ waiting = false
      · rw [if_pos stops, if_pos stops, if_neg (List.cons_ne_nil char rest).symm]
      · rw [if_neg stops, if_neg stops, ih]
        simp only [List.cons.injEq, true_and, waitingAfter, List.foldl_cons]
        split_ifs <;> rfl

theorem groups_append (waiting : Bool) (first second : Text) :
    groups waiting (first ++ second) =
      groups waiting first + groups (waitingAfter waiting first) second := by
  induction first generalizing waiting with
  | nil => simp [groups, waitingAfter]
  | cons char rest ih =>
      rw [List.cons_append, groups, groups, ih, Nat.add_assoc]
      rfl

theorem waiting_after_comma (waiting : Bool) (text : Text) :
    waitingAfter waiting (text ++ [',']) = false := by
  simp [waitingAfter, openAfter, before_svalue_comma]

/-- Behind a comma that does not end it the loop begins anew. -/
theorem reach_passes {text : Text} (more : Text) (passes : Passes text) :
    reach false (text ++ ',' :: more) = text ++ ',' :: reach false more := by
  have whole : reach false (text ++ [',']) = text ++ [','] := passes
  have split := reach_append false (text ++ [',']) more
  rw [if_pos whole, waiting_after_comma] at split
  simpa using split

theorem groups_passes (text more : Text) :
    groups false (text ++ ',' :: more) = groups false (text ++ [',']) + groups false more := by
  have split := groups_append false (text ++ [',']) more
  rw [waiting_after_comma] at split
  simpa using split

theorem reach_of_no_comma {text : Text} (waiting : Bool) (plain : ',' ∉ text) :
    reach waiting text = text := by
  induction text generalizing waiting with
  | nil => rfl
  | cons char rest ih =>
      have other : char ≠ ',' := fun same => plain (same ▸ List.mem_cons_self)
      rw [reach, if_neg fun stops => other stops.1,
        ih _ fun member => plain (List.mem_cons_of_mem _ member)]

theorem groups_pos {text : Text} (colon : ':' ∈ text) : 1 ≤ groups false text := by
  induction text with
  | nil => exact absurd colon List.not_mem_nil
  | cons char rest ih =>
      rw [groups]
      by_cases here : char = ':'
      · rw [if_pos ⟨here, rfl⟩]
        omega
      · have later := ih ((List.mem_cons.mp colon).resolve_left (Ne.symm here))
        rw [open_after_idle, decide_eq_false here]
        omega

/-- Without a further group there is no colon before the next comma. -/
theorem no_colon_of_no_group {text : Text} (none : groups false (reach false text) = 0) :
    ':' ∉ text.takeWhile (· ≠ ',') := by
  induction text with
  | nil => exact List.not_mem_nil
  | cons char rest ih =>
      rw [reach] at none
      by_cases comma : char = ','
      · simp [comma]
      · rw [if_neg fun stops => comma stops.1, groups] at none
        by_cases colon : char = ':'
        · rw [if_pos ⟨colon, rfl⟩] at none
          omega
        · rw [if_neg fun both => colon both.1, open_after_idle, decide_eq_false colon,
            Nat.zero_add] at none
          rw [List.takeWhile_cons, if_pos (decide_eq_true comma)]
          intro member
          exact (List.mem_cons.mp member).elim (Ne.symm colon) (ih none)

/-- Without a colon there is no group, and the next comma ends the loop. -/
theorem no_group_of_no_colon {text : Text} (plain : ':' ∉ text) (more : Text) :
    groups false (reach false (text ++ ',' :: more)) = 0 ∧ groups false (reach false text) = 0 := by
  induction text with
  | nil => exact ⟨rfl, rfl⟩
  | cons char rest ih =>
      have noColon : char ≠ ':' := fun same => plain (same ▸ List.mem_cons_self)
      have later := ih fun member => plain (List.mem_cons_of_mem _ member)
      rw [List.cons_append, reach, reach, open_after_idle, decide_eq_false noColon]
      split_ifs
      · exact ⟨rfl, rfl⟩
      · simpa [groups, noColon] using later

end Texts

section Loop

variable {junk : Text}

/-- At the end of the text no value is waited for. -/
def Settles (waiting : Bool) (text : Text) : Prop :=
  (waiting = false ∧ ':' ∉ text) ∨ ∃ front trail, text = front ++ '}' :: trail ∧ ':' ∉ trail

theorem settles_step {waiting : Bool} {char : Char} {rest : Text}
    (settles : Settles waiting (char :: rest)) : Settles (openAfter waiting char) rest := by
  rcases settles with ⟨rfl, plain⟩ | ⟨front, trail, split, plain⟩
  · have noColon : char ≠ ':' := fun same => plain (same ▸ List.mem_cons_self)
    exact Or.inl ⟨by simp [noColon], fun member => plain (List.mem_cons_of_mem _ member)⟩
  · cases front with
    | nil =>
        obtain ⟨rfl, rfl⟩ := List.cons.inj split
        exact Or.inl ⟨by cases waiting <;> decide, plain⟩
    | cons first front =>
        obtain ⟨rfl, rfl⟩ := List.cons.inj split
        exact Or.inr ⟨front, trail, rfl, plain⟩

theorem settles_nil {waiting : Bool} (settles : Settles waiting []) : waiting = false := by
  rcases settles with ⟨idle, -⟩ | ⟨front, trail, split, -⟩
  · exact idle
  · simp at split

/-- A step of the loop, as the text it passes sees it. -/
theorem read_svalue_cons (waiting : Bool) {char : Char} (rest svalue : Text)
    (goes : waiting = true ∨ (char ≠ ',' ∧ char ≠ nul)) :
    readSvalue waiting (char :: rest) svalue =
      let landed := waiting = true ∧ beforeSvalue char = false
      let later := readSvalue (openAfter waiting char) rest
        (if landed then copySvalue (char :: rest) else svalue)
      ⟨later.value, later.found + (if landed then 1 else 0), later.length + 1⟩ := by
  cases waiting with
  | true =>
      by_cases before : beforeSvalue char = true
      · simp [readSvalue, before]
      · simp [readSvalue, before]
  | false =>
      obtain ⟨noComma, visible⟩ := goes.resolve_left Bool.false_ne_true
      simp [readSvalue, noComma, visible]

theorem goes_on {waiting : Bool} {char : Char} (visible : char ≠ nul)
    (stops : ¬ (char = ',' ∧ waiting = false)) : waiting = true ∨ (char ≠ ',' ∧ char ≠ nul) := by
  cases waiting with
  | true => exact Or.inl rfl
  | false => exact Or.inr ⟨fun comma => stops ⟨comma, rfl⟩, visible⟩

/-- What the loop counts and how far it goes. -/
theorem read_svalue_reach {waiting : Bool} {text : Text} (svalue : Text) (visible : nul ∉ text)
    (settles : Settles waiting text) :
    (readSvalue waiting (text ++ nul :: junk) svalue).found =
        (if waiting then 1 else 0) + groups waiting (reach waiting text) ∧
      (readSvalue waiting (text ++ nul :: junk) svalue).length = (reach waiting text).length := by
  induction text generalizing waiting svalue with
  | nil =>
      obtain rfl := settles_nil settles
      simp [readSvalue, reach, groups]
  | cons char rest ih =>
      have shown : char ≠ nul := fun same => visible (same ▸ List.mem_cons_self)
      rw [List.cons_append, reach]
      by_cases stops : char = ',' ∧ waiting = false
      · obtain ⟨rfl, rfl⟩ := stops
        simp [readSvalue, groups]
      · have later := fun svalue => ih svalue
          (fun member => visible (List.mem_cons_of_mem _ member)) (settles_step settles)
        rw [read_svalue_cons _ _ _ (goes_on shown stops), if_neg stops, groups]
        simp only [(later _).1, (later _).2, List.length_cons, and_true]
        cases waiting with
        | true =>
            by_cases before : beforeSvalue char = true
            · simp [before]
            · simp [before]
              omega
        | false =>
            by_cases colon : char = ':'
            · simp [colon]
            · simp [colon]

/-- The copy ends with the text, at the first character that ends a value, or when the
buffer is full. -/
theorem copy_svalue_eq {char : Char} {rest : Text} (visible : nul ∉ char :: rest) :
    copySvalue (char :: (rest ++ nul :: junk)) =
      (char :: rest.takeWhile fun next => !endsSvalue next).take dzSvalueLen := by
  have shown : ∀ next ∈ rest, decide (next ≠ nul) = true := fun next member =>
    decide_eq_true fun same => visible (same ▸ List.mem_cons_of_mem _ member)
  have first : decide (char ≠ nul) = true :=
    decide_eq_true fun same => visible (same ▸ List.mem_cons_self)
  have whole : (rest ++ nul :: junk).takeWhile (· ≠ nul) = rest := by
    rw [List.takeWhile_append_of_pos shown, List.takeWhile_cons_of_neg (by simp), List.append_nil]
  have ended : cString ((rest ++ nul :: junk).takeWhile fun next => !endsSvalue next) =
      rest.takeWhile fun next => !endsSvalue next := by
    conv_rhs => rw [← whole]
    rw [cString, List.takeWhile_takeWhile, List.takeWhile_takeWhile]
    congr 1
    funext next
    exact decide_eq_decide.mpr and_comm
  rw [copySvalue, cString, ← List.take_takeWhile, List.takeWhile_cons, if_pos first]
  rw [cString] at ended
  rw [ended]

/-- A copy from where a value begins, which ends before the next colon. -/
def FreshCopy (copy : Text) : Prop :=
  ∃ first others, copy = first :: others ∧ beforeSvalue first = false ∧ ':' ∉ others

theorem fresh_no_colon {copy : Text} (fresh : FreshCopy copy) : ':' ∉ copy := by
  obtain ⟨first, others, rfl, lands, plain⟩ := fresh
  have other : ':' ≠ first := by
    rintro rfl
    exact absurd lands (by decide)
  exact fun member => plain ((List.mem_cons.mp member).resolve_left other)

theorem copy_fresh {char : Char} {rest : Text} (visible : nul ∉ char :: rest)
    (lands : beforeSvalue char = false) (plain : ':' ∉ rest.takeWhile (· ≠ ',')) :
    FreshCopy (copySvalue (char :: (rest ++ nul :: junk))) := by
  rw [copy_svalue_eq visible, dzSvalueLen, List.take_succ_cons]
  refine ⟨char, _, rfl, lands, fun member => plain ?_⟩
  have inside : (rest.takeWhile (· ≠ ',')).takeWhile (fun next => !endsSvalue next) =
      rest.takeWhile fun next => !endsSvalue next := by
    rw [List.takeWhile_takeWhile]
    congr 1
    funext next
    by_cases comma : next = ','
    · subst comma
      decide
    · simp [comma]
  have kept := List.mem_of_mem_take member
  rw [← inside] at kept
  exact (List.takeWhile_prefix _).subset kept

/-- What the loop leaves in the buffer: what was there, or a fresh copy. -/
theorem read_svalue_value {waiting : Bool} {text : Text} (svalue : Text) (visible : nul ∉ text)
    (settles : Settles waiting text) :
    (waiting = false → groups waiting (reach waiting text) = 0 →
      (readSvalue waiting (text ++ nul :: junk) svalue).value = svalue) ∧
    ((waiting = true ∨ 0 < groups waiting (reach waiting text)) →
      FreshCopy (readSvalue waiting (text ++ nul :: junk) svalue).value) := by
  induction text generalizing waiting svalue with
  | nil =>
      obtain rfl := settles_nil settles
      simp [readSvalue, reach, groups]
  | cons char rest ih =>
      have shown : char ≠ nul := fun same => visible (same ▸ List.mem_cons_self)
      rw [List.cons_append, reach]
      by_cases stops : char = ',' ∧ waiting = false
      · obtain ⟨rfl, rfl⟩ := stops
        simp [readSvalue, groups]
      · have later := fun svalue => ih svalue
          (fun member => visible (List.mem_cons_of_mem _ member)) (settles_step settles)
        rw [read_svalue_cons _ _ _ (goes_on shown stops), if_neg stops, groups]
        cases waiting with
        | true =>
            refine ⟨fun idle => absurd idle Bool.true_eq_false.mp, fun _ => ?_⟩
            rw [open_after_waiting] at later ⊢
            cases lands : beforeSvalue char with
            | true =>
                rw [lands] at later
                exact (later _).2 (Or.inl rfl)
            | false =>
                rw [lands] at later
                simp only [and_self, if_true]
                by_cases last : groups false (reach false rest) = 0
                · rw [(later _).1 rfl last]
                  exact copy_fresh visible lands (no_colon_of_no_group last)
                · exact (later _).2 (Or.inr (Nat.pos_of_ne_zero last))
        | false =>
            rw [open_after_idle] at later ⊢
            by_cases colon : char = ':'
            · subst colon
              exact ⟨fun _ none => by simp at none, fun _ => (later _).2 (Or.inl rfl)⟩
            · rw [decide_eq_false colon] at later ⊢
              simp only [Bool.false_eq_true, colon, false_and, if_false, false_or, true_implies,
                Nat.zero_add]
              exact ⟨(later _).1 rfl, fun some => (later _).2 (Or.inr some)⟩

end Loop

section Fields

variable {junk trail : Text}

/-- The part of an object where the loop ends, and the scan goes on behind it. -/
structure Crossable (text : Text) : Prop where
  visible : nul ∉ text
  unnamed : ∀ first second, text = first ++ ',' :: second →
    ∀ (trail : Text) rest, Unnamed second (behind ('}' :: trail) rest)

theorem field_crossable {field : Field} (plain : PlainField field) : Crossable field.text where
  visible := nul_not_in_text field
  unnamed _ _ split _ rest := behind_comma_unnamed plain rest split

theorem tail_crossable {field : Field} (plain : PlainField field) : Crossable field.tail where
  visible := nul_not_in_tail field
  unnamed first second split trail rest := by
    have unnamed := @tail_unnamed trail field rest plain.string
    rw [split, ← List.singleton_append, ← List.append_assoc] at unnamed
    exact unnamed_suffix unnamed

theorem scan_behind_comma {text : Text} {found : Nat} (rest : List Field)
    (crossable : Crossable text) (stops : reach false text ≠ text) (request : DomoticzRequest)
    (few : found < 4) :
    scanText junk ((text ++ behind ('}' :: trail) rest).drop
        ((reach false (text ++ behind ('}' :: trail) rest)).length + 1)) found request =
      scanText junk (fieldsText ('}' :: trail) rest) found request := by
  obtain ⟨left, split⟩ := (reach_cases false text).resolve_left stops.symm
  rw [reach_append, if_neg stops]
  generalize reach false text = passed at split
  have unnamed := crossable.unnamed passed left split trail rest
  have visible := crossable.visible
  rw [split, List.append_assoc, List.drop_length_add_append, List.cons_append, List.drop_one,
    List.tail_cons]
  apply scan_rest_of_field rest request few _ unnamed
  rw [split] at visible
  exact fun member => visible (List.mem_append_right _ (List.mem_cons_of_mem _ member))

theorem unreached_nil (text : Text) : unreached text [] = [] := by
  unfold unreached
  rfl

/-- The loop comes to the end of a text, and ends at the comma behind it. -/
theorem reach_of_not_passes {text : Text} (more : Text) (whole : reach false text = text)
    (ends : ¬ Passes text) : reach false (text ++ ',' :: more) = text := by
  have idle : waitingAfter false text = false := by
    cases waiting : waitingAfter false text with
    | false => rfl
    | true =>
        apply absurd _ ends
        unfold Passes
        rw [reach_append, if_pos whole, waiting]
        rfl
  rw [reach_append, if_pos whole, idle, reach, if_pos ⟨rfl, rfl⟩, List.append_nil]

theorem scan_behind_reach {text : Text} {found : Nat} (rest : List Field)
    (plain : ∀ field ∈ rest, PlainField field) (crossable : Crossable text)
    (blank : ∀ char ∈ trail, isBlank char = true) (request : DomoticzRequest) (few : found < 4) :
    scanText junk ((text ++ behind ('}' :: trail) rest).drop
        ((reach false (text ++ behind ('}' :: trail) rest)).length + 1)) found request =
      scanText junk (fieldsText ('}' :: trail) (unreached text rest)) found request := by
  induction rest generalizing text with
  | nil =>
      rw [unreached_nil]
      by_cases whole : reach false text = text
      · have noComma : ',' ∉ '}' :: trail := fun member => bare_trail blank ',' member (by decide)
        rw [behind, reach_append, if_pos whole, reach_of_no_comma _ noComma,
          List.drop_of_length_le (Nat.le_succ _), scan_end, fieldsText,
          scan_bare (bare_trail blank) few]
      · exact scan_behind_comma [] crossable whole request few
  | cons field rest ih =>
      rw [unreached]
      by_cases passes : Passes text
      · have next := @ih field.text
          (fun other member => plain other (List.mem_cons_of_mem _ member))
          (field_crossable (plain field List.mem_cons_self))
        rw [if_pos passes, behind, reach_passes _ passes, fields_text_cons, ← next]
        simp only [List.length_append, List.length_cons]
        rw [Nat.add_assoc, List.drop_length_add_append, List.drop_succ_cons]
      · rw [if_neg passes]
        by_cases whole : reach false text = text
        · rw [behind, reach_of_not_passes _ whole passes, List.drop_length_add_append,
            List.drop_one, List.tail_cons]
        · exact scan_behind_comma (field :: rest) crossable whole request few

theorem behind_closes (rest : List Field) :
    ∃ front, behind ('}' :: trail) rest = front ++ '}' :: trail := by
  induction rest with
  | nil => exact ⟨[], rfl⟩
  | cons field rest ih =>
      obtain ⟨front, closes⟩ := ih
      refine ⟨',' :: (field.text ++ front), ?_⟩
      rw [behind, fields_text_cons, closes, List.cons_append, List.append_assoc]

theorem nul_not_behind (blank : ∀ char ∈ trail, isBlank char = true) (rest : List Field) :
    nul ∉ behind ('}' :: trail) rest := by
  induction rest with
  | nil => exact fun member => bare_trail blank nul member (by decide)
  | cons field rest ih =>
      have comma : nul ≠ ',' := by decide
      rw [behind, fields_text_cons, List.mem_cons, List.mem_append, not_or, not_or]
      exact ⟨comma, nul_not_in_text field, ih⟩

theorem settles_behind (waiting : Bool) (text : Text)
    (blank : ∀ char ∈ trail, isBlank char = true) (rest : List Field) :
    Settles waiting (text ++ behind ('}' :: trail) rest) := by
  obtain ⟨front, closes⟩ := @behind_closes trail rest
  refine Or.inr ⟨text ++ front, trail, ?_, fun member => bare_of_blank blank ':' member (by decide)⟩
  rw [closes, List.append_assoc]

def stringText (trail : Text) (field : Field) (rest : List Field) : Text :=
  field.tail ++ behind ('}' :: trail) rest

theorem nul_not_in_string_text (blank : ∀ char ∈ trail, isBlank char = true) (field : Field)
    (rest : List Field) : nul ∉ stringText trail field rest := by
  rw [stringText, List.mem_append, not_or]
  exact ⟨nul_not_in_tail field, nul_not_behind blank rest⟩

theorem scan_svalue_field {field : Field} {found : Nat} (rest : List Field)
    (named : quoted field.key = svalue2Name) (plain : ∀ other ∈ field :: rest, PlainField other)
    (blank : ∀ char ∈ trail, isBlank char = true) (request : DomoticzRequest) (few : found < 4) :
    ∃ svalue, svalue =
        (readSvalue false (stringText trail field rest ++ nul :: junk) request.svalue).value ∧
      scanText junk (field.text ++ behind ('}' :: trail) rest) found request =
        if 4 ≤ found + groups false (reach false (stringText trail field rest)) then
          (true, { request with svalue := svalue })
        else scanText junk (fieldsText ('}' :: trail) (unreached field.tail rest))
          (found + groups false (reach false (stringText trail field rest)))
          { request with svalue := svalue } := by
  refine ⟨_, rfl, ?_⟩
  obtain ⟨counted, passed⟩ := @read_svalue_reach junk false (stringText trail field rest)
    request.svalue (nul_not_in_string_text blank field rest)
    (settles_behind false field.tail blank rest)
  have later := fun request found few => @scan_behind_reach junk trail field.tail found rest
    (fun other member => plain other (List.mem_cons_of_mem _ member))
    (tail_crossable (plain field List.mem_cons_self)) blank request few
  have leads := @read_quoted_svalue found (quoted field.key)
    (stringText trail field rest ++ nul :: junk) request named
  rw [counted, passed, if_neg Bool.false_ne_true, Nat.zero_add] at leads
  rw [scan_named_field few leads]
  split_ifs with enough
  · rfl
  · exact later _ _ (by omega)

/-- A number the loop has run over has given it a field more. -/
theorem hidden_number {text : Text} {rest : List Field} {number : Field} (inside : number ∈ rest)
    (hidden : number ∉ unreached text rest) (noComma : ',' ∉ number.text) :
    Passes text ∧ 1 ≤ groups false (reach false (fieldsText ('}' :: trail) rest)) := by
  induction rest generalizing text with
  | nil => exact absurd inside List.not_mem_nil
  | cons field rest ih =>
      rw [unreached] at hidden
      by_cases passes : Passes text
      · rw [if_pos passes] at hidden
        refine ⟨passes, ?_⟩
        rw [fields_text_cons]
        rcases List.mem_cons.mp inside with rfl | later
        · have whole := reach_append false number.text (behind ('}' :: trail) rest)
          rw [if_pos (reach_of_no_comma false noComma)] at whole
          rw [whole, groups_append]
          have colon : ':' ∈ number.text := by simp [Field.text, Field.tail]
          have counted := groups_pos colon
          omega
        · obtain ⟨goesOn, counted⟩ := ih later hidden
          cases rest with
          | nil => exact absurd later List.not_mem_nil
          | cons next rest =>
              rw [behind, reach_passes _ goesOn, groups_passes]
              omega
      · rw [if_neg passes] at hidden
        exact absurd inside hidden

end Fields

end SprinklerD.DomoticzReach
