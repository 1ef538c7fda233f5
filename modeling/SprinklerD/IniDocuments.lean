import SprinklerD.MinIni
import Mathlib.Data.Bool.AllAny

/-!
# Configuration documents

A configuration as its author sees it: sections with entries, and remarks between them.
Written out line by line, with blanks and comments wherever the reader allows them, it is
read back entry by entry. Names of sections and of keys are compared without regard to case,
and the first of several is the one that counts.
-/

namespace SprinklerD.IniDocuments

open Foundation.CString Foundation.LineReader
open SprinklerD.Config SprinklerD.MinIni

set_option autoImplicit false

section Documents

inductive IniValue where
  | plain (text : Text)
  | quoted (text : Text)
deriving DecidableEq

def IniValue.text : IniValue → Text
  | .plain text => text
  | .quoted text => text

/-- The blanks of a line are those in front of the key, on both sides of the equal sign and
behind the value. -/
structure IniEntry where
  lead : Text
  key : Text
  gap : Text
  after : Text
  value : IniValue
  trail : Text
  comment : Text

inductive IniLine where
  | header (lead name behind : Text)
  | entry (setting : IniEntry)
  | remark (text : Text)

abbrev Document := List IniLine

/-- Within quotes a quote is written with a backslash in front of it. -/
def escaped (text : Text) : Text :=
  text.flatMap fun char => if char = '"' then ['\\', '"'] else [char]

def IniValue.written : IniValue → Text
  | .plain text => text
  | .quoted text => '"' :: (escaped text ++ ['"'])

/-- What stands behind the equal sign and the blanks that follow it. -/
def IniEntry.assigned (entry : IniEntry) : Text :=
  entry.value.written ++ (entry.trail ++ entry.comment)

def IniLine.text : IniLine → Text
  | .header lead name behind => lead ++ '[' :: (name ++ ']' :: behind)
  | .entry setting =>
      setting.lead ++ (setting.key ++
        (setting.gap ++ '=' :: (setting.after ++ setting.assigned)))
  | .remark text => text

def documentText (document : Document) : Text :=
  (document.map IniLine.text).flatMap (· ++ ['\n'])

def sameName (first second : Text) : Bool :=
  first.map Char.toLower = second.map Char.toLower

def areaOf (name : Text) : Document → Option Document
  | [] => none
  | .header _ other _ :: lines => if sameName other name then some lines else areaOf name lines
  | _ :: lines => areaOf name lines

def valueIn (key : Text) : Document → Option Text
  | [] => none
  | .header _ _ _ :: _ => none
  | .entry setting :: lines =>
      if sameName setting.key key then some setting.value.text else valueIn key lines
  | .remark _ :: lines => valueIn key lines

/-- Without a name the entries in front of the first header are meant. -/
def lookup (document : Document) (name key : Text) : Option Text :=
  (if name = [] then some document else areaOf name document).bind (valueIn key)

end Documents

section WellFormed

/-- Neither the end of a string nor the end of a line. -/
def Visible (text : Text) : Prop := nul ∉ text ∧ '\n' ∉ text

def Blank (text : Text) : Prop := ∀ char ∈ text, isBlank char = true

/-- Blanks at either end would not be told from those around. -/
def Trimmed (text : Text) : Prop :=
  (∀ char ∈ text.head?, isBlank char = false) ∧ ∀ char ∈ text.getLast?, isBlank char = false

def isMark (char : Char) : Bool := char = ';' ∨ char = '#'

/-- A quoted text that ends in a backslash seems to go on behind its closing quote, which
matters as soon as something is to be left out there. -/
def ValueOk (comment : Text) : IniValue → Prop
  | .plain text =>
      Trimmed text ∧ ∀ char ∈ text, char ≠ '"' ∧ isMark char = false
  | .quoted text => comment ≠ [] → text.getLast? ≠ some '\\'

structure EntryOk (entry : IniEntry) : Prop where
  lead : Blank entry.lead
  named : entry.key ≠ []
  trimmed : Trimmed entry.key
  key : ∀ char ∈ entry.key.head?, char ≠ '[' ∧ isMark char = false
  closed : '=' ∉ entry.key
  gap : Blank entry.gap
  after : Blank entry.after
  value : ValueOk entry.comment entry.value
  trail : Blank entry.trail
  comment : ∀ char ∈ entry.comment.head?, isMark char = true

/-- A line is read whole if it goes into the buffer with its end and the terminator. -/
structure LineOk (line : IniLine) : Prop where
  visible : Visible line.text
  fits : line.text.length < iniBuffersize - 1
  formed : match line with
    | .header lead _ behind => Blank lead ∧ ']' ∉ behind
    | .entry setting => EntryOk setting
    | .remark text => ∀ char ∈ (skipleading text).head?, isMark char = true

end WellFormed

section Blanks

variable {text back : Text}

theorem skipleading_blank (blank : Blank text) (back : Text) :
    skipleading (text ++ back) = skipleading back :=
  List.dropWhile_append_of_pos blank

theorem skipleading_solid (solid : ∀ char ∈ text.head?, isBlank char = false) :
    skipleading text = text := by
  cases text with
  | nil => rfl
  | cons char rest =>
      exact List.dropWhile_cons_of_neg (ne_true_of_eq_false (solid char rfl))

theorem skiptrailing_blank (text : Text) (blank : Blank back) :
    skiptrailing (text ++ back) = skiptrailing text := by
  induction back using List.reverseRecOn with
  | nil => rw [List.append_nil]
  | append_singleton back char ih =>
      have last := blank char (List.mem_append_right back List.mem_cons_self)
      have before := ih fun other member => blank other (List.mem_append_left [char] member)
      rw [← List.append_assoc, skiptrailing, List.rdropWhile_concat_pos _ _ _ last]
      exact before

theorem skiptrailing_solid (solid : ∀ char ∈ text.getLast?, isBlank char = false) :
    skiptrailing text = text := by
  apply List.rdropWhile_eq_self_iff.mpr
  intro some
  exact ne_true_of_eq_false (solid _ (List.getLast?_eq_some_getLast some))

theorem blank_append (front : Blank text) (rear : Blank back) : Blank (text ++ back) := by
  intro char member
  exact (List.mem_append.mp member).elim (front char) (rear char)

theorem newline_blank : Blank ['\n'] := by
  intro char member
  rw [List.mem_singleton.mp member]
  decide

end Blanks

section Names

/-- `strncasecmp` over the length of the name, with a key of that length in front of whatever
stands behind it. -/
theorem compared_name {text name : Text} (visible : nul ∉ text) (shown : nul ∉ name)
    (length : text.length = name.length) (back : Text) :
    strncasecmpEqual (text ++ back) name name.length = sameName text name := by
  have whole : compared name.length (text ++ back) = text := by
    have plain : ∀ char ∈ text, decide (char ≠ nul) = true :=
      fun char member => decide_eq_true fun same => visible (same ▸ member)
    rw [compared, cString, List.takeWhile_append_of_pos plain, List.append_assoc, ← length]
    exact List.take_left
  have word : compared name.length name = name := by
    have plain : ∀ char ∈ name, decide (char ≠ nul) = true :=
      fun char member => decide_eq_true fun same => shown (same ▸ member)
    rw [compared, cString, List.takeWhile_eq_self_iff.mpr plain]
    exact List.take_left
  rw [strncasecmpEqual, whole, word, sameName]

theorem same_name_length {first second : Text} (same : sameName first second = true) :
    first.length = second.length := by
  have lengths := congrArg List.length (of_decide_eq_true same)
  rwa [List.length_map, List.length_map] at lengths

end Names

section Comments

variable {text back : Text}

/-- What is neither a quote nor the beginning of a comment is passed. -/
theorem uncommented_plain (plain : ∀ char ∈ text, char ≠ '"' ∧ isMark char = false)
    (apart : back.head? ≠ some '"') :
    uncommented false false (text ++ back) = text ++ uncommented false false back := by
  induction text with
  | nil => rfl
  | cons char rest ih =>
      have later := ih fun other member => plain other (List.mem_cons_of_mem char member)
      have first := plain char List.mem_cons_self
      have noMark : ¬((char = ';' ∨ char = '#') ∧ false = false) :=
        fun marked => absurd (of_decide_eq_false first.2) (not_not_intro marked.1)
      have noPair : ¬((char = '"' ∨ char = '\\') ∧ (rest ++ back).head? = some '"') := by
        rintro ⟨-, next⟩
        cases rest with
        | nil => exact apart next
        | cons other rest =>
            exact (plain other (List.mem_cons_of_mem char List.mem_cons_self)).1
              (Option.some.inj next)
      rw [List.cons_append, uncommented, if_neg noMark, if_neg noPair, if_neg first.1, later]
      rfl

theorem blank_plain (blank : Blank text) :
    ∀ char ∈ text, char ≠ '"' ∧ isMark char = false := by
  intro char member
  have low := blank char member
  constructor
  · rintro rfl
    exact absurd low (by decide)
  · apply decide_eq_false
    rintro (rfl | rfl)
    · exact absurd low (by decide)
    · exact absurd low (by decide)

theorem rest_begins {comment : Text} (trail : Blank text)
    (marked : ∀ char ∈ comment.head?, isMark char = true) :
    (text ++ (comment ++ ['\n'])).head? ≠ some '"' := by
  intro same
  cases text with
  | cons char rest =>
      exact (blank_plain trail char List.mem_cons_self).1 (Option.some.inj same)
  | nil =>
      cases comment with
      | nil => exact absurd (Option.some.inj same) (by decide)
      | cons char rest =>
          have mark := marked char rfl
          rw [Option.some.inj same] at mark
          exact absurd mark (by decide)

/-- The end of a line, from the blanks behind the value on: a comment is cut off. -/
theorem uncommented_rest {comment : Text} (trail : Blank text)
    (marked : ∀ char ∈ comment.head?, isMark char = true) :
    Blank (uncommented false false (text ++ (comment ++ ['\n']))) := by
  have none : Blank [] := fun _ member => absurd member List.not_mem_nil
  have apart : (comment ++ ['\n']).head? ≠ some '"' := rest_begins none marked
  rw [uncommented_plain (blank_plain trail) apart]
  cases comment with
  | nil => exact blank_append trail newline_blank
  | cons char rest =>
      have mark : (char = ';' ∨ char = '#') ∧ false = false :=
        ⟨of_decide_eq_true (marked char rfl), rfl⟩
      rw [List.cons_append, uncommented, if_pos mark, List.append_nil]
      exact trail

theorem escaped_cons (char : Char) (rest : Text) :
    escaped (char :: rest) = (if char = '"' then ['\\', '"'] else [char]) ++ escaped rest :=
  List.flatMap_cons

theorem escaped_begins (some : text ≠ []) (back : Text) :
    (escaped text ++ back).head? ≠ Option.some '"' := by
  cases text with
  | nil => exact absurd rfl some
  | cons char rest =>
      rw [escaped_cons]
      split_ifs with quote
      · exact fun same => absurd (Option.some.inj same) (by decide)
      · exact fun same => quote (Option.some.inj same)

theorem escaped_no_quote (text : Text) : (escaped text).head? ≠ some '"' := by
  cases text with
  | nil => decide
  | cons char rest =>
      have begins := escaped_begins (List.cons_ne_nil char rest) []
      rwa [List.append_nil] at begins

/-- Within quotes everything is passed. The last backslash is special only in front of a
quote. -/
theorem uncommented_escaped (apart : text.getLast? = some '\\' → back.head? ≠ some '"') :
    uncommented true false (escaped text ++ back) =
      escaped text ++ uncommented true false back := by
  induction text with
  | nil => rfl
  | cons char rest ih =>
      have later : uncommented true false (escaped rest ++ back) =
          escaped rest ++ uncommented true false back := by
        apply ih
        intro last
        apply apart
        rw [List.getLast?_cons, last, Option.getD_some]
      rw [escaped_cons]
      split_ifs with quote
      · have noMark (char : Char) : ¬((char = ';' ∨ char = '#') ∧ true = false) :=
          fun marked => absurd marked.2 (by decide)
        simp only [List.cons_append, List.nil_append]
        rw [uncommented, if_neg (noMark _), if_pos ⟨Or.inr rfl, rfl⟩, uncommented, later]
      · have noMark : ¬((char = ';' ∨ char = '#') ∧ true = false) :=
          fun marked => absurd marked.2 (by decide)
        have noPair : ¬((char = '"' ∨ char = '\\') ∧ (escaped rest ++ back).head? = some '"') := by
          rintro ⟨quoted | backslash, next⟩
          · exact quote quoted
          · cases rest with
            | nil => exact apart (congrArg some backslash) next
            | cons other rest => exact escaped_begins (List.cons_ne_nil other rest) back next
        rw [List.singleton_append, List.cons_append, uncommented, if_neg noMark, if_neg noPair,
          if_neg quote, later]
        rfl

end Comments

section Values

variable {text trail comment : Text}

theorem dequoted_escaped (room : Nat) (text : Text) :
    dequoted room (escaped text) = text.take room := by
  induction text generalizing room with
  | nil => cases room <;> rfl
  | cons char rest ih =>
      cases room with
      | zero => rfl
      | succ room =>
          rw [escaped_cons, List.take_succ_cons]
          split_ifs with quote
          · rw [List.cons_append, dequoted, if_pos ⟨Or.inr rfl, rfl⟩, quote]
            exact congrArg (List.cons '"') (ih room)
          · have single : ¬((char = '"' ∨ char = '\\') ∧ (escaped rest).head? = some '"') :=
              fun pair => escaped_no_quote rest pair.2
            rw [List.singleton_append, dequoted, if_neg single, ih room]

theorem stripped (blank : Blank trail)
    (solid : ∀ char ∈ text.getLast?, isBlank char = false) :
    striptrailing (text ++ trail) = text := by
  rw [striptrailing, skiptrailing_blank text blank, skiptrailing_solid solid]

theorem clean_plain (value : ValueOk comment (.plain text)) (blank : Blank trail)
    (marked : ∀ char ∈ comment.head?, isMark char = true) :
    cleanstring (text ++ (trail ++ (comment ++ ['\n']))) = (text, .quoteNone) := by
  obtain ⟨trimmed, plain⟩ := value
  have unquoted : text.head? ≠ some '"' :=
    fun first => (plain '"' (List.mem_of_mem_head? first)).1 rfl
  rw [cleanstring, uncommented_plain plain (rest_begins blank marked),
    stripped (uncommented_rest blank marked) trimmed.2]
  exact if_neg fun quoted => unquoted quoted.1

theorem uncommented_inside (blank : Blank text) : uncommented true false text = text := by
  have same : escaped text = text := by
    have each : ∀ char ∈ text, (if char = '"' then ['\\', '"'] else [char]) = [char] :=
      fun char member => if_neg (blank_plain blank char member).1
    rw [escaped, List.flatMap_congr each, List.flatMap_singleton']
  have passed := @uncommented_escaped text [] fun _ => by decide
  rw [same, List.append_nil] at passed
  rw [passed]
  exact List.append_nil text

/-- The closing quote is passed, and what is left behind it is blank. -/
theorem uncommented_closing (value : ValueOk comment (.quoted text)) (blank : Blank trail)
    (marked : ∀ char ∈ comment.head?, isMark char = true) :
    ∃ left, Blank left ∧
      uncommented false false ('"' :: (escaped text ++ '"' :: (trail ++ (comment ++ ['\n'])))) =
        '"' :: (escaped text ++ '"' :: left) := by
  have rest := uncommented_rest blank marked
  have noMark (isString : Bool) : ¬(('"' = ';' ∨ '"' = '#') ∧ isString = false) := by
    rintro ⟨semicolon | hash, -⟩
    · exact absurd semicolon (by decide)
    · exact absurd hash (by decide)
  by_cases none : text = []
  · subst none
    refine ⟨_, rest, ?_⟩
    rw [uncommented, if_neg (noMark false), if_pos ⟨Or.inl rfl, rfl⟩]
    rfl
  have opens : uncommented false false
      ('"' :: (escaped text ++ '"' :: (trail ++ (comment ++ ['\n'])))) =
        '"' :: uncommented true false (escaped text ++ '"' :: (trail ++ (comment ++ ['\n']))) := by
    have single : ¬(('"' = '"' ∨ '"' = '\\') ∧
        (escaped text ++ '"' :: (trail ++ (comment ++ ['\n']))).head? = some '"') :=
      fun pair => escaped_begins none _ pair.2
    rw [uncommented, if_neg (noMark false), if_neg single]
    rfl
  rw [opens]
  by_cases backslash : text.getLast? = some '\\'
  · have bare : comment = [] := by
      by_contra some
      exact value some backslash
    obtain ⟨front, rfl⟩ := List.getLast?_eq_some_iff.mp backslash
    subst bare
    refine ⟨trail ++ ['\n'], blank_append blank newline_blank, ?_⟩
    have last : escaped (front ++ ['\\']) = escaped front ++ ['\\'] := List.flatMap_append
    rw [last, List.append_assoc, uncommented_escaped fun _ => by
        exact fun same => absurd (Option.some.inj same) (by decide), List.singleton_append,
      uncommented, if_neg fun marked => absurd marked.2 (by decide), if_pos ⟨Or.inr rfl, rfl⟩,
      uncommented, List.nil_append,
      uncommented_inside (blank_append blank newline_blank), List.append_assoc]
    rfl
  · refine ⟨_, rest, ?_⟩
    have single : ¬(('"' = '"' ∨ '"' = '\\') ∧
        (trail ++ (comment ++ ['\n'])).head? = some '"') :=
      fun pair => rest_begins blank marked pair.2
    rw [uncommented_escaped fun last => absurd last backslash, uncommented,
      if_neg (noMark true), if_neg single]
    rfl

theorem clean_quoted (value : ValueOk comment (.quoted text)) (blank : Blank trail)
    (marked : ∀ char ∈ comment.head?, isMark char = true) :
    cleanstring ('"' :: (escaped text ++ '"' :: (trail ++ (comment ++ ['\n'])))) =
      (escaped text, .quoteDequote) := by
  obtain ⟨left, leftBlank, passed⟩ := uncommented_closing value blank marked
  have ends : ('"' :: escaped text ++ ['"']).getLast? = some '"' := List.getLast?_concat
  have solid : ∀ char ∈ ('"' :: escaped text ++ ['"']).getLast?, isBlank char = false := by
    intro char last
    rw [ends] at last
    cases last
    decide
  have kept : striptrailing ('"' :: (escaped text ++ '"' :: left)) =
      '"' :: escaped text ++ ['"'] := by
    rw [← stripped leftBlank solid, List.append_assoc]
    rfl
  rw [cleanstring, passed, kept, if_pos ⟨rfl, ends⟩, List.cons_append, List.tail_cons,
    List.dropLast_concat]

/-- The end of `getkeystring` on the text behind the equal sign of an entry. -/
theorem value_reads_back {entry : IniEntry} (ok : EntryOk entry) (size : Nat) :
    iniStrncpy (cleanstring (skipleading (entry.after ++ (entry.assigned ++ ['\n'])))).1 size
      (cleanstring (skipleading (entry.after ++ (entry.assigned ++ ['\n'])))).2 =
      entry.value.text.take (size - 1) := by
  obtain ⟨lead, key, gap, after, value, trail, comment⟩ := entry
  have valued : ValueOk comment value := ok.value
  have blank : Blank trail := ok.trail
  have marked : ∀ char ∈ comment.head?, isMark char = true := ok.comment
  rw [skipleading_blank ok.after, IniEntry.assigned, List.append_assoc, List.append_assoc]
  cases value with
  | quoted text =>
      have opened : skipleading ('"' :: (escaped text ++ '"' ::
          (trail ++ (comment ++ ['\n'])))) =
          '"' :: (escaped text ++ '"' :: (trail ++ (comment ++ ['\n']))) :=
        skipleading_solid fun char first => by cases first; decide
      have whole : IniValue.written (.quoted text) ++ (trail ++ (comment ++ ['\n'])) =
          '"' :: (escaped text ++ '"' :: (trail ++ (comment ++ ['\n']))) := by
        rw [IniValue.written, List.cons_append, List.append_assoc, List.singleton_append]
      rw [whole, opened, clean_quoted valued blank marked]
      exact dequoted_escaped (size - 1) text
  | plain text =>
      rw [IniValue.written]
      by_cases none : text = []
      · subst none
        rw [List.nil_append, skipleading_blank blank]
        have bare : cleanstring (skipleading (comment ++ ['\n'])) = ([], .quoteNone) := by
          cases comment with
          | nil => rfl
          | cons char rest =>
              have solid : isBlank char = false := by
                rcases of_decide_eq_true (marked char rfl) with rfl | rfl
                · decide
                · decide
              have begun : skipleading (char :: rest ++ ['\n']) = char :: rest ++ ['\n'] :=
                skipleading_solid fun other first => by cases first; exact solid
              rw [begun]
              exact @clean_plain [] [] (char :: rest) valued
                (fun _ member => absurd member List.not_mem_nil) marked
        rw [bare]
        rfl
      · have solid : ∀ char ∈ (text ++ (trail ++ (comment ++ ['\n']))).head?,
            isBlank char = false := by
          intro char first
          rw [List.head?_append_of_ne_nil _ none] at first
          exact valued.1.1 char first
        rw [skipleading_solid solid, clean_plain valued blank marked]
        rfl

end Values

section Lines

variable {name key : Text} {line : IniLine}

theorem lines_read (document : Document) (ok : ∀ line ∈ document, LineOk line) :
    iniLines (documentText document) = document.map fun line => line.text ++ ['\n'] := by
  have inside : ∀ body ∈ document.map IniLine.text, '\n' ∉ body := by
    intro body member
    obtain ⟨line, listed, rfl⟩ := List.mem_map.mp member
    exact (ok line listed).visible.2
  have fits : ∀ body ∈ document.map IniLine.text, body.length < iniBuffersize - 1 := by
    intro body member
    obtain ⟨line, listed, rfl⟩ := List.mem_map.mp member
    exact (ok line listed).fits
  rw [iniLines, documentText, pieces_lines inside fits, List.map_map, List.map_map]
  apply List.map_congr_left
  intro line member
  apply List.takeWhile_eq_self_iff.mpr
  intro char inside
  apply decide_eq_true
  rintro rfl
  rcases List.mem_append.mp inside with shown | last
  · exact (ok line member).visible.1 shown
  · exact absurd (List.mem_singleton.mp last) (by decide)

theorem up_to_last {stop : Char} (front : Text) {back : Text} (last : stop ∉ back) :
    (front ++ stop :: back).rdropWhile (· ≠ stop) = front ++ [stop] := by
  have passed : ∀ char ∈ back.reverse, decide (char ≠ stop) = true := by
    intro char member
    apply decide_eq_true
    rintro rfl
    exact last (List.mem_reverse.mp member)
  rw [List.rdropWhile, List.reverse_append, List.reverse_cons, List.append_assoc,
    List.dropWhile_append_of_pos passed, List.singleton_append,
    List.dropWhile_cons_of_neg (by simp), List.reverse_cons, List.reverse_reverse]

/-- The brackets around the name of a section, the last closing one being its own. -/
theorem section_line {lead other behind : Text} (ok : LineOk (.header lead other behind))
    (shown : nul ∉ name) :
    sectionLine name ((IniLine.header lead other behind).text ++ ['\n']) =
      sameName other name := by
  have formed : Blank lead ∧ ']' ∉ behind := ok.formed
  have own : nul ∉ other := fun member => ok.visible.1 (List.mem_append_right lead
    (List.mem_cons_of_mem '[' (List.mem_append_left (']' :: behind) member)))
  have begun : skipleading ((IniLine.header lead other behind).text ++ ['\n']) =
      '[' :: (other ++ (']' :: (behind ++ ['\n']))) := by
    rw [IniLine.text, List.append_assoc, skipleading_blank formed.1]
    simp only [List.cons_append, List.append_assoc]
    exact skipleading_solid fun char first => by cases first; decide
  have closed : ']' ∈ other ++ (']' :: (behind ++ ['\n'])) :=
    List.mem_append_right other List.mem_cons_self
  have behindLast : ']' ∉ behind ++ ['\n'] := by
    intro member
    rcases List.mem_append.mp member with inside | newline
    · exact formed.2 inside
    · exact absurd (List.mem_singleton.mp newline) (by decide)
  rw [sectionLine, begun]
  simp only
  rw [up_to_last other behindLast, List.length_append, List.length_singleton]
  by_cases length : other.length = name.length
  · rw [compared_name own shown length]
    simp [length]
  · have apart : sameName other name = false :=
      Bool.eq_false_iff.mpr fun same => length (same_name_length same)
    simp [length, apart]

theorem entry_text (entry : IniEntry) :
    (IniLine.entry entry).text ++ ['\n'] =
      entry.lead ++ (entry.key ++
        (entry.gap ++ '=' :: (entry.after ++ (entry.assigned ++ ['\n'])))) := by
  simp only [IniLine.text, List.append_assoc, List.cons_append]

theorem entry_begins {entry : IniEntry} (ok : EntryOk entry) (rest : Text) :
    skipleading (entry.lead ++ (entry.key ++ rest)) = entry.key ++ rest := by
  rw [skipleading_blank ok.lead]
  apply skipleading_solid
  intro char first
  rw [List.head?_append_of_ne_nil _ ok.named] at first
  exact ok.trimmed.1 char first

/-- The key ends in front of the first equal sign, and the blanks there are none of it. -/
theorem entry_line {entry : IniEntry} (ok : LineOk (.entry entry)) (some : key ≠ [])
    (shown : nul ∉ key) :
    entryLine key ((IniLine.entry entry).text ++ ['\n']) =
      if sameName entry.key key then Option.some (entry.after ++ (entry.assigned ++ ['\n']))
      else none := by
  have formed : EntryOk entry := ok.formed
  have own : nul ∉ entry.key := fun member => ok.visible.1
    (List.mem_append_right entry.lead (List.mem_append_left _ member))
  have before : ∀ char ∈ entry.key ++ entry.gap, decide (char ≠ '=') = true := by
    intro char member
    apply decide_eq_true
    rintro rfl
    rcases List.mem_append.mp member with inKey | inGap
    · exact formed.closed inKey
    · exact absurd (formed.gap '=' inGap) (by decide)
  have taken (rest : Text) :
      (entry.key ++ (entry.gap ++ '=' :: rest)).takeWhile (· ≠ '=') = entry.key ++ entry.gap := by
    rw [← List.append_assoc, List.takeWhile_append_of_pos before,
      List.takeWhile_cons_of_neg (by simp), List.append_nil]
  have left (rest : Text) :
      (entry.key ++ (entry.gap ++ '=' :: rest)).dropWhile (· ≠ '=') = '=' :: rest := by
    rw [← List.append_assoc, List.dropWhile_append_of_pos before,
      List.dropWhile_cons_of_neg (by simp)]
  have marked (rest : Text) : separator (entry.key ++ (entry.gap ++ '=' :: rest)) =
      Option.some '=' :=
    if_pos (List.mem_append_right _ (List.mem_append_right _ List.mem_cons_self))
  have word : skiptrailing (entry.key ++ entry.gap) = entry.key := by
    rw [skiptrailing_blank _ formed.gap, skiptrailing_solid formed.trimmed.2]
  rw [entry_text, entryLine, entry_begins formed, marked, Option.bind_some, taken, left, word,
    List.tail_cons]
  obtain ⟨char, rest, begins⟩ := List.exists_cons_of_ne_nil formed.named
  have noMark := formed.key char (by rw [begins]; rfl)
  have noSemicolon : char ≠ ';' := by
    rintro rfl
    exact absurd noMark.2 (by decide)
  have noHash : char ≠ '#' := by
    rintro rfl
    exact absurd noMark.2 (by decide)
  by_cases length : entry.key.length = key.length
  · rw [compared_name own shown length]
    have first (rest : Text) : (entry.key ++ rest).head? = Option.some char := by
      rw [begins]
      rfl
    simp [first, noSemicolon, noHash, some, length]
  · have apart : sameName entry.key key = false :=
      Bool.eq_false_iff.mpr fun same => length (same_name_length same)
    simp [length, apart]

/-- A line that begins with neither a bracket nor anything but the mark of a comment. -/
theorem remark_begins {text : Text} (ok : LineOk (.remark text)) :
    ∀ char ∈ (skipleading (text ++ ['\n'])).head?, isMark char = true := by
  intro char first
  have formed : ∀ char ∈ (skipleading text).head?, isMark char = true := ok.formed
  rw [skipleading, List.dropWhile_append] at first
  split_ifs at first with empty
  · have blank : (List.dropWhile isBlank ['\n']).head? = none := by decide
    rw [blank] at first
    cases first
  · have some : text.dropWhile isBlank ≠ [] := fun none => empty (List.isEmpty_iff.mpr none)
    rw [List.head?_append_of_ne_nil _ some] at first
    exact formed char first

theorem mark_no_bracket {char : Char} (mark : isMark char = true) : char ≠ '[' := by
  rintro rfl
  exact absurd mark (by decide)

theorem section_line_apart {text : Text}
    (apart : ∀ char ∈ (skipleading text).head?, char ≠ '[') : sectionLine name text = false := by
  rw [sectionLine]
  split
  · rfl
  · rename_i char rest begins
    rw [begins] at apart
    exact decide_eq_false fun matched => apart char rfl matched.1

theorem entry_no_bracket {entry : IniEntry} (ok : EntryOk entry) :
    ∀ char ∈ (skipleading ((IniLine.entry entry).text ++ ['\n'])).head?, char ≠ '[' := by
  intro char first
  rw [entry_text, entry_begins ok, List.head?_append_of_ne_nil _ ok.named] at first
  exact (ok.key char first).1

theorem header_bracket {lead other behind : Text} (ok : LineOk (.header lead other behind)) :
    (skipleading ((IniLine.header lead other behind).text ++ ['\n'])).head? = some '[' := by
  have formed : Blank lead ∧ ']' ∉ behind := ok.formed
  rw [IniLine.text, List.append_assoc, skipleading_blank formed.1]
  rfl

theorem remark_no_entry {text : Text} (ok : LineOk (.remark text)) :
    entryLine key (text ++ ['\n']) = none := by
  have begins := remark_begins ok
  rw [entryLine]
  cases found : skipleading (text ++ ['\n']) with
  | nil => rfl
  | cons char rest =>
      rw [found] at begins
      rcases of_decide_eq_true (begins char rfl) with rfl | rfl
      · simp
      · simp

def lineRead (line : IniLine) : Text := line.text ++ ['\n']

theorem find_section (shown : nul ∉ name) {document : Document}
    (ok : ∀ line ∈ document, LineOk line) :
    findSection name (document.map lineRead) = (areaOf name document).map (·.map lineRead) := by
  induction document with
  | nil => rfl
  | cons line lines ih =>
      have later := ih fun other member => ok other (List.mem_cons_of_mem line member)
      have first := ok line List.mem_cons_self
      rw [List.map_cons, findSection, lineRead]
      cases line with
      | header lead other behind =>
          rw [section_line first shown, areaOf, later]
          split_ifs
          · rfl
          · rfl
      | entry entry =>
          rw [section_line_apart (entry_no_bracket first.formed), if_neg (by decide), later]
          rfl
      | remark text =>
          have apart : sectionLine name (text ++ ['\n']) = false :=
            section_line_apart fun char begins =>
              mark_no_bracket (remark_begins first char begins)
          rw [IniLine.text, apart, if_neg (by decide), later]
          rfl

theorem area_suffix {document lines : Document} (found : areaOf name document = some lines) :
    lines <:+ document := by
  induction document with
  | nil => cases found
  | cons line rest ih =>
      cases line with
      | header lead other behind =>
          rw [areaOf] at found
          split_ifs at found
          · cases found
            exact List.suffix_cons _ _
          · exact (ih found).trans (List.suffix_cons _ _)
      | entry entry => exact (ih found).trans (List.suffix_cons _ _)
      | remark text => exact (ih found).trans (List.suffix_cons _ _)

theorem find_entry (some : key ≠ []) (shown : nul ∉ key) {document : Document}
    (ok : ∀ line ∈ document, LineOk line) (size : Nat) :
    ((findEntry key (document.map lineRead)).map fun text =>
      iniStrncpy (cleanstring (skipleading text)).1 size (cleanstring (skipleading text)).2) =
      (valueIn key document).map (·.take (size - 1)) := by
  induction document with
  | nil => rfl
  | cons line lines ih =>
      have later := ih fun other member => ok other (List.mem_cons_of_mem line member)
      have first := ok line List.mem_cons_self
      rw [List.map_cons, findEntry, lineRead]
      cases line with
      | header lead other behind => rw [if_pos (header_bracket first), valueIn]; rfl
      | entry entry =>
          have apart : (skipleading ((IniLine.entry entry).text ++ ['\n'])).head? ≠
              Option.some '[' :=
            fun bracket => entry_no_bracket first.formed '[' bracket rfl
          rw [if_neg apart, entry_line first some shown, valueIn]
          split_ifs
          · exact congrArg Option.some (value_reads_back first.formed size)
          · exact later
      | remark text =>
          have apart : (skipleading (text ++ ['\n'])).head? ≠ Option.some '[' :=
            fun bracket => mark_no_bracket (remark_begins first '[' bracket) rfl
          rw [IniLine.text, if_neg apart, remark_no_entry first, valueIn]
          exact later

end Lines

section Reading

/-- Whatever the blanks and comments, the reader finds what the document says: the first
entry of the key in the first section of the name, cut off at the size of the buffer. -/
theorem document_reads_back {document : Document} (ok : ∀ line ∈ document, LineOk line)
    {name key : Text} (nameShown : nul ∉ name) (some : key ≠ []) (keyShown : nul ∉ key)
    (defValue : Text) (size : Nat) :
    iniGets (Option.some (documentText document)) name key defValue size =
      ((lookup document name key).getD defValue).take (size - 1) := by
  have lines : iniLines (documentText document) = document.map lineRead :=
    lines_read document ok
  have area : (if name = [] then Option.some (document.map lineRead)
      else findSection name (document.map lineRead)) =
        (if name = [] then Option.some document else areaOf name document).map
          (·.map lineRead) := by
    split_ifs
    · rfl
    · exact find_section nameShown ok
  have found : getkeystring (iniLines (documentText document)) name key size =
      (lookup document name key).map (·.take (size - 1)) := by
    rw [getkeystring, lines, area, lookup]
    cases begun : (if name = [] then Option.some document else areaOf name document) with
    | none => rfl
    | some within =>
        have inside : within <:+ document := by
          split_ifs at begun
          · cases begun
            exact List.suffix_refl document
          · exact area_suffix begun
        exact find_entry some keyShown (fun line member => ok line (inside.subset member)) size
  rw [iniGets, Option.bind_some, found]
  cases lookup document name key with
  | none => rfl
  | some value => rfl

section Checks

variable {text comment : Text}

instance : Decidable (Blank text) := decidable_of_iff (text.all isBlank = true) List.all_eq_true

instance : Decidable (Visible text) := inferInstanceAs (Decidable (_ ∧ _))

def allows (letter : Option Char) (check : Char → Bool) : Bool :=
  match letter with
  | none => true
  | some char => check char

theorem allows_iff {letter : Option Char} {check : Char → Bool} :
    allows letter check = true ↔ ∀ char ∈ letter, check char = true := by
  cases letter with
  | none => exact ⟨fun _ _ member => absurd member (Option.not_mem_none _), fun _ => rfl⟩
  | some char =>
      constructor
      · intro checked other member
        rwa [← Option.mem_some.mp member]
      · exact fun each => each char rfl

instance : Decidable (Trimmed text) :=
  decidable_of_iff ((allows text.head? fun char => !isBlank char) = true ∧
    (allows text.getLast? fun char => !isBlank char) = true) (by
      simp only [allows_iff, Bool.not_eq_true', Trimmed])

instance : (value : IniValue) → Decidable (ValueOk comment value)
  | .plain text =>
      decidable_of_iff (Trimmed text ∧ (text.all fun char => char ≠ '"' ∧ isMark char = false) = true)
        (and_congr_right' List.all_iff_forall_prop)
  | .quoted text => inferInstanceAs (Decidable (comment ≠ [] → text.getLast? ≠ some '\\'))

instance {entry : IniEntry} : Decidable (EntryOk entry) :=
  decidable_of_iff (Blank entry.lead ∧ entry.key ≠ [] ∧ Trimmed entry.key ∧
    (allows entry.key.head? fun char => char ≠ '[' ∧ isMark char = false) = true ∧
    '=' ∉ entry.key ∧ Blank entry.gap ∧ Blank entry.after ∧
    ValueOk entry.comment entry.value ∧ Blank entry.trail ∧
    allows entry.comment.head? isMark = true) (by
      simp only [allows_iff, decide_eq_true_eq]
      constructor
      · rintro ⟨lead, named, trimmed, key, closed, gap, after, value, trail, comment⟩
        exact ⟨lead, named, trimmed, key, closed, gap, after, value, trail, comment⟩
      · rintro ⟨lead, named, trimmed, key, closed, gap, after, value, trail, comment⟩
        exact ⟨lead, named, trimmed, key, closed, gap, after, value, trail, comment⟩)

instance : (line : IniLine) → Decidable (LineOk line)
  | .header lead name behind =>
      decidable_of_iff (Visible (IniLine.header lead name behind).text ∧
        (IniLine.header lead name behind).text.length < iniBuffersize - 1 ∧
        Blank lead ∧ ']' ∉ behind)
        ⟨fun ⟨visible, fits, formed⟩ => ⟨visible, fits, formed⟩,
          fun ⟨visible, fits, formed⟩ => ⟨visible, fits, formed⟩⟩
  | .entry setting =>
      decidable_of_iff (Visible (IniLine.entry setting).text ∧
        (IniLine.entry setting).text.length < iniBuffersize - 1 ∧ EntryOk setting)
        ⟨fun ⟨visible, fits, formed⟩ => ⟨visible, fits, formed⟩,
          fun ⟨visible, fits, formed⟩ => ⟨visible, fits, formed⟩⟩
  | .remark text =>
      decidable_of_iff (Visible text ∧ text.length < iniBuffersize - 1 ∧
        allows (skipleading text).head? isMark = true)
        ⟨fun ⟨visible, fits, formed⟩ => ⟨visible, fits, allows_iff.mp formed⟩,
          fun ⟨visible, fits, formed⟩ => ⟨visible, fits, allows_iff.mpr formed⟩⟩

end Checks

/-- Part of a configuration: comments, blanks, a key given twice, a quoted name. -/
def benchDocument : Document :=
  [.remark "# Options for ZONE and GPIO configuration".toList,
    .header [] "ZONE:1".toList [],
    .entry ⟨[], "NAME".toList, " ".toList, " ".toList, .quoted "Front; #1 \"lawn\" ".toList,
      " ".toList, "# the large one".toList⟩,
    .remark [],
    .entry ⟨"  ".toList, "GPIO_PIN".toList, [], [], .plain "18".toList, " ".toList, []⟩,
    .entry ⟨[], "gpio_pin".toList, [], [], .plain "27".toList, [], []⟩]

theorem document_reads_back_bench :
    iniGets (some (documentText benchDocument)) "zone:1".toList "GPIO_PIN".toList [] 64 =
        "18".toList ∧
      iniGets (some (documentText benchDocument)) "ZONE:1".toList "NAME".toList [] 40 =
        "Front; #1 \"lawn\" ".toList := by
  have ok : ∀ line ∈ benchDocument, LineOk line := List.all_iff_forall_prop.mp (by decide)
  have pin := @document_reads_back benchDocument ok "zone:1".toList "GPIO_PIN".toList (by decide)
    (by decide) (by decide) [] 64
  have name := @document_reads_back benchDocument ok "ZONE:1".toList "NAME".toList (by decide)
    (by decide) (by decide) [] 40
  rw [pin, name]
  exact ⟨by decide, by decide⟩

end Reading

end SprinklerD.IniDocuments
