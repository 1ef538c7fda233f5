import SprinklerD.CronTable

/-!
# What the reader makes of each line

The reader looks at one line at a time. A line the writer prints for a zone gives
back its five numbers, the runtime cut to its first two digits; every other line
the writer prints gives nothing.
-/

namespace SprinklerD.CronReader

open Foundation.Decimal Foundation.CString Foundation.GreedyPattern
open SprinklerD.Config SprinklerD.CronTable

set_option autoImplicit false

section Lines

theorem get_lines_flatten (text : Text) : (getLines text).flatten = text := by
  induction text with
  | nil => rfl
  | cons char rest ih =>
      rw [getLines]
      split_ifs
      · rw [List.flatten_cons, ih]
        rfl
      · cases lines : getLines rest with
        | nil =>
            rw [lines] at ih
            rw [← ih]
            rfl
        | cons line others =>
            rw [lines, List.flatten_cons] at ih
            simp only [List.flatten_cons, List.cons_append, ih]

def EndsLine (text : Text) : Prop := text = [] ∨ ∃ body, text = body ++ ['\n']

theorem get_lines_append {front : Text} (ends : EndsLine front) (back : Text) :
    getLines (front ++ back) = getLines front ++ getLines back := by
  rcases ends with rfl | ⟨body, rfl⟩
  · rfl
  · rw [List.append_assoc]
    induction body with
    | nil => rfl
    | cons char body ih =>
        simp only [List.cons_append, List.nil_append] at ih ⊢
        simp only [getLines, ih]
        by_cases newline : char = '\n'
        · rw [if_pos newline, if_pos newline, List.cons_append]
        · rw [if_neg newline, if_neg newline]
          cases lines : getLines (body ++ ['\n']) with
          | nil =>
              have flat := get_lines_flatten (body ++ ['\n'])
              rw [lines] at flat
              exact absurd flat (by simp)
          | cons line rest => rfl

theorem get_lines_one {body : Text} (inside : '\n' ∉ body) :
    getLines (body ++ ['\n']) = [body ++ ['\n']] := by
  induction body with
  | nil => rfl
  | cons char body ih =>
      have other : char ≠ '\n' := fun same => inside (by simp [same])
      rw [List.cons_append, getLines, if_neg other,
        ih fun member => inside (List.mem_cons_of_mem _ member)]

theorem infix_of_mem_get_lines {text line : Text} (member : line ∈ getLines text) :
    line <:+: text := by
  conv_rhs => rw [← get_lines_flatten text]
  exact List.infix_of_mem_flatten member

end Lines

section BlankNumbers

def blankNumberFree : Text → Bool
  | first :: second :: rest =>
      !(isSpace first && second.isDigit) && blankNumberFree (second :: rest)
  | _ => true

theorem blank_number_free_append {front back : Text} (free : blankNumberFree front = true)
    (ends : ∀ char ∈ front.getLast?, isSpace char = false)
    (rest : blankNumberFree back = true) : blankNumberFree (front ++ back) = true := by
  induction front with
  | nil => exact rest
  | cons first front ih =>
      cases front with
      | nil =>
          have solid := ends first (by simp)
          cases back with
          | nil => rfl
          | cons second back => simp [blankNumberFree, solid, rest]
      | cons second front =>
          simp only [blankNumberFree, Bool.and_eq_true] at free
          simp only [List.cons_append, blankNumberFree, Bool.and_eq_true]
          exact ⟨free.1, ih free.2 fun char last => ends char (by simpa using last)⟩

theorem blank_number_free_solid {front back : Text} (solid : ∀ char ∈ front, isSpace char = false)
    (rest : blankNumberFree back = true) : blankNumberFree (front ++ back) = true := by
  refine blank_number_free_append ?_ (fun char last => solid char (List.mem_of_getLast? last)) rest
  clear rest
  induction front with
  | nil => rfl
  | cons first front ih =>
      cases front with
      | nil => rfl
      | cons second front =>
          simp only [blankNumberFree, solid first (by simp), Bool.false_and, Bool.not_false,
            Bool.true_and]
          exact ih fun char member => solid char (List.mem_cons_of_mem _ member)

/-- A field cannot begin where no blank is followed by a digit. -/
theorem field_none {pattern : List Piece} {text tail : Text}
    (free : blankNumberFree text = true) (suffix : tail <:+ text) :
    matchHere (blank :: number :: pattern) tail = none := by
  induction text generalizing tail with
  | nil =>
      rw [List.suffix_nil.mp suffix]
      exact match_one_nil isSpace
  | cons first text ih =>
      rcases List.suffix_cons_iff.mp suffix with rfl | later
      · rw [blank, match_one_cons]
        split_ifs with space
        · apply match_group_none (by decide)
          intro second head
          cases text with
          | nil => simp at head
          | cons char text =>
              obtain rfl := Option.some.inj head
              simp only [blankNumberFree, space, Bool.true_and, Bool.and_eq_true,
                Bool.not_eq_true'] at free
              exact free.1
        · rfl
      · refine ih ?_ later
        cases text with
        | nil => rfl
        | cons second text =>
            simp only [blankNumberFree, Bool.and_eq_true] at free
            exact free.2

end BlankNumbers

section ZoneLine

theorem print_nat_digits (value : Nat) : ∀ char ∈ printNat value, char.isDigit = true :=
  fun _ => is_digit_of_mem_print_nat

theorem digit_not_space {char : Char} (digit : char.isDigit = true) : isSpace char = false := by
  simp only [Char.isDigit, Bool.and_eq_true, decide_eq_true_eq] at digit
  have lower : 48 ≤ char.toNat := digit.1
  apply decide_eq_false
  intro space
  rcases space with rfl | range
  · exact absurd lower (by decide)
  · omega

theorem print_nat_solid (value : Nat) : ∀ char ∈ printNat value, isSpace char = false :=
  fun char member => digit_not_space (print_nat_digits value char member)

theorem print_nat_bounds {value : Nat} (small : value < 100) :
    1 ≤ (printNat value).length ∧ (printNat value).length ≤ 2 :=
  ⟨List.length_pos_iff.mpr (print_nat_ne_nil value),
    (length_print_nat_le (by decide)).mpr small⟩

def runtimeTail (runtime : Nat) : Text := printNat runtime ++ "&state=on'\n".toList

def zoneTail (zone runtime : Nat) : Text :=
  printNat zone ++ ("&".toList ++ ("runtime=".toList ++ runtimeTail runtime))

theorem match_runtime (runtime : Nat) :
    matchHere [number, Piece.anything] (runtimeTail runtime) =
      some [(printNat runtime).take 2] := by
  by_cases short : (printNat runtime).length ≤ 2
  · rw [List.take_of_length_le short]
    refine match_group (print_nat_digits runtime) (fun char head => ?_) ⟨?_, short⟩
      match_anything_to_end
    · obtain rfl := Option.some.inj head
      decide
    · exact List.length_pos_iff.mpr (print_nat_ne_nil runtime)
  · rw [runtimeTail, ← List.take_append_drop 2 (printNat runtime), List.append_assoc,
      List.take_append_drop]
    refine match_group_most (fun char member => ?_) ⟨by decide, ?_⟩ match_anything_to_end
    · exact print_nat_digits runtime char (List.mem_of_mem_take member)
    · rw [List.length_take]
      omega

theorem not_mem_print_nat {char : Char} (value : Nat) (other : char.isDigit = false) :
    char ∉ printNat value := fun member => by
  simp [print_nat_digits value char member] at other

theorem match_zone {zone : Nat} (runtime : Nat) (small : zone < 100) (front : Text) :
    matchHere zonePattern (front ++ ("zone=".toList ++ zoneTail zone runtime)) =
      some [printNat zone, (printNat runtime).take 2] := by
  have inner : matchHere
      (Piece.anything :: (Piece.literal "runtime=".toList ++ [number, Piece.anything]))
      ("&".toList ++ ("runtime=".toList ++ runtimeTail runtime)) =
        some [(printNat runtime).take 2] := by
    refine match_anything_last ?_ fun tail suffix proper => ?_
    · rw [match_literal]
      exact match_runtime runtime
    · refine match_literal_none 'r' "untime=".toList ("untime=".toList ++ runtimeTail runtime) ?_
        suffix proper
      simp [runtimeTail, not_mem_print_nat runtime (show ('r' : Char).isDigit = false by decide)]
  refine match_anything_last ?_ fun tail suffix proper => ?_
  · rw [match_literal]
    refine match_group (print_nat_digits zone) (fun char head => ?_) (print_nat_bounds small) inner
    obtain rfl := Option.some.inj head
    decide
  · refine match_literal_none 'z' "one=".toList ("one=".toList ++ zoneTail zone runtime) ?_
      suffix proper
    simp [zoneTail, runtimeTail,
      not_mem_print_nat zone (show ('z' : Char).isDigit = false by decide),
      not_mem_print_nat runtime (show ('z' : Char).isDigit = false by decide)]

def curlText (port : Text) : Text :=
  "root /usr/bin/curl -s -o /dev/null 'localhost:".toList ++ (port ++ "?type=cron&".toList)

def dayTail (port : Text) (day zone runtime : Nat) : Text :=
  printNat day ++ (" ".toList ++ (curlText port ++ ("zone=".toList ++ zoneTail zone runtime)))

theorem day_tail_free {port : Text} (plain : ∀ char ∈ port, isSpace char = false)
    (day zone runtime : Nat) : blankNumberFree (dayTail port day zone runtime) = true := by
  have runtimeFree : blankNumberFree (runtimeTail runtime) = true := by
    rw [runtimeTail]
    exact blank_number_free_solid (print_nat_solid runtime) (by simp [blankNumberFree, isSpace])
  have zoneFree : blankNumberFree (zoneTail zone runtime) = true := by
    rw [zoneTail]
    refine blank_number_free_solid (print_nat_solid zone) (blank_number_free_solid ?_
      (blank_number_free_solid ?_ runtimeFree)) <;> simp [isSpace]
  have commandFree : blankNumberFree
      (" ".toList ++ ("root /usr/bin/curl -s -o /dev/null 'localhost:".toList ++
        (port ++ ("?type=cron&".toList ++ ("zone=".toList ++ zoneTail zone runtime))))) = true := by
    refine @blank_number_free_append " root /usr/bin/curl -s -o /dev/null 'localhost:".toList _
      ?_ ?_ (blank_number_free_solid plain
        (blank_number_free_solid ?_ (blank_number_free_solid ?_ zoneFree))) <;>
      simp [blankNumberFree, isSpace]
  unfold dayTail curlText
  rw [List.append_assoc, List.append_assoc]
  exact blank_number_free_solid (print_nat_solid day) commandFree

theorem match_blank (pattern : List Piece) (text : Text) :
    matchHere (blank :: pattern) (" ".toList ++ text) = matchHere pattern text :=
  (match_one_cons isSpace ' ' text).trans (if_pos (by decide))

theorem match_number {pattern : List Piece} {groups : List Text} {digits back : Text}
    (all : ∀ char ∈ digits, char.isDigit = true)
    (length : 1 ≤ digits.length ∧ digits.length ≤ 2)
    (here : matchHere pattern (" ".toList ++ back) = some groups) :
    matchHere (number :: pattern) (digits ++ (" ".toList ++ back)) =
      some (digits :: groups) := by
  refine match_group all (fun char head => ?_) length here
  obtain rfl := Option.some.inj head
  decide

theorem match_day {port : Text} (plain : ∀ char ∈ port, isSpace char = false) {day zone : Nat}
    (runtime : Nat) (dayBound : day < 100) (zoneBound : zone < 100) (front : Text) :
    matchHere (Piece.anything :: dayPattern)
        (front ++ (" ".toList ++ dayTail port day zone runtime)) =
      some [printNat day, printNat zone, (printNat runtime).take 2] := by
  refine match_anything_last ?_ fun tail suffix proper => ?_
  · rw [dayPattern, match_blank, dayTail]
    apply match_number (print_nat_digits day) (print_nat_bounds dayBound)
    rw [match_blank]
    exact match_zone runtime zoneBound (curlText port)
  · have later := (List.suffix_cons_iff.mp suffix).resolve_left proper
    exact field_none (day_tail_free plain day zone runtime) later

def hourTail (port : Text) (hour day zone runtime : Nat) : Text :=
  printNat hour ++ (" ".toList ++ ("* *".toList ++ (" ".toList ++ dayTail port day zone runtime)))

theorem match_line {port : Text} (plain : ∀ char ∈ port, isSpace char = false)
    {digits : Text} {hour day zone : Nat} (runtime : Nat)
    (all : ∀ char ∈ digits, char.isDigit = true)
    (length : 1 ≤ digits.length ∧ digits.length ≤ 2)
    (hourBound : hour < 100) (dayBound : day < 100) (zoneBound : zone < 100) :
    matchHere cronPattern (digits ++ (" ".toList ++ hourTail port hour day zone runtime)) =
      some [digits, printNat hour, printNat day, printNat zone,
        (printNat runtime).take 2] := by
  apply match_number all length
  rw [match_blank]
  unfold hourTail
  apply match_number (print_nat_digits hour) (print_nat_bounds hourBound)
  rw [match_blank]
  exact match_day plain runtime dayBound zoneBound _

/-- A minute of more than two digits is not matched from its first digit. -/
theorem match_long_minute {digits : Text} (back : Text)
    (all : ∀ char ∈ digits, char.isDigit = true)
    (long : 2 < digits.length) : matchHere cronPattern (digits ++ back) = none := by
  apply match_piece_none
  intro length _ allowed
  have most : length ≤ 2 := (of_decide_eq_true allowed).2 2 rfl
  rw [List.drop_append_of_le_length (by omega)]
  cases rest : digits.drop length with
  | nil =>
      have short := List.drop_eq_nil_iff.mp rest
      omega
  | cons char later =>
      have digit := all char (List.mem_of_mem_drop (i := length) (by simp [rest]))
      rw [List.cons_append, blank, match_one_cons, digit_not_space digit]
      rfl

theorem search_line {groups : List Text} {back : Text}
    (here : ∀ digits : Text, (∀ char ∈ digits, char.isDigit = true) →
      1 ≤ digits.length ∧ digits.length ≤ 2 →
      matchHere cronPattern (digits ++ back) = some (digits :: groups))
    {digits : Text} (all : ∀ char ∈ digits, char.isDigit = true) (nonempty : digits ≠ []) :
    ∃ minute, search cronPattern (digits ++ back) = some (minute :: groups) ∧
      (digits.length ≤ 2 → minute = digits) := by
  induction digits with
  | nil => exact absurd rfl nonempty
  | cons char digits ih =>
      by_cases short : (char :: digits).length ≤ 2
      · exact ⟨char :: digits, search_here (here _ all ⟨by simp, short⟩), fun _ => rfl⟩
      · have rest : digits ≠ [] := by
          rintro rfl
          exact short (by simp)
        obtain ⟨minute, found, -⟩ := ih (fun later member =>
          all later (List.mem_cons_of_mem _ member)) rest
        refine ⟨minute, ?_, fun few => absurd few short⟩
        have skip := match_long_minute back all (not_le.mp short)
        exact (search_skip skip).trans found

theorem zone_line_text_eq (cfg : SprinklerdCfg) (minute hour day zone runtime : Nat) :
    zoneLineText cfg ⟨minute, hour, day, zone, runtime⟩ =
      printNat minute ++
        (" ".toList ++ hourTail cfg.socketPort hour day zone runtime) := by
  unfold zoneLineText hourTail dayTail curlText zoneTail runtimeTail
  simp [print_int_nat]

theorem search_zone_line {cfg : SprinklerdCfg}
    (plain : ∀ char ∈ cfg.socketPort, isSpace char = false) (minute : Nat) {hour day zone : Nat}
    (runtime : Nat) (hourBound : hour < 100) (dayBound : day < 100) (zoneBound : zone < 100) :
    ∃ minuteText, search cronPattern (zoneLineText cfg ⟨minute, hour, day, zone, runtime⟩) =
        some [minuteText, printNat hour, printNat day, printNat zone,
          (printNat runtime).take 2] ∧
      (minute < 100 → minuteText = printNat minute) := by
  obtain ⟨minuteText, found, whole⟩ := search_line
    (fun digits all length => match_line plain runtime all length hourBound dayBound zoneBound)
    (print_nat_digits minute) (print_nat_ne_nil minute)
  refine ⟨minuteText, ?_, fun small => whole (print_nat_bounds small).2⟩
  rw [zone_line_text_eq]
  exact found

end ZoneLine

section OtherLines

def NamesZone (text : Text) : Prop :=
  ∃ before between after, text =
    before ++ ("zone=".toList ++ (between ++ ("runtime=".toList ++ after)))

theorem names_zone_of_search {text : Text} {groups : List Text}
    (found : search cronPattern text = some groups) : NamesZone text := by
  obtain ⟨start, startSuffix, here⟩ := suffix_of_search found
  obtain ⟨tail, tailGroups, tailSuffix, zone⟩ := suffix_of_match
    [number, blank, number, blank, Piece.anything, blank, number, blank, Piece.anything]
    (Piece.literal "zone=".toList ++
      (number :: Piece.anything :: (Piece.literal "runtime=".toList ++ [number, Piece.anything])))
    here
  obtain ⟨rest, rfl, named⟩ := literal_of_match zone
  obtain ⟨last, lastGroups, lastSuffix, runtime⟩ := suffix_of_match
    [number, Piece.anything] (Piece.literal "runtime=".toList ++ [number, Piece.anything]) named
  obtain ⟨after, rfl, -⟩ := literal_of_match runtime
  obtain ⟨before, whole⟩ := tailSuffix.trans startSuffix
  obtain ⟨between, rfl⟩ := lastSuffix
  exact ⟨before, between, after, whole.symm⟩

theorem names_zone_of_inside {part text : Text} (inside : part <:+: text)
    (names : NamesZone part) : NamesZone text := by
  obtain ⟨front, back, rfl⟩ := inside
  obtain ⟨before, between, after, rfl⟩ := names
  exact ⟨front ++ before, between, after ++ back, by simp only [List.append_assoc]⟩

theorem names_zone_mem {text : Text} (names : NamesZone text) : 'z' ∈ text := by
  obtain ⟨before, between, after, rfl⟩ := names
  exact List.mem_append_right _ (List.mem_append_left _ (by decide))

theorem search_nightly {cfg : SprinklerdCfg}
    (plain : ∀ char ∈ cfg.socketPort, isSpace char = false) {sensor : Text}
    (solid : ∀ char ∈ sensor, isSpace char = false) :
    search cronPattern (nightlyText cfg sensor) = none := by
  have free : blankNumberFree
      ("0 * * * root /usr/bin/curl -s -o /dev/null 'localhost:".toList ++ (cfg.socketPort ++
        ("?type=sensor&sensor=".toList ++ (sensor ++ "&value=0'\n".toList)))) = true := by
    refine blank_number_free_append ?_ ?_ (blank_number_free_solid plain
      (blank_number_free_solid ?_ (blank_number_free_solid solid ?_))) <;>
      simp [blankNumberFree, isSpace]
  have line : nightlyText cfg sensor = '0' :: ' ' ::
      ("0 * * * root /usr/bin/curl -s -o /dev/null 'localhost:".toList ++ (cfg.socketPort ++
        ("?type=sensor&sensor=".toList ++ (sensor ++ "&value=0'\n".toList)))) := by
    unfold nightlyText
    simp
  rw [line]
  generalize "0 * * * root /usr/bin/curl -s -o /dev/null 'localhost:".toList ++ (cfg.socketPort ++
    ("?type=sensor&sensor=".toList ++ (sensor ++ "&value=0'\n".toList))) = rest at free
  cases found : search cronPattern ('0' :: ' ' :: rest) with
  | none => rfl
  | some groups =>
      obtain ⟨start, startSuffix, here⟩ := suffix_of_search found
      obtain ⟨tail, tailGroups, tailSuffix, hour⟩ := suffix_of_match [number]
        (blank :: number :: blank :: Piece.anything :: dayPattern) here
      rcases List.suffix_cons_iff.mp (tailSuffix.trans startSuffix) with rfl | later
      · rw [blank, match_one_cons] at hour
        cases hour
      · rcases List.suffix_cons_iff.mp later with rfl | later
        · obtain ⟨last, lastGroups, lastSuffix, day⟩ := suffix_of_match
            [number, blank, Piece.anything] dayPattern
            ((match_blank _ rest).symm.trans hour)
          rw [dayPattern, field_none free lastSuffix] at day
          cases day
        · rw [field_none free later] at hour
          cases hour

theorem read_unmatched {cfg : SprinklerdCfg} (table : Int → CalendarDay) {line : Text}
    (unmatched : search cronPattern line = none) : readCronLine cfg table line = table := by
  rw [readCronLine, unmatched]

/-- A text that names no zone leaves the table alone. -/
theorem read_unnamed {cfg : SprinklerdCfg} (table : Int → CalendarDay) {text : Text}
    (unnamed : ¬ NamesZone text) :
    (getLines text).foldl (readCronLine cfg) table = table := by
  have skipped : ∀ line ∈ getLines text, readCronLine cfg table line = table := by
    intro line member
    cases found : search cronPattern line with
    | none => exact read_unmatched table found
    | some groups =>
        exact absurd (names_zone_of_inside (infix_of_mem_get_lines member)
          (names_zone_of_search found)) unnamed
  generalize getLines text = lines at skipped
  induction lines with
  | nil => rfl
  | cons line lines ih =>
      rw [List.foldl_cons, skipped line (by simp)]
      exact ih fun other member => skipped other (List.mem_cons_of_mem _ member)

end OtherLines

end SprinklerD.CronReader
