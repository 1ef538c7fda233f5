import SprinklerD.DomoticzReach

/-!
# The bytes behind a Domoticz message

The payload of a message has no terminator of its own, and `len` bounds only the search for
quotes. A key comparison or a loop behind a key that the payload cuts off reads on in whatever
stands behind it. `Inside` describes the payloads of which the scan sees nothing else.
-/

namespace SprinklerD.PayloadBytes

open Foundation.CString
open SprinklerD.Config SprinklerD.DomoticzParser SprinklerD.DomoticzScan SprinklerD.DomoticzReach

set_option autoImplicit false

/-- Two memory contents that begin with the payload give the same answer. -/
def ReadsPayload (payload : Text) (idx nvalue : Int) : Prop :=
  ∀ first second,
    parseJSONmqttrequest (payload ++ first) payload.length idx nvalue svalue2Name =
      parseJSONmqttrequest (payload ++ second) payload.length idx nvalue svalue2Name

/-- A loop behind a key ends here, unless it waits for a value. -/
def EndsLoop (char : Char) : Prop := char = ',' ∨ char = nul

def GoesOn : Bool → Text → Prop
  | _, [] => True
  | waiting, char :: rest =>
      (waiting = true ∨ ¬ EndsLoop char) ∧ GoesOn (openAfter waiting char) rest

def LoopPasses (name text : Text) : Prop :=
  if name = svalue2Name then GoesOn false text else ∀ char ∈ text, ¬ EndsLoop char

def LoopEnds (name passed : Text) (stop : Char) : Prop :=
  LoopPasses name passed ∧ (name = svalue2Name → waitingAfter false passed = false) ∧ EndsLoop stop

def loopHits (name passed : Text) : Nat :=
  if name = svalue2Name then groups false passed else passed.count ':'

/-- The scan, which has found so many fields, ends in this rest of the payload, and so does
every comparison and every loop of it. -/
inductive Inside : Nat → Text → Prop
  | ended (found : Nat) : Inside found []
  | stopped (found : Nat) (rest : Text) : Inside found (nul :: rest)
  | other {found : Nat} {char : Char} {rest : Text} (noQuote : char ≠ '"') (visible : char ≠ nul)
      (onward : Inside found rest) : Inside found (char :: rest)
  | quote {found : Nat} {rest : Text}
      (unnamed : ∀ name ∈ quotedNames, ¬ name <+: '"' :: rest ∧ ¬ '"' :: rest <+: name)
      (onward : Inside found rest) : Inside found ('"' :: rest)
  | key {found : Nat} {name passed rest : Text} {stop : Char} (named : name ∈ quotedNames)
      (ends : LoopEnds name passed stop)
      (onward : found + loopHits name passed < 4 → Inside (found + loopHits name passed) rest) :
      Inside found (name ++ (passed ++ stop :: rest))

section Loops

theorem ends_loop_marks {stop : Char} (ends : EndsLoop stop) :
    stop.isDigit = false ∧ isSpace stop = false ∧ stop ≠ '-' ∧ stop ≠ '+' := by
  rcases ends with rfl | rfl <;> decide

theorem read_number_runs {passed : Text} {stop : Char} (plain : ∀ char ∈ passed, ¬ EndsLoop char)
    (ends : EndsLoop stop) (value : Int) :
    ∃ number, ∀ more,
      readNumber (passed ++ stop :: more) value = ⟨number, passed.count ':', passed.length⟩ := by
  induction passed generalizing value with
  | nil =>
      have stops : stop = ',' ∨ stop = nul := ends
      refine ⟨value, fun more => ?_⟩
      rw [List.nil_append, readNumber, if_pos stops]
      rfl
  | cons char rest ih =>
      have goes : ¬ (char = ',' ∨ char = nul) := plain char List.mem_cons_self
      have later := ih fun other member => plain other (List.mem_cons_of_mem _ member)
      obtain ⟨noDigit, noSpace, noSign⟩ := ends_loop_marks ends
      by_cases colon : char = ':'
      · obtain ⟨number, read⟩ := later (atoi rest)
        refine ⟨number, fun more => ?_⟩
        have same := atoi_stops more noDigit noSpace noSign rest
        rw [List.cons_append, readNumber, if_neg goes, if_pos colon, same, read, colon,
          List.count_cons_self, List.length_cons]
      · obtain ⟨number, read⟩ := later value
        refine ⟨number, fun more => ?_⟩
        rw [List.cons_append, readNumber, if_neg goes, if_neg colon, read,
          List.count_cons_of_ne colon, List.length_cons]

theorem copy_stops {stop : Char} (ends : EndsLoop stop) (char : Char) (rest more : Text) :
    copySvalue (char :: (rest ++ stop :: more)) = copySvalue (char :: rest) := by
  have stops : ¬ decide (decide (stop ≠ nul) = true ∧ (!endsSvalue stop) = true) = true := by
    rcases ends with rfl | rfl <;> decide
  have cut : cString ((rest ++ stop :: more).takeWhile fun next => !endsSvalue next) =
      cString (rest.takeWhile fun next => !endsSvalue next) := by
    unfold cString
    rw [List.takeWhile_takeWhile, List.takeWhile_takeWhile, List.takeWhile_append,
      List.takeWhile_cons, if_neg stops, List.append_nil]
    split_ifs with whole
    · exact ((List.takeWhile_prefix _).eq_of_length whole).symm
    · rfl
  unfold cString at cut
  simp only [copySvalue, cString]
  rw [← List.take_takeWhile, ← List.take_takeWhile, List.takeWhile_cons, List.takeWhile_cons, cut]

/-- Where the string loop ends in the text, it has read the text only. -/
theorem read_svalue_runs {waiting : Bool} {passed : Text} {stop : Char}
    (passes : GoesOn waiting passed) (idle : waitingAfter waiting passed = false)
    (ends : EndsLoop stop) (svalue : Text) :
    ∃ string, ∀ more, readSvalue waiting (passed ++ stop :: more) svalue =
      ⟨string, (if waiting then 1 else 0) + groups waiting passed, passed.length⟩ := by
  induction passed generalizing waiting svalue with
  | nil =>
      obtain rfl : waiting = false := idle
      have stops : stop = ',' ∨ stop = nul := ends
      refine ⟨svalue, fun more => ?_⟩
      rw [List.nil_append, readSvalue, if_pos stops]
      rfl
  | cons char rest ih =>
      obtain ⟨goes, further⟩ := passes
      obtain ⟨string, read⟩ := ih further idle
        (if waiting = true ∧ beforeSvalue char = false then copySvalue (char :: rest) else svalue)
      refine ⟨string, fun more => ?_⟩
      have onward : waiting = true ∨ (char ≠ ',' ∧ char ≠ nul) := goes.imp_right not_or.mp
      rw [List.cons_append, read_svalue_cons waiting _ _ onward, copy_stops ends]
      simp only [read, groups, List.length_cons]
      cases waiting with
      | true =>
          cases before : beforeSvalue char with
          | true => simp [before]
          | false =>
              simp [before]
              omega
      | false =>
          by_cases colon : char = ':'
          · simp [colon]
          · simp [colon]

/-- What a key in the payload leads to, when its loop ends there. -/
theorem read_quoted_runs {name passed : Text} {stop : Char} (named : name ∈ quotedNames)
    (ends : LoopEnds name passed stop) (found : Nat) (request : DomoticzRequest) :
    ∃ read, ∀ more, readQuoted svalue2Name (name ++ (passed ++ stop :: more)) found request =
      (found + loopHits name passed, read, name.length + passed.length) := by
  obtain ⟨passes, idle, stops⟩ := ends
  by_cases string : name = svalue2Name
  · rw [LoopPasses, if_pos string] at passes
    obtain ⟨svalue, read⟩ := read_svalue_runs passes (idle string) stops request.svalue
    refine ⟨{ request with svalue := svalue }, fun more => ?_⟩
    rw [read_quoted_svalue _ _ string, read, loopHits, if_pos string, if_neg Bool.false_ne_true,
      Nat.zero_add]
  · have number := number_name named string
    rw [LoopPasses, if_neg string] at passes
    obtain ⟨value, read⟩ := read_number_runs passes stops
      (if name = idxName then request.idx else request.nvalue)
    refine ⟨withNumber name value request, fun more => ?_⟩
    rw [read_quoted_number _ _ number rfl, read, loopHits, if_neg string]

end Loops

section Kept

variable {payload : Text} {found : Nat}

/-- A quote that neither begins a key name nor could is passed whatever follows. -/
theorem payload_unnamed {rest : Text} (junk : Text) (request : DomoticzRequest) (few : found < 4)
    (unnamed : ∀ name ∈ quotedNames, ¬ name <+: '"' :: rest ∧ ¬ '"' :: rest <+: name) :
    scanPayload junk ('"' :: rest) found request = scanPayload junk rest found request := by
  apply payload_quote request few
  intro name named begins
  rcases List.prefix_or_prefix_of_prefix begins (List.prefix_append ('"' :: rest) junk) with
    whole | cut
  · exact (unnamed name named).1 whole
  · exact (unnamed name named).2 cut

/-- Behind a loop that ends in the payload the scan goes on, with what the loop has read. -/
theorem payload_key {name passed rest : Text} {stop : Char} (named : name ∈ quotedNames)
    (ends : LoopEnds name passed stop) (request : DomoticzRequest) :
    ∃ read, ∀ junk, scanPayload junk (name ++ (passed ++ stop :: rest)) found request =
      if 4 ≤ found + loopHits name passed then (true, read)
      else scanPayload junk rest (found + loopHits name passed) read := by
  obtain ⟨inner, quote, -⟩ := quoted_name_shape named
  obtain ⟨read, leads⟩ := read_quoted_runs named ends found request
  refine ⟨read, fun junk => ?_⟩
  have leadsThere : readQuoted svalue2Name (name ++ (passed ++ stop :: rest ++ junk)) found request =
      (found + loopHits name passed, read, name.length + passed.length) := by
    rw [List.append_assoc, List.cons_append]
    exact leads (rest ++ junk)
  rw [payload_jump quote leadsThere, List.drop_length_add_append, List.drop_one, List.tail_cons]

/-- The scan of such a payload is that of any memory that begins with it. -/
theorem inside_reads (inside : Inside found payload) (few : found < 4) (first second : Text)
    (request : DomoticzRequest) :
    scanPayload first payload found request = scanPayload second payload found request := by
  induction inside generalizing request with
  | ended found => rw [payload_end, payload_end]
  | stopped found rest => simp [scanPayload, scanFrom]
  | other noQuote visible onward ih =>
      rw [payload_other _ _ _ noQuote visible, payload_other _ _ _ noQuote visible, ih few]
  | quote unnamed onward ih =>
      rw [payload_unnamed first request few unnamed, payload_unnamed second request few unnamed,
        ih few]
  | key named ends onward ih =>
      obtain ⟨read, goes⟩ := payload_key named ends request
      rw [goes first, goes second]
      split_ifs with enough
      · rfl
      · exact ih (by omega) (by omega) read

end Kept

section CutOff

variable {name passed : Text} {digit : Char}

theorem digit_marks (digits : digit.isDigit = true) :
    digit ≠ ',' ∧ digit ≠ nul ∧ digit ≠ ':' ∧ beforeSvalue digit = false := by
  have other {mark : Char} (noDigit : mark.isDigit = false) : digit ≠ mark := by
    rintro rfl
    rw [digits] at noDigit
    exact Bool.true_eq_false.mp noDigit
  have before : beforeSvalue digit = false := by
    simp [beforeSvalue, @other ':' (by decide), @other ' ' (by decide), @other '"' (by decide),
      @other '\'' (by decide)]
  exact ⟨other (by decide), other (by decide), other (by decide), before⟩

/-- The loop for a number comes to whatever stands behind the text. -/
theorem read_number_passes {passed : Text} (plain : ∀ char ∈ passed, ¬ EndsLoop char)
    (rest : Text) (value : Int) : ∃ before,
    (readNumber (passed ++ rest) value).value = (readNumber rest before).value ∧
      (readNumber (passed ++ rest) value).length =
        passed.length + (readNumber rest before).length := by
  induction passed generalizing value with
  | nil => exact ⟨value, rfl, (Nat.zero_add _).symm⟩
  | cons char front ih =>
      have goes : ¬ (char = ',' ∨ char = nul) := plain char List.mem_cons_self
      have later := ih fun other member => plain other (List.mem_cons_of_mem _ member)
      rw [List.cons_append, readNumber, if_neg goes, List.length_cons]
      split_ifs
      · obtain ⟨before, number, length⟩ := later (atoi (front ++ rest))
        exact ⟨before, number, by dsimp only; omega⟩
      · obtain ⟨before, number, length⟩ := later value
        exact ⟨before, number, by dsimp only; omega⟩

theorem read_number_last (plain : ∀ char ∈ passed, ¬ EndsLoop char)
    (digits : digit.isDigit = true) (value : Int) :
    (readNumber (passed ++ [':', digit, ',']) value).value = atoi [digit, ','] ∧
      (readNumber (passed ++ [':', digit, ',']) value).length = passed.length + 2 := by
  obtain ⟨before, number, length⟩ := read_number_passes plain [':', digit, ','] value
  obtain ⟨noComma, visible, noColon, -⟩ := digit_marks digits
  have colon : ':' ≠ nul := by decide
  rw [number, length]
  simp [readNumber, noComma, visible, noColon, colon]

/-- A value that stands behind the text is copied at last. -/
theorem read_svalue_last {waiting : Bool} (passes : GoesOn waiting passed)
    (digits : digit.isDigit = true) (svalue : Text) :
    (readSvalue waiting (passed ++ [':', digit, ',']) svalue).value = [digit] ∧
      (readSvalue waiting (passed ++ [':', digit, ',']) svalue).length = passed.length + 2 := by
  induction passed generalizing waiting svalue with
  | nil =>
      obtain ⟨noComma, visible, noColon, lands⟩ := digit_marks digits
      have copied : copySvalue [digit, ','] = [digit] := by
        simp [copySvalue, endsSvalue, cString, dzSvalueLen, visible]
      have colon : beforeSvalue ':' = true := by decide
      cases waiting with
      | true => simp [readSvalue, colon, lands, copied]
      | false => simp [readSvalue, nul, lands, copied]
  | cons char rest ih =>
      obtain ⟨goes, further⟩ := passes
      rw [List.cons_append, read_svalue_cons waiting _ _ (goes.imp_right not_or.mp)]
      exact ⟨(ih further _).1, congrArg Nat.succ (ih further _).2⟩

def withDigit (name : Text) (digit : Char) (request : DomoticzRequest) : DomoticzRequest :=
  if name = svalue2Name then { request with svalue := [digit] }
  else withNumber name (atoi [digit, ',']) request

theorem with_digit_ne (name : Text) (request : DomoticzRequest) :
    withDigit name '1' request ≠ withDigit name '2' request := by
  have numbers : atoi ['1', ','] ≠ atoi ['2', ','] := by decide +kernel
  unfold withDigit
  generalize atoi ['1', ','] = one at numbers
  generalize atoi ['2', ','] = two at numbers
  split_ifs
  · simp
  · unfold withNumber
    split_ifs
    · exact fun same => numbers (congrArg DomoticzRequest.idx same)
    · exact fun same => numbers (congrArg DomoticzRequest.nvalue same)

/-- The loop takes its last value from behind the payload. -/
theorem read_quoted_last (named : name ∈ quotedNames) (passes : LoopPasses name passed)
    (digits : digit.isDigit = true) (found : Nat) (request : DomoticzRequest) :
    ∃ later, readQuoted svalue2Name (name ++ (passed ++ [':', digit, ','])) found request =
      (later, withDigit name digit request, name.length + (passed.length + 2)) := by
  by_cases string : name = svalue2Name
  · rw [LoopPasses, if_pos string] at passes
    obtain ⟨value, length⟩ := read_svalue_last passes digits request.svalue
    rw [read_quoted_svalue _ _ string, value, length, withDigit, if_pos string]
    exact ⟨_, rfl⟩
  · have number := number_name named string
    rw [LoopPasses, if_neg string] at passes
    obtain ⟨value, length⟩ := read_number_last passes digits
      (if name = idxName then request.idx else request.nvalue)
    rw [read_quoted_number _ _ number rfl, value, length, withDigit, if_neg string]
    exact ⟨_, rfl⟩

theorem payload_cut_off {junk rest : Text} {found later length : Nat}
    {request read : DomoticzRequest}
    (leads : readQuoted svalue2Name ('"' :: (rest ++ junk)) found request = (later, read, length))
    (beyond : rest.length ≤ length) :
    scanPayload junk ('"' :: rest) found request = (decide (2 ≤ later), read) := by
  unfold scanPayload
  rw [List.cons_append, scanFrom, if_neg (by simp [nul]), if_pos rfl, leads]
  simp only
  split_ifs with enough
  · rw [decide_eq_true (by omega)]
  · have none : ('"' :: rest).length - 1 - length = 0 := by
      simp only [List.length_cons]
      omega
    rw [scan_passed, none, scan_without_left]

/-- The answer depends on what stands behind this rest of the payload. -/
def Depends (found : Nat) (payload : Text) : Prop :=
  ∀ request, ∃ first second,
    scanPayload first payload found request ≠ scanPayload second payload found request

theorem depends_of_cut_off {rest missing : Text} {found : Nat} (named : name ∈ quotedNames)
    (passes : LoopPasses name passed) (whole : '"' :: rest ++ missing = name ++ passed) :
    Depends found ('"' :: rest) := by
  intro request
  have reads {digit : Char} (digits : digit.isDigit = true) :
      ∃ answer, scanPayload (missing ++ [':', digit, ',']) ('"' :: rest) found request =
        (answer, withDigit name digit request) := by
    obtain ⟨later, leads⟩ := read_quoted_last named passes digits found request
    have behind : name ++ (passed ++ [':', digit, ',']) =
        '"' :: (rest ++ (missing ++ [':', digit, ','])) := by
      rw [← List.append_assoc, ← whole]
      simp
    have beyond : rest.length ≤ name.length + (passed.length + 2) := by
      have lengths := congrArg List.length whole
      simp only [List.length_append, List.length_cons] at lengths
      omega
    rw [behind] at leads
    exact ⟨_, payload_cut_off leads beyond⟩
  obtain ⟨first, one⟩ := reads (show '1'.isDigit = true by decide)
  obtain ⟨second, two⟩ := reads (show '2'.isDigit = true by decide)
  refine ⟨missing ++ [':', '1', ','], missing ++ [':', '2', ','], ?_⟩
  rw [one, two]
  exact fun same => with_digit_ne name request (Prod.mk.inj same).2

end CutOff

section Payload

theorem goes_on_or_ends (waiting : Bool) (text : Text) :
    GoesOn waiting text ∨ ∃ passed stop later, text = passed ++ stop :: later ∧
      GoesOn waiting passed ∧ waitingAfter waiting passed = false ∧ EndsLoop stop := by
  induction text generalizing waiting with
  | nil => exact Or.inl trivial
  | cons char rest ih =>
      by_cases goes : waiting = true ∨ ¬ EndsLoop char
      · rcases ih (openAfter waiting char) with whole | ⟨passed, stop, later, rfl, ends⟩
        · exact Or.inl ⟨goes, whole⟩
        · exact Or.inr ⟨char :: passed, stop, later, rfl, ⟨goes, ends.1⟩, ends.2⟩
      · obtain ⟨idle, ends⟩ := not_or.mp goes
        exact Or.inr ⟨[], char, rest, rfl, trivial, Bool.eq_false_iff.mpr idle, not_not.mp ends⟩

theorem plain_or_ends (text : Text) :
    (∀ char ∈ text, ¬ EndsLoop char) ∨ ∃ passed stop later, text = passed ++ stop :: later ∧
      (∀ char ∈ passed, ¬ EndsLoop char) ∧ EndsLoop stop := by
  induction text with
  | nil => exact Or.inl fun char member => absurd member List.not_mem_nil
  | cons char rest ih =>
      by_cases ends : EndsLoop char
      · exact Or.inr ⟨[], char, rest, rfl, fun other member => absurd member List.not_mem_nil, ends⟩
      · rcases ih with whole | ⟨passed, stop, later, rfl, plain, stops⟩
        · exact Or.inl (List.forall_mem_cons.mpr ⟨ends, whole⟩)
        · exact Or.inr ⟨char :: passed, stop, later, rfl,
            List.forall_mem_cons.mpr ⟨ends, plain⟩, stops⟩

theorem loop_passes_or_ends (name text : Text) :
    LoopPasses name text ∨
      ∃ passed stop later, text = passed ++ stop :: later ∧ LoopEnds name passed stop := by
  by_cases string : name = svalue2Name
  · rcases goes_on_or_ends false text with whole | ⟨passed, stop, later, split, runs, idle, ends⟩
    · exact Or.inl (by rw [LoopPasses, if_pos string]; exact whole)
    · refine Or.inr ⟨passed, stop, later, split, ?_, fun _ => idle, ends⟩
      rw [LoopPasses, if_pos string]
      exact runs
  · rcases plain_or_ends text with whole | ⟨passed, stop, later, split, plain, ends⟩
    · exact Or.inl (by rw [LoopPasses, if_neg string]; exact whole)
    · refine Or.inr ⟨passed, stop, later, split, ?_, fun same => absurd same string, ends⟩
      rw [LoopPasses, if_neg string]
      exact plain

theorem depends_of_onward {payload rest : Text} {found later : Nat}
    (goes : ∀ request, ∃ read, ∀ junk,
      scanPayload junk payload found request = scanPayload junk rest later read)
    (depends : Depends later rest) : Depends found payload := by
  intro request
  obtain ⟨read, same⟩ := goes request
  obtain ⟨first, second, differ⟩ := depends read
  exact ⟨first, second, by rw [same, same]; exact differ⟩

/-- Either the scan of the payload stays in it, or a cut off key shows what stands behind. -/
theorem inside_or_depends (payload : Text) {found : Nat} (few : found < 4) :
    Inside found payload ∨ Depends found payload := by
  induction length : payload.length using Nat.strong_induction_on generalizing payload found with
  | _ bound shorter =>
      subst length
      cases payload with
      | nil => exact Or.inl (Inside.ended found)
      | cons char rest =>
          have onward := @shorter rest.length (Nat.lt_succ_self _) rest found few rfl
          by_cases visible : char = nul
          · subst visible
            exact Or.inl (Inside.stopped found rest)
          by_cases noQuote : char ≠ '"'
          · exact onward.imp (Inside.other noQuote visible) (depends_of_onward fun request =>
              ⟨request, fun junk => payload_other rest found request noQuote visible⟩)
          obtain rfl := not_not.mp noQuote
          by_cases cut : ∃ name ∈ quotedNames, '"' :: rest <+: name
          · obtain ⟨name, named, missing, whole⟩ := cut
            have nothing : LoopPasses name [] := by
              unfold LoopPasses
              split_ifs
              · exact trivial
              · exact fun char member => absurd member List.not_mem_nil
            exact Or.inr (depends_of_cut_off named nothing (by rw [whole, List.append_nil]))
          by_cases begun : ∃ name ∈ quotedNames, name <+: '"' :: rest
          · obtain ⟨name, named, text, whole⟩ := begun
            rcases loop_passes_or_ends name text with passes | ⟨passed, stop, later, rfl, ends⟩
            · exact Or.inr (depends_of_cut_off named passes (by rw [whole, List.append_nil]))
            · rw [← whole]
              by_cases enough : 4 ≤ found + loopHits name passed
              · exact Or.inl (Inside.key named ends fun fewer => absurd enough (by omega))
              · have inside := @shorter later.length
                  (by have lengths := congrArg List.length whole; simp at lengths ⊢; omega) later
                  (found + loopHits name passed) (by omega) rfl
                refine inside.imp (fun stays => Inside.key named ends fun _ => stays)
                  (depends_of_onward fun request => ?_)
                obtain ⟨read, goes⟩ := payload_key named ends request
                exact ⟨read, fun junk => by rw [goes, if_neg enough]⟩
          have unnamed : ∀ name ∈ quotedNames, ¬ name <+: '"' :: rest ∧ ¬ '"' :: rest <+: name :=
            fun name named => ⟨fun whole => begun ⟨name, named, whole⟩,
              fun part => cut ⟨name, named, part⟩⟩
          exact onward.imp (Inside.quote unnamed) (depends_of_onward fun request =>
            ⟨request, fun junk => payload_unnamed junk request few unnamed⟩)

/-- The answer is the same whatever stands behind the payload, if and only if the scan and
each of its comparisons and loops end in the payload. -/
theorem reads_payload_iff (payload : Text) (idx nvalue : Int) :
    ReadsPayload payload idx nvalue ↔ Inside 0 payload := by
  constructor
  · intro reads
    refine (inside_or_depends payload (by decide)).resolve_right fun depends => ?_
    obtain ⟨first, second, differ⟩ := depends ⟨idx, nvalue, []⟩
    exact differ (reads first second)
  · intro inside first second
    exact inside_reads inside (by decide) first second ⟨idx, nvalue, []⟩

/-- A whole object whose last field is a number is not read alone. -/
theorem other_bytes_read : ¬ ∀ payload idx nvalue, ReadsPayload payload idx nvalue := by
  intro reads
  have same := reads "\x7b\"idx\":5,\"nvalue\":1\x7d".toList (-1) (-1) ":7,".toList []
  exact absurd same (by decide +kernel)

end Payload

end SprinklerD.PayloadBytes
