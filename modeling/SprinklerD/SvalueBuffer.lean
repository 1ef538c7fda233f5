import SprinklerD.PayloadBytes
import SprinklerD.Foundation.WriteLog
import Mathlib.Data.List.GetD

/-!
# The buffer of the string value

Every write of `parseJSONmqttrequest` to `svalue`, by its index. A copy takes `j - i` characters,
at most `DZ_SVALUE_LEN`, and the forced terminator stands behind them: a full copy has it behind
the buffer of `action_domoticz_mqtt_message`.
-/

namespace SprinklerD.SvalueBuffer

open Foundation.CString Foundation.WriteLog
open SprinklerD.Config SprinklerD.DomoticzParser SprinklerD.DomoticzScan SprinklerD.DomoticzReach
open SprinklerD.PayloadBytes

set_option autoImplicit false

/-- The length of a copy. Its end is looked for past terminators too, and a search that comes to
the end of the memory is longer than the buffer. -/
def copyLength (value : Text) : Nat :=
  match (value.drop 1).findIdx? endsSvalue with
  | some further => min (further + 1) dzSvalueLen
  | none => dzSvalueLen

/-- `strncpy`, which pads with terminators, and the terminator. The latest write comes first. -/
def copyWrites (value : Text) : List (Nat × Char) :=
  (copyLength value, nul) :: (List.range (copyLength value)).reverse.map fun index =>
    (index, (cString value).getD index nul)

/-- The writes of `readSvalue`. -/
def svalueWrites : Bool → Text → List (Nat × Char)
  | true, [] => copyWrites []
  | false, [] => []
  | true, char :: rest =>
      if beforeSvalue char then svalueWrites true rest
      else svalueWrites false rest ++ copyWrites (char :: rest)
  | false, char :: rest =>
      if char = ',' ∨ char = nul then [] else svalueWrites (char = ':') rest

/-- The writes of `readQuoted`. -/
def quotedWrites (svalueStr memory : Text) : List (Nat × Char) :=
  if strncmpEqual idxName memory 5 then []
  else if strncmpEqual nvalueName memory 8 then []
  else if strncmpEqual svalueStr memory 9 then svalueWrites false (memory.drop 9)
  else []

/-- The writes of `scanFrom`. -/
def scanWrites (svalueStr : Text) :
    Text → Nat → Nat → Nat → DomoticzRequest → List (Nat × Char)
  | [], _, _, _, _ => []
  | _ :: rest, left, passed + 1, found, request =>
      scanWrites svalueStr rest (left - 1) passed found request
  | char :: rest, left, 0, found, request =>
      if left = 0 ∨ char = nul then []
      else if char = '"' then
        let read := readQuoted svalueStr (char :: rest) found request
        let later := if 4 ≤ read.1 then []
          else scanWrites svalueStr rest (left - 1) read.2.2 read.1 read.2.1
        later ++ quotedWrites svalueStr (char :: rest)
      else scanWrites svalueStr rest (left - 1) 0 found request

def parseWrites (str : Text) (len : Nat) (idx nvalue : Int) (svalueStr : Text) :
    List (Nat × Char) :=
  scanWrites svalueStr str len 0 0 ⟨idx, nvalue, []⟩ ++ [(0, nul)]

section Contents

variable (start : Nat → Char)

def svalueIn (memory : Nat → Char) : Text :=
  cString ((List.range (dzSvalueLen + 1)).map memory)

theorem copy_length_le (value : Text) : copyLength value ≤ dzSvalueLen := by
  unfold copyLength
  split
  · exact min_le_right _ _
  · exact le_refl _

theorem replay_append (later earlier : List (Nat × Char)) :
    replay start (later ++ earlier) = replay (replay start earlier) later := by
  simp [replay, List.foldr_append]

theorem replay_range (length index : Nat) (source : Nat → Char) :
    replay start ((List.range length).reverse.map fun index => (index, source index)) index =
      if index < length then source index else start index := by
  induction length with
  | zero => rfl
  | succ length ih =>
      rw [List.range_succ, List.reverse_append, List.reverse_singleton, List.singleton_append,
        List.map_cons, replay_cons]
      rcases Nat.lt_trichotomy index length with less | rfl | more
      · rw [Function.update_of_ne less.ne, ih, if_pos less, if_pos (by omega)]
      · rw [Function.update_self, if_pos (Nat.lt_succ_self _)]
      · rw [Function.update_of_ne more.ne', ih, if_neg (by omega), if_neg (by omega)]

theorem replay_copy (value : Text) (index : Nat) :
    replay start (copyWrites value) index =
      if index < copyLength value then (cString value).getD index nul
      else if index = copyLength value then nul else start index := by
  unfold copyWrites
  rw [replay_cons]
  by_cases last : index = copyLength value
  · subst last
    rw [Function.update_self, if_neg (lt_irrefl _), if_pos rfl]
  · rw [Function.update_of_ne last, replay_range, if_neg last]

theorem c_string_range {memory : Nat → Char} {string : Text} {length size : Nat}
    (visible : nul ∉ string) (fits : length < size)
    (inside : ∀ index < length, memory index = string.getD index nul)
    (ended : memory length = nul) :
    cString ((List.range size).map memory) = string.take length := by
  have written : (List.range (string.take length).length).map memory = string.take length := by
    apply List.ext_getElem (by simp)
    intro index _ within
    rw [List.length_take] at within
    rw [List.getElem_map, List.getElem_range, inside index (by omega), List.getElem_take,
      List.getD_eq_getElem _ _ (by omega)]
  have stops : memory (string.take length).length = nul := by
    rcases Nat.lt_or_ge string.length length with short | long
    · rw [List.length_take, min_eq_right (by omega), inside _ short, List.getD_eq_default _ _ (le_refl _)]
    · rw [List.length_take, min_eq_left long, ended]
  have bound : (string.take length).length < size := by
    rw [List.length_take]
    omega
  obtain ⟨more, room⟩ := Nat.exists_eq_add_of_lt bound
  rw [room, Nat.add_assoc, List.range_add, List.range_succ_eq_map, List.map_append, written]
  simp only [List.map_cons, Nat.add_zero, stops]
  exact c_string_terminated (fun member => visible (List.mem_of_mem_take member)) _

theorem copy_svalue_take (value : Text) :
    copySvalue value = (cString value).take (copyLength value) := by
  cases value with
  | nil => rfl
  | cons char rest =>
      have run : (rest.takeWhile fun next => !endsSvalue next) =
          rest.take ((rest.findIdx? endsSvalue).getD rest.length) := by
        rw [List.takeWhile_eq_take_findIdx_not, ← List.findIdx_eq_getD_findIdx?]
        simp only [Bool.not_not]
      rw [copySvalue, run, cString, cString, List.take_takeWhile]
      congr 1
      simp only [copyLength, List.drop_one, List.tail_cons]
      cases rest.findIdx? endsSvalue with
      | none => rw [Option.getD_none, List.take_length]
      | some further =>
          rw [Option.getD_some, ← List.take_succ_cons, List.take_take, min_comm]

theorem svalue_in_copy (value : Text) :
    svalueIn (replay start (copyWrites value)) = copySvalue value := by
  rw [copy_svalue_take]
  apply c_string_range (nul_not_in_c_string value)
  · exact Nat.lt_succ_of_le (copy_length_le value)
  · intro index within
    rw [replay_copy, if_pos within]
  · rw [replay_copy, if_neg (lt_irrefl _), if_pos rfl]

theorem svalue_in_loop (waiting : Bool) (text : Text) :
    svalueIn (replay start (svalueWrites waiting text)) =
      (readSvalue waiting text (svalueIn start)).value := by
  induction text generalizing waiting start with
  | nil =>
      cases waiting with
      | true => exact svalue_in_copy start []
      | false => rfl
  | cons char rest ih =>
      cases waiting with
      | true =>
          rw [svalueWrites, readSvalue]
          split_ifs
          · exact ih start true
          · rw [replay_append, ih, svalue_in_copy]
      | false =>
          rw [svalueWrites, readSvalue]
          split_ifs
          · rfl
          · exact ih start _

theorem svalue_in_quoted (memory : Text) (found : Nat) (request : DomoticzRequest)
    (holds : svalueIn start = request.svalue) :
    svalueIn (replay start (quotedWrites svalue2Name memory)) =
      (readQuoted svalue2Name memory found request).2.1.svalue := by
  unfold quotedWrites readQuoted
  split_ifs
  · exact holds
  · exact holds
  · rw [svalue_in_loop, holds]
  · exact holds

theorem svalue_in_scan (memory : Text) (left passed found : Nat) (request : DomoticzRequest)
    (holds : svalueIn start = request.svalue) :
    svalueIn (replay start (scanWrites svalue2Name memory left passed found request)) =
      (scanFrom svalue2Name memory left passed found request).2.svalue := by
  induction memory generalizing left passed found request start with
  | nil => rw [scanWrites, scanFrom]; exact holds
  | cons char rest ih =>
      cases passed with
      | succ passed => exact ih start _ _ _ _ holds
      | zero =>
          rw [scanWrites, scanFrom]
          split_ifs with ended quote
          · exact holds
          · have read := svalue_in_quoted start (char :: rest) found request holds
            simp only [replay_append]
            split_ifs
            · exact read
            · exact ih _ _ _ _ _ read
          · exact ih start _ _ _ _ holds

theorem svalue_in_parse (memory : Text) (len : Nat) (idx nvalue : Int) :
    svalueIn (replay start (parseWrites memory len idx nvalue svalue2Name)) =
      (parseJSONmqttrequest memory len idx nvalue svalue2Name).2.svalue := by
  rw [parseWrites, replay_append]
  apply svalue_in_scan
  simp [svalueIn, replay, cString, List.range_succ_eq_map]

end Contents

def FitsBuffer (start : Nat → Char) (writes : List (Nat × Char)) : Prop :=
  (∀ write ∈ writes, write.1 < dzSvalueLen) ∧
    ∃ index < dzSvalueLen, replay start writes index = nul

/-- Among the characters behind the first one a copy ends early enough for its terminator. -/
def HasRoom (value : Text) : Prop :=
  ∃ mark ∈ (value.drop 1).take (dzSvalueLen - 1), endsSvalue mark = true

def Lands : Text → Prop
  | [] => True
  | char :: _ => beforeSvalue char = false

/-- The scan of the first `len` characters of the memory comes to `rest`, with `left` of them
left and so many fields found. -/
inductive Comes (memory : Text) (len : Nat) : Nat → Nat → Text → Prop
  | start : Comes memory len len 0 memory
  | other {left found : Nat} {char : Char} {rest : Text}
      (prior : Comes memory len (left + 1) found (char :: rest)) (noQuote : char ≠ '"')
      (visible : char ≠ nul) : Comes memory len left found rest
  | quote {left found : Nat} {rest : Text} (prior : Comes memory len (left + 1) found ('"' :: rest))
      (unnamed : ∀ name ∈ quotedNames, ¬ name <+: '"' :: rest) : Comes memory len left found rest
  | key {left found : Nat} {name passed rest : Text} {stop : Char}
      (prior : Comes memory len (left + 1) found (name ++ (passed ++ stop :: rest)))
      (named : name ∈ quotedNames) (ends : LoopEnds name passed stop)
      (few : found + loopHits name passed < 4) :
      Comes memory len (left - (name.length + passed.length)) (found + loopHits name passed) rest

/-- Every value that the scan copies ends early enough. -/
def ValuesFit (memory : Text) (len : Nat) : Prop :=
  ∀ left found text, Comes memory len (left + 1) found (svalue2Name ++ text) →
    ∀ front value, text = front ++ value → GoesOn false front → waitingAfter false front = true →
      Lands value → HasRoom value

section Copies

theorem copy_fits_iff (value : Text) :
    (∀ write ∈ copyWrites value, write.1 < dzSvalueLen) ↔ HasRoom value := by
  have all : (∀ write ∈ copyWrites value, write.1 < dzSvalueLen) ↔
      copyLength value < dzSvalueLen := by
    simp only [copyWrites, List.forall_mem_cons, List.forall_mem_map, List.mem_reverse,
      List.mem_range]
    exact ⟨fun each => each.1, fun short => ⟨short, fun index within => within.trans short⟩⟩
  rw [all, copyLength, HasRoom]
  generalize value.drop 1 = rest
  split
  · next further found =>
      obtain ⟨within, ends, before⟩ := List.findIdx?_eq_some_iff_getElem.mp found
      constructor
      · intro short
        refine ⟨rest[further], List.mem_take_iff_getElem.mpr ⟨further, ?_, rfl⟩, ends⟩
        omega
      · rintro ⟨mark, member, marks⟩
        obtain ⟨index, inside, rfl⟩ := List.mem_take_iff_getElem.mp member
        have first : further ≤ index := by
          by_contra later
          exact before index (by omega) marks
        simp only [dzSvalueLen] at inside ⊢
        omega
  · next none =>
      constructor
      · exact fun short => absurd short (lt_irrefl _)
      · rintro ⟨mark, member, marks⟩
        have unmarked := List.findIdx?_eq_none_iff.mp none mark (List.mem_of_mem_take member)
        exact absurd marks (by rw [unmarked]; exact Bool.false_ne_true)

theorem svalue_writes_cons (waiting : Bool) {char : Char} (rest : Text)
    (goes : waiting = true ∨ ¬ EndsLoop char) :
    svalueWrites waiting (char :: rest) = svalueWrites (openAfter waiting char) rest ++
      if waiting = true ∧ beforeSvalue char = false then copyWrites (char :: rest) else [] := by
  cases waiting with
  | true => cases before : beforeSvalue char <;> simp [svalueWrites, before]
  | false =>
      have passes : ¬ (char = ',' ∨ char = nul) := goes.resolve_left Bool.false_ne_true
      rw [svalueWrites, if_neg passes, open_after_idle]
      simp

theorem svalue_writes_end {waiting : Bool} {char : Char} (rest : Text)
    (stops : ¬ (waiting = true ∨ ¬ EndsLoop char)) : svalueWrites waiting (char :: rest) = [] := by
  obtain ⟨idle, ends⟩ := not_or.mp stops
  have stopped : char = ',' ∨ char = nul := not_not.mp ends
  rw [Bool.eq_false_iff.mpr idle, svalueWrites, if_pos stopped]

/-- What the loop writes is written by copies from where it takes a value to begin. -/
theorem mem_svalue_writes {waiting : Bool} {text : Text} {write : Nat × Char} :
    write ∈ svalueWrites waiting text ↔
      ∃ front value, text = front ++ value ∧ GoesOn waiting front ∧
        waitingAfter waiting front = true ∧ Lands value ∧ write ∈ copyWrites value := by
  induction text generalizing waiting with
  | nil =>
      cases waiting with
      | true =>
          constructor
          · exact fun member => ⟨[], [], rfl, trivial, rfl, trivial, member⟩
          · rintro ⟨front, value, whole, -, -, -, member⟩
            obtain ⟨rfl, rfl⟩ := List.append_eq_nil_iff.mp whole.symm
            exact member
      | false =>
          constructor
          · exact fun member => absurd member List.not_mem_nil
          · rintro ⟨front, value, whole, -, waits, -, -⟩
            obtain ⟨rfl, rfl⟩ := List.append_eq_nil_iff.mp whole.symm
            exact absurd waits Bool.false_ne_true
  | cons char rest ih =>
      constructor
      · intro member
        by_cases goes : waiting = true ∨ ¬ EndsLoop char
        · rw [svalue_writes_cons waiting rest goes, List.mem_append] at member
          rcases member with later | here
          · obtain ⟨front, value, rfl, further, waits, lands, copied⟩ := ih.mp later
            exact ⟨char :: front, value, rfl, ⟨goes, further⟩, waits, lands, copied⟩
          · split_ifs at here with begins
            · exact ⟨[], char :: rest, rfl, trivial, begins.1, begins.2, here⟩
            · exact absurd here List.not_mem_nil
        · rw [svalue_writes_end rest goes] at member
          exact absurd member List.not_mem_nil
      · rintro ⟨front, value, whole, goes, waits, lands, copied⟩
        cases front with
        | nil =>
            obtain rfl : waiting = true := waits
            rw [List.nil_append] at whole
            subst whole
            rw [svalue_writes_cons true rest (Or.inl rfl), if_pos ⟨rfl, lands⟩]
            exact List.mem_append_right _ copied
        | cons first front =>
            obtain ⟨rfl, rfl⟩ := List.cons.inj whole
            rw [svalue_writes_cons waiting _ goes.1]
            exact List.mem_append_left _ (ih.mpr ⟨front, value, rfl, goes.2, waits, lands, copied⟩)

end Copies

section Scan

variable {left found : Nat}

theorem writes_passed (memory : Text) (left passed found : Nat) (request : DomoticzRequest) :
    scanWrites svalue2Name memory left passed found request =
      scanWrites svalue2Name (memory.drop passed) (left - passed) 0 found request := by
  induction memory generalizing left passed with
  | nil => simp [scanWrites]
  | cons char rest ih =>
      cases passed with
      | zero => rfl
      | succ passed => rw [scanWrites, ih, List.drop_succ_cons, Nat.sub_sub, Nat.add_comm 1]

theorem writes_other {char : Char} (rest : Text) (request : DomoticzRequest)
    (noQuote : char ≠ '"') (visible : char ≠ nul) :
    scanWrites svalue2Name (char :: rest) (left + 1) 0 found request =
      scanWrites svalue2Name rest left 0 found request := by
  rw [scanWrites, if_neg (by simp [visible]), if_neg noQuote, Nat.add_sub_cancel]

theorem quoted_writes_name {name : Text} (named : name ∈ quotedNames) (text : Text) :
    quotedWrites svalue2Name (name ++ text) =
      if name = svalue2Name then svalueWrites false text else [] := by
  have noIdx : strncmpEqual idxName (name ++ text) 5 = true ↔ idxName = name :=
    name_found_iff text (by decide) named rfl
  have noNvalue : strncmpEqual nvalueName (name ++ text) 8 = true ↔ nvalueName = name :=
    name_found_iff text (by decide) named rfl
  have string : strncmpEqual svalue2Name (name ++ text) 9 = true ↔ svalue2Name = name :=
    name_found_iff text (by decide) named rfl
  simp only [quotedNames, List.mem_cons, List.not_mem_nil, or_false] at named
  unfold quotedWrites
  simp only [noIdx, noNvalue, string]
  rcases named with rfl | rfl | rfl
  · rw [if_pos rfl, if_neg (by decide)]
  · rw [if_neg (by decide), if_pos rfl, if_neg (by decide)]
  · rw [if_neg (by decide), if_neg (by decide), if_pos rfl, if_pos rfl]
    rfl

theorem quoted_writes_unnamed {memory : Text} (unnamed : ∀ name ∈ quotedNames, ¬ name <+: memory) :
    quotedWrites svalue2Name memory = [] := by
  have noIdx := @no_name_compared idxName memory 5 (by decide) rfl unnamed
  have noNvalue := @no_name_compared nvalueName memory 8 (by decide) rfl unnamed
  have noSvalue := @no_name_compared svalue2Name memory 9 (by decide) rfl unnamed
  unfold quotedWrites
  rw [if_neg noIdx, if_neg noNvalue, if_neg noSvalue]

theorem writes_quote {rest : Text} (request : DomoticzRequest) (few : found < 4)
    (unnamed : ∀ name ∈ quotedNames, ¬ name <+: '"' :: rest) :
    scanWrites svalue2Name ('"' :: rest) (left + 1) 0 found request =
      scanWrites svalue2Name rest left 0 found request := by
  rw [scanWrites, if_neg (by simp [nul]), if_pos rfl, read_quoted_unnamed found request unnamed,
    quoted_writes_unnamed unnamed]
  simp only [List.append_nil]
  rw [if_neg (by omega), Nat.add_sub_cancel]

theorem writes_named {name text : Text} {later length : Nat} {request read : DomoticzRequest}
    (named : name ∈ quotedNames)
    (leads : readQuoted svalue2Name (name ++ text) found request =
      (later, read, name.length + length)) :
    scanWrites svalue2Name (name ++ text) (left + 1) 0 found request =
      (if 4 ≤ later then []
        else scanWrites svalue2Name (text.drop (length + 1)) (left - (name.length + length)) 0
          later read) ++ quotedWrites svalue2Name (name ++ text) := by
  obtain ⟨inner, rfl, -⟩ := quoted_name_shape named
  rw [List.cons_append] at leads ⊢
  have passed : (inner ++ ['"'] ++ text).drop (('"' :: (inner ++ ['"'])).length + length) =
      text.drop (length + 1) := by
    rw [List.length_cons, Nat.add_assoc, Nat.add_comm 1, List.drop_length_add_append]
  rw [scanWrites, if_neg (by simp [nul]), if_pos rfl, leads]
  simp only
  rw [writes_passed, passed, Nat.add_sub_cancel]

theorem writes_key {name passed rest : Text} {stop : Char} (named : name ∈ quotedNames)
    (ends : LoopEnds name passed stop) (request : DomoticzRequest) :
    ∃ read, scanWrites svalue2Name (name ++ (passed ++ stop :: rest)) (left + 1) 0 found request =
      (if 4 ≤ found + loopHits name passed then []
        else scanWrites svalue2Name rest (left - (name.length + passed.length)) 0
          (found + loopHits name passed) read) ++
        quotedWrites svalue2Name (name ++ (passed ++ stop :: rest)) := by
  obtain ⟨read, leads⟩ := read_quoted_runs named ends found request
  refine ⟨read, ?_⟩
  rw [writes_named named (leads rest), List.drop_length_add_append, List.drop_one, List.tail_cons]

theorem read_number_whole {text : Text} (plain : ∀ char ∈ text, ¬ EndsLoop char) (value : Int) :
    (readNumber text value).length = text.length := by
  obtain ⟨before, -, length⟩ := read_number_passes plain [] value
  rw [List.append_nil] at length
  exact length

theorem read_svalue_whole {waiting : Bool} {text : Text} (passes : GoesOn waiting text)
    (svalue : Text) : text.length ≤ (readSvalue waiting text svalue).length := by
  induction text generalizing waiting svalue with
  | nil => exact Nat.zero_le _
  | cons char rest ih =>
      rw [read_svalue_cons waiting _ _ (passes.1.imp_right not_or.mp)]
      exact Nat.succ_le_succ (ih passes.2 _)

/-- Behind a key whose loop meets no end nothing is scanned. -/
theorem writes_last_key {name text : Text} (named : name ∈ quotedNames)
    (passes : LoopPasses name text) (request : DomoticzRequest) :
    scanWrites svalue2Name (name ++ text) (left + 1) 0 found request =
      quotedWrites svalue2Name (name ++ text) := by
  have nothing {later length : Nat} {read : DomoticzRequest} (whole : text.length ≤ length)
      (leads : readQuoted svalue2Name (name ++ text) found request =
        (later, read, name.length + length)) :
      scanWrites svalue2Name (name ++ text) (left + 1) 0 found request =
        quotedWrites svalue2Name (name ++ text) := by
    rw [writes_named named leads, List.drop_of_length_le (by omega), scanWrites, ite_self,
      List.nil_append]
  by_cases string : name = svalue2Name
  · rw [LoopPasses, if_pos string] at passes
    exact nothing (read_svalue_whole passes _) (read_quoted_svalue text request string)
  · have number := number_name named string
    rw [LoopPasses, if_neg string] at passes
    exact nothing (read_number_whole passes _).ge (read_quoted_number text request number rfl)

theorem comes_few {memory : Text} {len : Nat} {rest : Text}
    (comes : Comes memory len left found rest) : found < 4 := by
  induction comes with
  | start => exact Nat.zero_lt_succ 3
  | other prior noQuote visible ih => exact ih
  | quote prior unnamed ih => exact ih
  | key prior named ends few ih => exact few

/-- Where the scan comes to, it goes on and writes. -/
theorem writes_of_comes {memory rest : Text} {len : Nat} (start : DomoticzRequest)
    (comes : Comes memory len left found rest) :
    ∃ request, ∀ write ∈ scanWrites svalue2Name rest left 0 found request,
      write ∈ scanWrites svalue2Name memory len 0 0 start := by
  induction comes with
  | start => exact ⟨start, fun write member => member⟩
  | other prior noQuote visible ih =>
      obtain ⟨request, inside⟩ := ih
      rw [writes_other _ _ noQuote visible] at inside
      exact ⟨request, inside⟩
  | quote prior unnamed ih =>
      obtain ⟨request, inside⟩ := ih
      rw [writes_quote request (comes_few prior) unnamed] at inside
      exact ⟨request, inside⟩
  | key prior named ends few ih =>
      obtain ⟨request, inside⟩ := ih
      obtain ⟨read, goes⟩ := writes_key named ends request
      rw [goes, if_neg (by omega)] at inside
      exact ⟨read, fun write member => inside write (List.mem_append_left _ member)⟩

theorem comes_of_writes {memory rest : Text} {len : Nat} {write : Nat × Char}
    (comes : Comes memory len left found rest) (request : DomoticzRequest)
    (member : write ∈ scanWrites svalue2Name rest left 0 found request) :
    ∃ left found text, Comes memory len (left + 1) found (svalue2Name ++ text) ∧
      write ∈ svalueWrites false text := by
  induction length : rest.length using Nat.strong_induction_on
    generalizing rest left found request with
  | _ bound shorter =>
      subst length
      cases rest with
      | nil => exact absurd member List.not_mem_nil
      | cons char rest =>
          cases left with
          | zero => simp [scanWrites] at member
          | succ left =>
              by_cases visible : char = nul
              · simp [scanWrites, visible] at member
              by_cases noQuote : char ≠ '"'
              · rw [writes_other _ _ noQuote visible] at member
                exact shorter rest.length (Nat.lt_succ_self _)
                  (comes.other noQuote visible) request member rfl
              obtain rfl := not_not.mp noQuote
              by_cases begun : ∃ name ∈ quotedNames, name <+: '"' :: rest
              · obtain ⟨name, named, text, whole⟩ := begun
                rw [← whole] at comes member shorter
                have here (written : write ∈ quotedWrites svalue2Name (name ++ text)) :
                    ∃ left found text, Comes memory len (left + 1) found (svalue2Name ++ text) ∧
                      write ∈ svalueWrites false text := by
                  rw [quoted_writes_name named] at written
                  split_ifs at written with string
                  · exact ⟨left, found, text, string ▸ comes, written⟩
                  · exact absurd written List.not_mem_nil
                rcases loop_passes_or_ends name text with passes | ⟨passed, stop, later, rfl, ends⟩
                · rw [writes_last_key named passes] at member
                  exact here member
                · obtain ⟨read, goes⟩ := writes_key named ends request
                  rw [goes, List.mem_append] at member
                  rcases member with further | written
                  · split_ifs at further with enough
                    · exact absurd further List.not_mem_nil
                    · refine shorter later.length ?_
                        (comes.key named ends (by omega)) read further rfl
                      simp only [List.length_append, List.length_cons]
                      omega
                  · exact here written
              have unnamed : ∀ name ∈ quotedNames, ¬ name <+: '"' :: rest :=
                fun name named begins => begun ⟨name, named, begins⟩
              rw [writes_quote request (comes_few comes) unnamed] at member
              exact shorter rest.length (Nat.lt_succ_self _) (comes.quote unnamed) request
                member rfl

theorem quoted_writes_of_comes {memory text : Text} {len : Nat} {write : Nat × Char}
    (start : DomoticzRequest) (comes : Comes memory len (left + 1) found (svalue2Name ++ text))
    (member : write ∈ svalueWrites false text) :
    write ∈ scanWrites svalue2Name memory len 0 0 start := by
  obtain ⟨request, inside⟩ := writes_of_comes start comes
  apply inside write
  have written : write ∈ quotedWrites svalue2Name (svalue2Name ++ text) := by
    rw [quoted_writes_name (by decide), if_pos rfl]
    exact member
  rcases loop_passes_or_ends svalue2Name text with passes | ⟨passed, stop, later, rfl, ends⟩
  · rw [writes_last_key (by decide) passes]
    exact written
  · obtain ⟨read, goes⟩ := writes_key (show svalue2Name ∈ quotedNames by decide) ends request
    rw [goes]
    exact List.mem_append_right _ written

end Scan

section Buffer

def Terminates (writes : List (Nat × Char)) : Prop := ∀ write ∈ writes.head?, write.2 = nul

theorem terminates_nil : Terminates [] := fun write last => absurd last (Option.not_mem_none write)

theorem terminates_append {later earlier : List (Nat × Char)} (last : Terminates later)
    (first : Terminates earlier) : Terminates (later ++ earlier) := by
  cases later with
  | nil => exact first
  | cons write later => exact last

theorem copy_terminates (value : Text) : Terminates (copyWrites value) := by
  intro write last
  obtain rfl := Option.mem_some.mp last
  rfl

theorem svalue_writes_terminate (waiting : Bool) (text : Text) :
    Terminates (svalueWrites waiting text) := by
  induction text generalizing waiting with
  | nil =>
      cases waiting with
      | true => exact copy_terminates []
      | false => exact terminates_nil
  | cons char rest ih =>
      by_cases goes : waiting = true ∨ ¬ EndsLoop char
      · rw [svalue_writes_cons waiting rest goes]
        refine terminates_append (ih _) ?_
        split_ifs
        · exact copy_terminates _
        · exact terminates_nil
      · rw [svalue_writes_end rest goes]
        exact terminates_nil

theorem quoted_writes_terminate (memory : Text) :
    Terminates (quotedWrites svalue2Name memory) := by
  unfold quotedWrites
  split_ifs
  · exact terminates_nil
  · exact terminates_nil
  · exact svalue_writes_terminate false _
  · exact terminates_nil

theorem scan_writes_terminate (memory : Text) (left passed found : Nat)
    (request : DomoticzRequest) :
    Terminates (scanWrites svalue2Name memory left passed found request) := by
  induction memory generalizing left passed found request with
  | nil => exact terminates_nil
  | cons char rest ih =>
      cases passed with
      | succ passed => exact ih _ _ _ _
      | zero =>
          rw [scanWrites]
          split_ifs
          · exact terminates_nil
          · apply terminates_append _ (quoted_writes_terminate _)
            split_ifs
            · exact terminates_nil
            · exact ih _ _ _ _
          · exact ih _ _ _ _

/-- Writes that stay in the buffer leave a terminator in it. -/
theorem fits_buffer_iff (start : Nat → Char) (memory : Text) (len : Nat) (idx nvalue : Int) :
    FitsBuffer start (parseWrites memory len idx nvalue svalue2Name) ↔
      ∀ write ∈ scanWrites svalue2Name memory len 0 0 ⟨idx, nvalue, []⟩, write.1 < dzSvalueLen := by
  have ends : Terminates (parseWrites memory len idx nvalue svalue2Name) :=
    terminates_append (scan_writes_terminate _ _ _ _ _) fun write last => by
      obtain rfl := Option.mem_some.mp last
      rfl
  have all : (∀ write ∈ parseWrites memory len idx nvalue svalue2Name, write.1 < dzSvalueLen) ↔
      ∀ write ∈ scanWrites svalue2Name memory len 0 0 ⟨idx, nvalue, []⟩,
        write.1 < dzSvalueLen := by
    rw [parseWrites, List.forall_mem_append, List.forall_mem_singleton]
    exact and_iff_left (by decide)
  unfold FitsBuffer
  rw [all]
  refine and_iff_left_of_imp fun inside => ?_
  have first : (0, nul) ∈ parseWrites memory len idx nvalue svalue2Name :=
    List.mem_append_right _ List.mem_cons_self
  rw [← all] at inside
  cases writes : parseWrites memory len idx nvalue svalue2Name with
  | nil =>
      rw [writes] at first
      exact absurd first List.not_mem_nil
  | cons write earlier =>
      rw [writes] at inside ends
      refine ⟨write.1, inside write List.mem_cons_self, ?_⟩
      rw [replay_cons, Function.update_self]
      exact ends write rfl

/-- The writes stay in the buffer and leave it terminated, if and only if every value that the
scan comes to has a quote, a comma or a brace among the 19 characters behind its first. -/
theorem svalue_fits_iff (start : Nat → Char) (payload junk : Text) (idx nvalue : Int) :
    FitsBuffer start
        (parseWrites (payload ++ nul :: junk) payload.length idx nvalue svalue2Name) ↔
      ValuesFit (payload ++ nul :: junk) payload.length := by
  rw [fits_buffer_iff]
  constructor
  · intro inside left found text comes front value whole goes waits lands
    apply (copy_fits_iff value).mp
    intro write copied
    apply inside write
    apply quoted_writes_of_comes ⟨idx, nvalue, []⟩ comes
    exact mem_svalue_writes.mpr ⟨front, value, whole, goes, waits, lands, copied⟩
  · intro fit write member
    obtain ⟨left, found, text, comes, written⟩ := comes_of_writes Comes.start _ member
    obtain ⟨front, value, whole, goes, waits, lands, copied⟩ := mem_svalue_writes.mp written
    have room := fit left found text comes front value whole goes waits lands
    exact (copy_fits_iff value).mpr room write copied

theorem long_value_overflows : ¬ ∀ start payload junk idx nvalue, FitsBuffer start
    (parseWrites (payload ++ nul :: junk) payload.length idx nvalue svalue2Name) := by
  intro fits
  have inside := (fits (fun _ => nul)
    "\x7b\"idx\":1,\"nvalue\":0,\"svalue2\":\"12345678901234567890\"\x7d".toList [] (-1) (-1)).1
  exact absurd (inside (20, nul) (by decide +kernel)) (by decide)

end Buffer

end SprinklerD.SvalueBuffer
