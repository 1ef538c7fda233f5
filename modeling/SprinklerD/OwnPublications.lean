import SprinklerD.Broadcast

/-!
# The daemon hears itself

The daemon subscribes to everything below its base topic and so receives what it
publishes there. A command has a part `set` after the first or the second part of its
topic; no topic of the daemon's own has one, whatever follows it in memory.
-/

namespace SprinklerD.OwnPublications

open Foundation.CString Foundation.Decimal
open SprinklerD.Config SprinklerD.NetServices SprinklerD.Broadcast

set_option autoImplicit false

theorem topic_pointers_end {part : Text} (afterTopic : Text) (plain : '/' ∉ part) :
    topicPointers afterTopic part = [] := by
  induction part with
  | nil => rfl
  | cons char rest ih =>
      have other : char ≠ '/' := fun slash => plain (slash ▸ List.mem_cons_self)
      have later := ih fun member => plain (List.mem_cons_of_mem _ member)
      cases rest with
      | nil => rw [topicPointers, if_neg other]
      | cons next rest => rw [topicPointers, if_neg other, later]

/-- The scan finds the slash after a part and jumps over the character behind it. -/
theorem topic_pointers_part {part : Text} (afterTopic : Text) (plain : '/' ∉ part)
    (next : Char) (rest : Text) :
    topicPointers afterTopic (part ++ '/' :: next :: rest) =
      (next :: rest ++ afterTopic) :: topicPointers afterTopic rest := by
  induction part with
  | nil => rw [List.nil_append, topicPointers, if_pos rfl]
  | cons char part ih =>
      have other : char ≠ '/' := fun slash => plain (slash ▸ List.mem_cons_self)
      have later := ih fun member => plain (List.mem_cons_of_mem _ member)
      cases part with
      | nil =>
          rw [List.nil_append] at later
          rw [List.cons_append, List.nil_append, topicPointers, if_neg other, later]
      | cons second part =>
          rw [List.cons_append, List.cons_append, topicPointers, if_neg other,
            ← List.cons_append, later]

/-- What a pointer to `next` and the rest of the memory can never be equal to. -/
theorem points_elsewhere {next first : Char} (rest word : Text) (count : Nat)
    (visible : next ≠ nul) (wordVisible : first ≠ nul) (different : next ≠ first) :
    strncmpEqual (next :: rest) (first :: word) (count + 1) = false := by
  have string {letter : Char} (text : Text) (shown : letter ≠ nul) :
      cString (letter :: text) = letter :: cString text := by
    rw [cString, List.takeWhile_cons, if_pos (decide_eq_true shown), ← cString]
  unfold strncmpEqual compared
  rw [string rest visible, string word wordVisible]
  apply decide_eq_false
  intro same
  exact different (List.cons.inj same).1

/-- Without a part `set` no topic is a command. -/
theorem topic_unknown {pt2 pt3 : Option Text} (noSet : pointsTo pt3 "set".toList 3 = false) :
    mqttTopicOf pt2 pt3 none = .unknown := by
  have neither : ∀ test : Bool, ¬ (test = true ∧ pointsTo pt3 "set".toList 3 = true) :=
    fun test both => Bool.eq_false_iff.mp noSet both.2
  unfold mqttTopicOf
  rw [if_neg fun all => Bool.false_ne_true all.2.2, if_neg (neither _), if_neg (neither _),
    if_neg (neither _), if_neg (neither _), if_neg (neither _), if_neg (neither _)]

theorem print_int_plain (value : Int) : '/' ∉ printInt value := by
  have digits (number : Nat) : '/' ∉ printNat number := fun member =>
    Bool.eq_false_iff.mp (by decide) (is_digit_of_mem_print_nat member)
  unfold printInt
  split_ifs
  · intro member
    rcases List.mem_cons.mp member with minus | digit
    · exact absurd minus (by decide)
    · exact digits _ digit
  · exact digits _

theorem zone_text_plain (zone : Int) : '/' ∉ zoneText zone := by
  intro member
  rcases List.mem_append.mp member with word | number
  · exact absurd word (by decide)
  · exact print_int_plain zone number

theorem first_part (topic : StatusTopic) :
    '/' ∉ (topicParts topic).1 ∧ ∃ next rest, (topicParts topic).1 = next :: rest := by
  cases topic with
  | zone zone => exact ⟨zone_text_plain zone, _, _, rfl⟩
  | zoneDuration zone => exact ⟨zone_text_plain zone, _, _, rfl⟩
  | zoneRemaining zone => exact ⟨zone_text_plain zone, _, _, rfl⟩
  | _ => exact ⟨by decide, _, _, rfl⟩

/-- The second part has no slash and does not begin like `set`. -/
theorem second_part {topic : StatusTopic} {second : Text}
    (some : (topicParts topic).2 = some second) :
    '/' ∉ second ∧ ∃ next rest, second = next :: rest ∧ next ≠ nul ∧ next ≠ 's' := by
  cases topic with
  | zoneDuration zone => cases some; exact ⟨by decide, _, _, rfl, by decide, by decide⟩
  | zoneRemaining zone => cases some; exact ⟨by decide, _, _, rfl, by decide, by decide⟩
  | cycleRemaining => cases some; exact ⟨by decide, _, _, rfl, by decide, by decide⟩
  | chanceOfRainDay => cases some; exact ⟨by decide, _, _, rfl, by decide, by decide⟩
  | rainTotalDay => cases some; exact ⟨by decide, _, _, rfl, by decide, by decide⟩
  | _ => cases some

/-- The scan of a topic of the daemon's own ends in no command. -/
theorem own_topic_unknown (topic : StatusTopic) (afterTopic : Text) :
    mqttTopicOf (topicPointers afterTopic (topicText topic))[0]?
      (topicPointers afterTopic (topicText topic))[1]?
      (topicPointers afterTopic (topicText topic))[2]? = .unknown := by
  obtain ⟨plain, next, rest, first⟩ := first_part topic
  rw [first] at plain
  have tail : '/' ∉ rest := fun member => plain (List.mem_cons_of_mem _ member)
  unfold topicText
  cases parts : (topicParts topic).2 with
  | none =>
      simp only [first]
      have scanned := topic_pointers_part afterTopic (List.not_mem_nil (a := '/')) next rest
      rw [List.nil_append, topic_pointers_end afterTopic tail] at scanned
      rw [scanned]
      exact topic_unknown rfl
  | some second =>
      obtain ⟨secondPlain, letter, word, rfl, visible, notSet⟩ := second_part parts
      have secondTail : '/' ∉ word := fun member => secondPlain (List.mem_cons_of_mem _ member)
      simp only [first]
      have scanned := topic_pointers_part afterTopic (List.not_mem_nil (a := '/')) next
        (rest ++ '/' :: letter :: word)
      rw [List.nil_append, topic_pointers_part afterTopic tail letter word,
        topic_pointers_end afterTopic secondTail] at scanned
      rw [List.cons_append, List.cons_append, scanned]
      exact topic_unknown (points_elsewhere _ _ 2 visible (by decide) notSet)

/-- A message on a topic of the daemon's own changes nothing. -/
theorem own_publications_are_no_commands (cfg : SprinklerdCfg) (now : Int)
    (st : SprinklerdState) (topic : StatusTopic) (afterTopic payload afterPayload : Text) :
    actionMqttMessage cfg now
      { topic := cfg.mqttTopic ++ topicText topic, afterTopic := afterTopic,
        payload := payload, afterPayload := afterPayload } st = st := by
  unfold actionMqttMessage
  simp only [List.drop_left]
  rw [own_topic_unknown]
  rfl

end SprinklerD.OwnPublications
