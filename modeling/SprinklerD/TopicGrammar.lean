import SprinklerD.OwnPublications

/-!
# Topics taken for a command

What a command topic is, and which topics the handler takes for one. The handler compares
the beginning of each part only, counts a slash anywhere below the base, and reads the
last part on into whatever follows the topic in memory.
-/

namespace SprinklerD.TopicGrammar

open Foundation.CString
open SprinklerD.Config SprinklerD.NetServices SprinklerD.OwnPublications

set_option autoImplicit false

/-- What stands between the base topic and the last part. -/
inductive CommandPart : Text → Prop
  | zone {number : Text} (numbered : number ≠ [])
      (decimal : ∀ char ∈ number, char.isDigit = true) : CommandPart ("zone".toList ++ number)
  | duration {number : Text} (numbered : number ≠ [])
      (decimal : ∀ char ∈ number, char.isDigit = true) :
      CommandPart ("zone".toList ++ number ++ "/duration".toList)
  | delay24h : CommandPart "24hdelay".toList
  | calendar : CommandPart "calendar".toList
  | cycleAllZones : CommandPart "cycleallzones".toList
  | rainTotal : CommandPart "raintotal".toList
  | chanceOfRain : CommandPart "chanceofrain".toList

def InGrammar (base topic : Text) : Prop :=
  ∃ part, CommandPart part ∧ topic = base ++ ('/' :: part ++ "/set".toList)

def comparedWord : MqttTopic → Text
  | .duration => "zone".toList
  | .delay24h => "24hdelay".toList
  | .calendar => "calend".toList
  | .cycleAllZones => "cycleallzones".toList
  | .rainTotal => "raintotal".toList
  | .chanceOfRain => "chanceofrain".toList
  | .zone => "zone".toList
  | .unknown => []

/-- The text below the base is taken for the command: after a first slash comes a part that
begins with its word, and the last part begins with `set` at the latest with what follows
the topic in memory. -/
inductive TakenAs (afterTopic below : Text) (kind : MqttTopic) : Int → Prop
  | option {lead first rest : Text} (known : kind ≠ .unknown) (single : kind ≠ .duration)
      (split : below = lead ++ '/' :: (first ++ '/' :: rest)) (plain : '/' ∉ lead)
      (part : '/' ∉ first) (begins : comparedWord kind <+: first)
      (set : "set".toList <+: rest ++ afterTopic) :
      TakenAs afterTopic below kind (atoi (first.drop 4))
  | duration {lead first second rest : Text} (timed : kind = .duration)
      (split : below = lead ++ '/' :: (first ++ '/' :: (second ++ '/' :: rest)))
      (plain : '/' ∉ lead) (part : '/' ∉ first) (begins : comparedWord kind <+: first)
      (inside : '/' ∉ second) (long : "duration".toList <+: second)
      (set : "set".toList <+: rest ++ afterTopic) :
      TakenAs afterTopic below kind (atoi (first.drop 4))

section Pointers

/-- The next pointers are those of the text behind the character after the slash. -/
theorem topic_pointers_slash {lead : Text} (afterTopic rest : Text) (plain : '/' ∉ lead) :
    topicPointers afterTopic (lead ++ '/' :: rest) =
      (rest ++ afterTopic) :: topicPointers afterTopic rest.tail := by
  cases rest with
  | cons next rest => exact topic_pointers_part afterTopic plain next rest
  | nil =>
      induction lead with
      | nil => rfl
      | cons char lead ih =>
          have other : char ≠ '/' := fun slash => plain (slash ▸ List.mem_cons_self)
          have later := ih fun member => plain (List.mem_cons_of_mem _ member)
          cases lead with
          | nil => rw [List.cons_append, List.nil_append, topicPointers, if_neg other]; exact later
          | cons second lead =>
              rw [List.cons_append, List.cons_append, topicPointers, if_neg other]
              exact later

theorem points_to_iff {pointer : Option Text} {word : Text} {count : Nat} (visible : nul ∉ word)
    (within : count ≤ word.length) :
    pointsTo pointer word count = true ↔ ∃ memory ∈ pointer, word.take count <+: memory := by
  cases pointer with
  | none => simp [pointsTo]
  | some memory => simp [pointsTo, strncmp_equal_iff visible within]

theorem first_pointer {afterTopic below memory : Text}
    (first : memory ∈ (topicPointers afterTopic below)[0]?) :
    ∃ lead rest, below = lead ++ '/' :: rest ∧ '/' ∉ lead ∧ memory = rest ++ afterTopic ∧
      topicPointers afterTopic below = memory :: topicPointers afterTopic rest.tail := by
  by_cases slash : '/' ∈ below
  · obtain ⟨lead, rest, split, plain⟩ := List.eq_append_cons_of_mem slash
    have pointers := topic_pointers_slash afterTopic rest plain
    rw [← split] at pointers
    rw [pointers] at first
    cases first
    exact ⟨lead, rest, split, plain, rfl, pointers⟩
  · rw [topic_pointers_end afterTopic slash] at first
    cases first

/-- The character the scan jumps over belongs to the word, so it is no slash. -/
theorem part_before_slash {word afterTopic rest mid later : Text} (visible : word ≠ [])
    (plain : '/' ∉ word) (begins : word <+: rest ++ afterTopic)
    (split : rest.tail = mid ++ '/' :: later) (clear : '/' ∉ mid) :
    ∃ part, rest = part ++ '/' :: later ∧ '/' ∉ part ∧ word <+: part := by
  cases rest with
  | nil => simp at split
  | cons next rest =>
      rw [List.tail_cons] at split
      subst split
      obtain ⟨first, others, rfl⟩ := List.exists_cons_of_ne_nil visible
      rw [List.cons_append] at begins
      have letter := (List.cons_prefix_cons.mp begins).1
      have noSlash : '/' ≠ next := fun slash => plain (letter ▸ slash ▸ List.mem_cons_self)
      refine ⟨next :: mid, rfl, ?_, ?_⟩
      · intro member
        exact (List.mem_cons.mp member).elim noSlash clear
      · apply @prefix_before _ _ _ _ (later ++ afterTopic) plain
        simpa using begins

theorem pointers_behind_part {word part : Text} (afterTopic later : Text) (visible : word ≠ [])
    (begins : word <+: part) (plain : '/' ∉ part) :
    topicPointers afterTopic (part ++ '/' :: later).tail =
      (later ++ afterTopic) :: topicPointers afterTopic later.tail := by
  cases part with
  | nil => exact absurd (List.prefix_nil.mp begins) visible
  | cons next rest =>
      exact topic_pointers_slash afterTopic later
        fun member => plain (List.mem_cons_of_mem _ member)

end Pointers

section Commands

variable {kind : MqttTopic}

theorem compared_word_plain (kind : MqttTopic) : '/' ∉ comparedWord kind := by
  cases kind <;> decide

theorem compared_word_length (known : kind ≠ .unknown) : 4 ≤ (comparedWord kind).length := by
  cases kind <;> first | decide | exact absurd rfl known

theorem compared_word_visible (known : kind ≠ .unknown) : comparedWord kind ≠ [] := by
  apply List.ne_nil_of_length_pos
  exact Nat.lt_of_lt_of_le (by decide) (compared_word_length known)

/-- What the tests of one branch say about the memory behind the pointers. -/
structure Tested (kind : MqttTopic) (pt2 pt3 pt4 : Option Text) : Prop where
  word : ∃ memory ∈ pt2, comparedWord kind <+: memory
  single : kind ≠ .duration → ∃ memory ∈ pt3, "set".toList <+: memory
  long : kind = .duration → (∃ memory ∈ pt3, "duration".toList <+: memory) ∧
    ∃ memory ∈ pt4, "set".toList <+: memory

theorem tested_option {pt2 pt3 pt4 : Option Text} {word : Text} {count : Nat}
    (single : kind ≠ .duration) (compared : comparedWord kind = word.take count)
    (visible : nul ∉ word) (within : count ≤ word.length)
    (tests : pointsTo pt2 word count = true ∧ pointsTo pt3 "set".toList 3 = true) :
    Tested kind pt2 pt3 pt4 where
  word := by
    rw [compared]
    exact (points_to_iff visible within).mp tests.1
  single := fun _ => (points_to_iff (by decide) (by decide)).mp tests.2
  long := fun timed => absurd timed single

theorem tested_of_topic {pt2 pt3 pt4 : Option Text} (taken : mqttTopicOf pt2 pt3 pt4 = kind)
    (known : kind ≠ .unknown) : Tested kind pt2 pt3 pt4 := by
  unfold mqttTopicOf at taken
  split_ifs at taken with duration delay calendar cycle rain chance zone
  · subst taken
    exact ⟨(points_to_iff (by decide) (by decide)).mp duration.1, fun other => absurd rfl other,
      fun _ => ⟨(points_to_iff (by decide) (by decide)).mp duration.2.1,
        (points_to_iff (by decide) (by decide)).mp duration.2.2⟩⟩
  · subst taken; exact tested_option (by decide) rfl (by decide) (by decide) delay
  · subst taken; exact tested_option (by decide) rfl (by decide) (by decide) calendar
  · subst taken; exact tested_option (by decide) rfl (by decide) (by decide) cycle
  · subst taken; exact tested_option (by decide) rfl (by decide) (by decide) rain
  · subst taken; exact tested_option (by decide) rfl (by decide) (by decide) chance
  · subst taken; exact tested_option (by decide) rfl (by decide) (by decide) zone
  · exact absurd taken.symm known

/-- Only the two commands on a zone begin alike. -/
theorem compared_word_apart {other : MqttTopic} (known : kind ≠ .unknown)
    (begins : comparedWord kind <+: comparedWord other) :
    kind = other ∨ (kind = .duration ∧ other = .zone) ∨ (kind = .zone ∧ other = .duration) := by
  revert known begins
  cases kind <;> cases other <;> decide

theorem tested_unique {pt2 pt3 pt4 : Option Text} {other : MqttTopic} (known : kind ≠ .unknown)
    (otherKnown : other ≠ .unknown) (tested : Tested kind pt2 pt3 pt4)
    (otherTested : Tested other pt2 pt3 pt4) : kind = other := by
  have apart {memory : Text} (set : "set".toList <+: memory)
      (long : "duration".toList <+: memory) : False :=
    absurd (List.prefix_or_prefix_of_prefix set long) (by decide)
  obtain ⟨memory, place, begins⟩ := tested.word
  obtain ⟨same, samePlace, otherBegins⟩ := otherTested.word
  cases Option.mem_unique place samePlace
  have alike : kind = other ∨ (kind = .duration ∧ other = .zone) ∨
      (kind = .zone ∧ other = .duration) := by
    rcases List.prefix_or_prefix_of_prefix begins otherBegins with shorter | longer
    · exact compared_word_apart known shorter
    · have turned := compared_word_apart otherKnown longer
      tauto
  rcases alike with same | ⟨rfl, rfl⟩ | ⟨rfl, rfl⟩
  · exact same
  · obtain ⟨memory, place, long⟩ := (tested.long rfl).1
    obtain ⟨same, samePlace, set⟩ := otherTested.single (by decide)
    cases Option.mem_unique place samePlace
    exact (apart set long).elim
  · obtain ⟨memory, place, long⟩ := (otherTested.long rfl).1
    obtain ⟨same, samePlace, set⟩ := tested.single (by decide)
    cases Option.mem_unique place samePlace
    exact (apart set long).elim

/-- Where the tests of a branch hold, no branch before it is taken. -/
theorem topic_of_tested {pt2 pt3 pt4 : Option Text} (known : kind ≠ .unknown)
    (tested : Tested kind pt2 pt3 pt4) : mqttTopicOf pt2 pt3 pt4 = kind := by
  have reached : mqttTopicOf pt2 pt3 pt4 ≠ .unknown := by
    have set : kind ≠ .duration → pointsTo pt3 "set".toList 3 = true := fun single =>
      (points_to_iff (by decide) (by decide)).mpr (tested.single single)
    have word {text : Text} {count : Nat} (compared : comparedWord kind = text.take count)
        (visible : nul ∉ text) (within : count ≤ text.length) :
        pointsTo pt2 text count = true := by
      apply (points_to_iff visible within).mpr
      rw [← compared]
      exact tested.word
    intro unknown
    unfold mqttTopicOf at unknown
    split_ifs at unknown with duration delay calendar cycle rain chance zone
    cases kind with
    | duration =>
        exact duration ⟨word rfl (by decide) (by decide),
          (points_to_iff (by decide) (by decide)).mpr (tested.long rfl).1,
          (points_to_iff (by decide) (by decide)).mpr (tested.long rfl).2⟩
    | delay24h => exact delay ⟨word rfl (by decide) (by decide), set (by decide)⟩
    | calendar => exact calendar ⟨word rfl (by decide) (by decide), set (by decide)⟩
    | cycleAllZones => exact cycle ⟨word rfl (by decide) (by decide), set (by decide)⟩
    | rainTotal => exact rain ⟨word rfl (by decide) (by decide), set (by decide)⟩
    | chanceOfRain => exact chance ⟨word rfl (by decide) (by decide), set (by decide)⟩
    | zone => exact zone ⟨word rfl (by decide) (by decide), set (by decide)⟩
    | unknown => exact known rfl
  exact tested_unique reached known (tested_of_topic rfl reached) tested

theorem topic_zone_part {first : Text} (later : Text) (known : kind ≠ .unknown)
    (begins : comparedWord kind <+: first) :
    topicZone (some (first ++ '/' :: later)) = atoi (first.drop 4) := by
  have long : 4 ≤ first.length := (compared_word_length known).trans begins.length_le
  rw [topicZone, Option.getD_some, List.drop_append_of_le_length long,
    atoi_stops later (by decide) (by decide) (by decide)]

/-- What the handler takes a topic for, and the zone it reads in it. -/
theorem taken_as_iff {afterTopic below : Text} {zone : Int} (known : kind ≠ .unknown) :
    TakenAs afterTopic below kind zone ↔
      mqttTopicOf (topicPointers afterTopic below)[0]? (topicPointers afterTopic below)[1]?
        (topicPointers afterTopic below)[2]? = kind ∧
      topicZone (topicPointers afterTopic below)[0]? = zone := by
  have noSlash := compared_word_plain kind
  have visible := compared_word_visible known
  constructor
  · intro taken
    cases taken with
    | @option lead first rest _ single split plain part begins set =>
        have pointers := topic_pointers_slash afterTopic (first ++ '/' :: rest) plain
        rw [pointers_behind_part afterTopic rest visible begins part, ← split] at pointers
        rw [pointers]
        constructor
        · apply topic_of_tested known
          refine ⟨⟨_, rfl, ?_⟩, fun _ => ⟨_, rfl, set⟩, fun timed => absurd timed single⟩
          exact (begins.trans (List.prefix_append _ _)).trans (List.prefix_append _ _)
        · rw [List.append_assoc, List.cons_append]
          exact topic_zone_part _ known begins
    | @duration lead first second rest timed split plain part begins inside long set =>
        have pointers := topic_pointers_slash afterTopic
          (first ++ '/' :: (second ++ '/' :: rest)) plain
        rw [pointers_behind_part afterTopic _ visible begins part,
          pointers_behind_part afterTopic rest (by decide) long inside, ← split] at pointers
        rw [pointers]
        constructor
        · apply topic_of_tested known
          refine ⟨⟨_, rfl, ?_⟩, fun single => absurd timed single,
            fun _ => ⟨⟨_, rfl, ?_⟩, _, rfl, set⟩⟩
          · exact (begins.trans (List.prefix_append _ _)).trans (List.prefix_append _ _)
          · exact (long.trans (List.prefix_append _ _)).trans (List.prefix_append _ _)
        · rw [List.append_assoc, List.cons_append]
          exact topic_zone_part _ known begins
  · rintro ⟨taken, rfl⟩
    have tested := tested_of_topic taken known
    obtain ⟨memory, place, begins⟩ := tested.word
    obtain ⟨lead, rest, split, plain, rfl, pointers⟩ := first_pointer place
    rw [pointers] at tested ⊢
    by_cases timed : kind = .duration
    · obtain ⟨⟨second, secondPlace, long⟩, third, thirdPlace, set⟩ := tested.long timed
      obtain ⟨mid, later, midSplit, clear, rfl, nextPointers⟩ := first_pointer secondPlace
      rw [nextPointers] at thirdPlace
      obtain ⟨last, ending, lastSplit, lastClear, rfl, _⟩ := first_pointer thirdPlace
      obtain ⟨part, rfl, plainPart, word⟩ :=
        part_before_slash visible noSlash begins midSplit clear
      obtain ⟨inner, rfl, plainInner, inside⟩ :=
        part_before_slash (by decide) (by decide) long lastSplit lastClear
      have number := topic_zone_part (inner ++ '/' :: ending ++ afterTopic) known word
      simp only [List.append_assoc, List.cons_append] at number ⊢
      rw [List.getElem?_cons_zero, number]
      exact .duration timed split plain plainPart word plainInner inside set
    · obtain ⟨second, secondPlace, set⟩ := tested.single timed
      obtain ⟨mid, later, midSplit, clear, rfl, _⟩ := first_pointer secondPlace
      obtain ⟨part, rfl, plainPart, word⟩ :=
        part_before_slash visible noSlash begins midSplit clear
      have number := topic_zone_part (later ++ afterTopic) known word
      simp only [List.append_assoc, List.cons_append] at number ⊢
      rw [List.getElem?_cons_zero, number]
      exact .option known timed split plain plainPart word set

theorem grammar_taken {base topic : Text} (grammar : InGrammar base topic) :
    ∃ kind zone, kind ≠ .unknown ∧
      ∀ afterTopic, TakenAs afterTopic (topic.drop base.length) kind zone := by
  obtain ⟨part, command, rfl⟩ := grammar
  rw [List.drop_left]
  have digits {number : Text} (decimal : ∀ char ∈ number, char.isDigit = true) :
      '/' ∉ number := fun member => Bool.eq_false_iff.mp (by decide) (decimal _ member)
  have option {kind : MqttTopic} {part : Text} (known : kind ≠ .unknown)
      (single : kind ≠ .duration) (plain : '/' ∉ part) (begins : comparedWord kind <+: part)
      (afterTopic : Text) :
      TakenAs afterTopic ('/' :: part ++ "/set".toList) kind (atoi (part.drop 4)) :=
    @TakenAs.option afterTopic _ kind [] part "set".toList known single rfl List.not_mem_nil
      plain begins (List.prefix_append _ _)
  have numbered {number : Text} (decimal : ∀ char ∈ number, char.isDigit = true) :
      '/' ∉ "zone".toList ++ number := by
    intro member
    exact (List.mem_append.mp member).elim (by decide) (digits decimal)
  cases command with
  | zone _ decimal =>
      exact ⟨.zone, _, by decide,
        option (by decide) (by decide) (numbered decimal) (List.prefix_append _ _)⟩
  | @duration number _ decimal =>
      have split : '/' :: ("zone".toList ++ number ++ "/duration".toList) ++ "/set".toList =
          [] ++ '/' :: (("zone".toList ++ number) ++ '/' ::
            ("duration".toList ++ '/' :: "set".toList)) := by
        simp
      exact ⟨.duration, _, by decide, fun afterTopic => .duration rfl split List.not_mem_nil
        (numbered decimal) (List.prefix_append _ _) (by decide) (List.prefix_refl _)
        (List.prefix_append _ _)⟩
  | delay24h =>
      exact ⟨.delay24h, _, by decide, option (by decide) (by decide) (by decide) (by decide)⟩
  | calendar =>
      exact ⟨.calendar, _, by decide, option (by decide) (by decide) (by decide) (by decide)⟩
  | cycleAllZones =>
      exact ⟨.cycleAllZones, _, by decide, option (by decide) (by decide) (by decide) (by decide)⟩
  | rainTotal =>
      exact ⟨.rainTotal, _, by decide, option (by decide) (by decide) (by decide) (by decide)⟩
  | chanceOfRain =>
      exact ⟨.chanceOfRain, _, by decide, option (by decide) (by decide) (by decide) (by decide)⟩

end Commands

end SprinklerD.TopicGrammar
