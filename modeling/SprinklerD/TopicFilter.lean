import SprinklerD.MqttSession
import SprinklerD.TopicGrammar

/-!
# The topics that the subscription asks for

The topic filter is written into a buffer of 30 characters, while the base topic may have 49.
What a filter matches is what `mg_mqtt_match_topic_expression` says, which takes filter and
topic apart at their slashes.
-/

namespace SprinklerD.TopicFilter

open SprinklerD.Config SprinklerD.Broadcast SprinklerD.NetServices SprinklerD.TopicGrammar
open SprinklerD.Hassio SprinklerD.MqttSession

set_option autoImplicit false

section Matching

def mgMqttNextTopicComponent (topic : Text) : Text × Text :=
  (topic.takeWhile (· ≠ '/'), (topic.dropWhile (· ≠ '/')).tail)

/-- The loop of `mg_mqtt_match_topic_expression`, for so many rounds. -/
def matchComponents : Nat → Text → Text → Bool
  | 0, _, _ => false
  | left + 1, exp, topic =>
      let ec := mgMqttNextTopicComponent exp
      let tc := mgMqttNextTopicComponent topic
      if ec.1 = [] then
        if tc.1 ≠ [] then false
        else if ec.2 = [] then decide (tc.1 = [] ∧ tc.2 = [])
        else matchComponents left ec.2 tc.2
      else if ec.1 = ['+'] then
        if tc.1 = [] ∧ tc.2 = [] then false else matchComponents left ec.2 tc.2
      else if ec.1 = ['#'] then decide (ec.2 = [])
      else if ec.1 ≠ tc.1 then false
      else matchComponents left ec.2 tc.2

/-- Each round takes a slash off the expression, or finds it empty. -/
def mgMqttMatchTopicExpression (exp topic : Text) : Bool :=
  if exp = [] then false else matchComponents (exp.length + 1) exp topic

def aqTopicSize : Nat := 30

end Matching

section Components

variable {component rest : Text}

theorem next_component_slash (plain : '/' ∉ component) :
    mgMqttNextTopicComponent (component ++ '/' :: rest) = (component, rest) := by
  have clear : ∀ char ∈ component, decide (char ≠ '/') = true := by
    intro char member
    apply decide_eq_true
    rintro rfl
    exact plain member
  unfold mgMqttNextTopicComponent
  rw [List.takeWhile_append_of_pos clear, List.dropWhile_append_of_pos clear]
  simp

theorem next_component_last (plain : '/' ∉ component) :
    mgMqttNextTopicComponent component = (component, []) := by
  have clear : ∀ char ∈ component, decide (char ≠ '/') = true := by
    intro char member
    apply decide_eq_true
    rintro rfl
    exact plain member
  unfold mgMqttNextTopicComponent
  rw [List.takeWhile_eq_self_iff.mpr clear, List.dropWhile_eq_nil_iff.mpr clear]
  rfl

theorem next_component_longer {char : Char} (plain : '/' ∉ component) (other : char ≠ '/') :
    (mgMqttNextTopicComponent (component ++ char :: rest)).1 ≠ component := by
  have clear : ∀ char ∈ component, decide (char ≠ '/') = true := by
    intro char member
    apply decide_eq_true
    rintro rfl
    exact plain member
  intro same
  have lengths := congrArg List.length same
  simp only [mgMqttNextTopicComponent] at lengths
  rw [List.takeWhile_append_of_pos clear, List.takeWhile_cons, if_pos (decide_eq_true other),
    List.length_append, List.length_cons] at lengths
  omega

theorem split_at_slash (text : Text) :
    '/' ∉ text ∨ ∃ component rest, text = component ++ '/' :: rest ∧ '/' ∉ component := by
  by_cases slash : '/' ∈ text
  · obtain ⟨component, rest, split, plain⟩ := List.eq_append_cons_of_mem slash
    exact Or.inr ⟨component, rest, split, plain⟩
  · exact Or.inl slash

end Components

section Filters

/-- Neither wildcard stands in the text. -/
structure Literal (text : Text) : Prop where
  single : '+' ∉ text
  multi : '#' ∉ text

theorem literal_of_subset {text part : Text} (literal : Literal text) (inside : part ⊆ text) :
    Literal part :=
  ⟨fun member => literal.single (inside member), fun member => literal.multi (inside member)⟩

theorem literal_round {left : Nat} {exp topic : Text}
    (literal : Literal (mgMqttNextTopicComponent exp).1)
    (some : (mgMqttNextTopicComponent exp).1 ≠ []) :
    matchComponents (left + 1) exp topic =
      if (mgMqttNextTopicComponent exp).1 = (mgMqttNextTopicComponent topic).1 then
        matchComponents left (mgMqttNextTopicComponent exp).2 (mgMqttNextTopicComponent topic).2
      else false := by
  have single : (mgMqttNextTopicComponent exp).1 ≠ ['+'] := by
    intro same
    exact literal.single (same ▸ List.mem_cons_self)
  have multi : (mgMqttNextTopicComponent exp).1 ≠ ['#'] := by
    intro same
    exact literal.multi (same ▸ List.mem_cons_self)
  rw [matchComponents]
  simp only [if_neg some, if_neg single, if_neg multi]
  split_ifs <;> first | rfl | contradiction

theorem empty_round {left : Nat} {exp topic : Text}
    (empty : (mgMqttNextTopicComponent exp).1 = []) :
    matchComponents (left + 1) exp topic =
      if (mgMqttNextTopicComponent topic).1 ≠ [] then false
      else if (mgMqttNextTopicComponent exp).2 = [] then
        decide ((mgMqttNextTopicComponent topic).1 = [] ∧ (mgMqttNextTopicComponent topic).2 = [])
      else matchComponents left (mgMqttNextTopicComponent exp).2 (mgMqttNextTopicComponent topic).2 := by
  rw [matchComponents]
  simp only [if_pos empty]

theorem whole_filter_matches {base : Text} (literal : Literal base) (below : Text) {left : Nat}
    (enough : base.length + 2 ≤ left) :
    matchComponents left (base ++ "/#".toList) (base ++ '/' :: below) = true := by
  induction size : base.length using Nat.strongRecOn generalizing base left with
  | ind size ih =>
      obtain ⟨left, rfl⟩ := Nat.exists_eq_add_of_le' (show 1 ≤ left by omega)
      have last (rest : Text) {left : Nat} (some : 0 < left) :
          matchComponents left ['#'] rest = true := by
        obtain ⟨left, rfl⟩ := Nat.exists_eq_add_of_le' some
        rfl
      rcases split_at_slash base with plain | ⟨component, rest, rfl, plain⟩
      · have filter : mgMqttNextTopicComponent (base ++ "/#".toList) = (base, ['#']) :=
          next_component_slash plain
        have topic := @next_component_slash base below plain
        by_cases empty : base = []
        · subst empty
          rw [matchComponents, filter, topic]
          exact last below (by omega)
        · rw [literal_round (filter ▸ literal) (filter ▸ empty), filter, topic, if_pos rfl]
          exact last below (by omega)
      · have filter : mgMqttNextTopicComponent (component ++ '/' :: rest ++ "/#".toList) =
            (component, rest ++ "/#".toList) := by
          rw [List.append_assoc, List.cons_append]
          exact next_component_slash plain
        have topic : mgMqttNextTopicComponent (component ++ '/' :: rest ++ '/' :: below) =
            (component, rest ++ '/' :: below) := by
          rw [List.append_assoc, List.cons_append]
          exact next_component_slash plain
        rw [List.length_append, List.length_cons] at size enough
        have later := @ih rest.length (by omega) rest
          (literal_of_subset literal fun char member => by simp [member]) left (by omega) rfl
        by_cases empty : component = []
        · subst empty
          have more : rest ++ "/#".toList ≠ [] := by simp
          rw [empty_round (by rw [filter]), filter, topic, if_neg (not_not.mpr rfl), if_neg more]
          exact later
        · have own : Literal component :=
            literal_of_subset literal fun char member => by simp [member]
          rw [literal_round (filter ▸ own) (filter ▸ empty), filter, topic, if_pos rfl]
          exact later

/-- A filter that ends before the last part of a topic does not match it. -/
theorem cut_filter_fails {exp text rest : Text} {first : Char} (literal : Literal exp)
    (begins : exp <+: text) (other : first ≠ '/') (left : Nat) :
    matchComponents left exp (text ++ first :: rest) = false := by
  induction left generalizing exp text with
  | zero => rfl
  | succ left ih =>
      rcases split_at_slash exp with plain | ⟨component, later, rfl, plain⟩
      · have filter := next_component_last plain
        obtain ⟨behind, rfl⟩ := begins
        by_cases empty : exp = []
        · subst empty
          rw [empty_round (by rw [filter]), filter, List.nil_append]
          cases behind with
          | nil => simp [mgMqttNextTopicComponent, other]
          | cons char behind =>
              by_cases slash : char = '/'
              · simp [mgMqttNextTopicComponent, slash]
              · simp [mgMqttNextTopicComponent, slash]
        · rw [literal_round (filter ▸ literal) (filter ▸ empty), filter]
          split_ifs with same
          · -- the component of the topic ends where the filter does, at a slash
            have ends : ∃ below, behind = '/' :: below := by
              cases behind with
              | nil =>
                  rw [List.append_nil] at same
                  exact absurd same.symm (next_component_longer plain other)
              | cons char below =>
                  by_cases slash : char = '/'
                  · exact ⟨below, by rw [slash]⟩
                  · rw [List.append_assoc, List.cons_append] at same
                    exact absurd same.symm (next_component_longer plain slash)
            obtain ⟨below, rfl⟩ := ends
            have topic := @next_component_slash exp (below ++ first :: rest) plain
            rw [List.append_assoc, List.cons_append, topic]
            exact ih ⟨nofun, nofun⟩ (List.nil_prefix)
          · rfl
      · obtain ⟨behind, split⟩ := begins
        rw [List.append_assoc, List.cons_append] at split
        subst split
        have filter := @next_component_slash component later plain
        have topic := @next_component_slash component (later ++ behind ++ first :: rest) plain
        have next := @ih later (later ++ behind)
          (literal_of_subset literal fun char member => by simp [member]) (List.prefix_append _ _)
        have own : Literal component :=
          literal_of_subset literal fun char member => by simp [member]
        rw [List.append_assoc, List.cons_append]
        by_cases empty : component = []
        · subst empty
          rw [empty_round (by rw [filter]), filter, topic, if_neg (not_not.mpr rfl)]
          split_ifs
          · simp
          · exact next
        · rw [literal_round (filter ▸ own) (filter ▸ empty), filter, topic, if_pos rfl]
          exact next

theorem command_part_begins {part : Text} (command : CommandPart part) :
    ∃ first more, part = first :: more ∧ first ≠ '/' := by
  cases command with
  | zone => exact ⟨'z', _, rfl, by decide⟩
  | duration => exact ⟨'z', _, rfl, by decide⟩
  | _ => exact ⟨_, _, rfl, by decide⟩

/-- The commands below the base topic match what the daemon subscribes to exactly when the base
topic has at most 26 characters. The topic of the last will fits its buffer up to 23. -/
theorem commands_subscribed_iff {cfg : SprinklerdCfg} (literal : Literal cfg.mqttTopic) :
    (∀ topic, InGrammar cfg.mqttTopic topic →
      (mgMqttMatchTopicExpression (gpTopic cfg) topic = true ↔ cfg.mqttTopic.length ≤ 26)) ∧
    ((aliveTopic cfg).length + 1 ≤ aqTopicSize ↔ cfg.mqttTopic.length ≤ 23) := by
  constructor
  · rintro topic ⟨part, command, rfl⟩
    obtain ⟨first, more, rfl, other⟩ := command_part_begins command
    have whole : (cfg.mqttTopic ++ "/#".toList).length = cfg.mqttTopic.length + 2 :=
      List.length_append
    rw [mgMqttMatchTopicExpression]
    constructor
    · intro matched
      by_contra long
      have cut : gpTopic cfg <+: cfg.mqttTopic ++ ['/'] := by
        have taken : gpTopic cfg = (cfg.mqttTopic ++ ['/']).take 28 := by
          have split : cfg.mqttTopic ++ "/#".toList = (cfg.mqttTopic ++ ['/']) ++ ['#'] := by
            rw [List.append_assoc]
            rfl
          rw [gpTopic, split]
          apply List.take_append_of_le_length
          rw [List.length_append, List.length_singleton]
          omega
        rw [taken]
        exact List.take_prefix _ _
      have clear : Literal (gpTopic cfg) := by
        have base : Literal (cfg.mqttTopic ++ ['/']) :=
          ⟨by simp [literal.single], by simp [literal.multi]⟩
        exact literal_of_subset base cut.subset
      have fails := @cut_filter_fails _ _ (more ++ "/set".toList) first clear cut other
        ((gpTopic cfg).length + 1)
      rw [List.append_assoc, List.singleton_append] at fails
      split_ifs at matched
      rw [List.cons_append, List.cons_append] at matched
      exact absurd matched (by rw [fails]; decide)
    · intro short
      have same : gpTopic cfg = cfg.mqttTopic ++ "/#".toList :=
        List.take_of_length_le (by omega)
      rw [same, if_neg (by simp), whole]
      exact whole_filter_matches literal _ (by omega)
  · have length : (aliveTopic cfg).length = cfg.mqttTopic.length + 6 := List.length_append
    rw [length, aqTopicSize]
    omega

/-- With a base topic of 27 characters the daemon never hears of a command. -/
theorem commands_subscribed_iff_long :
    mgMqttMatchTopicExpression
        (gpTopic { benchMqtt with mqttTopic := "home/garden/back/sprinklers".toList })
        "home/garden/back/sprinklers/calendar/set".toList = false := by
  have literal : Literal "home/garden/back/sprinklers".toList := ⟨by decide, by decide⟩
  have command : InGrammar "home/garden/back/sprinklers".toList
      "home/garden/back/sprinklers/calendar/set".toList :=
    ⟨"calendar".toList, .calendar, by decide⟩
  have subscribed := (@commands_subscribed_iff
    { benchMqtt with mqttTopic := "home/garden/back/sprinklers".toList } literal).1 _ command
  exact Bool.eq_false_iff.mpr fun matched => absurd (subscribed.mp matched) (by decide)

end Filters

end SprinklerD.TopicFilter
