import SprinklerD.WebDispatch

/-!
# A new runtime for the running zone

Both front ends set the default runtime of a zone and then call `zc_update_runtime`,
which passes it on to the run in progress. The helper tests the zone number again, and
its test leaves the last zone of the table out.
-/

namespace SprinklerD.RuntimeUpdate

open Foundation.MachineInt Foundation.CString Foundation.Transitions
open SprinklerD.Config SprinklerD.ZoneCtrl SprinklerD.CronTable SprinklerD.NetServices
open SprinklerD.Operations SprinklerD.Daemon SprinklerD.WebDispatch

set_option autoImplicit false

/-- The requests that are accepted as a new runtime. A message gives it in seconds. -/
inductive SetsRuntime (cfg : SprinklerdCfg) (zone runtime : Int) : Event → Prop where
  | query {query stack : Text} (given : query ≠ [])
      (type : strcmpEqual (mgGetHttpVar query "type".toList stack) "zrtcfg".toList = true)
      (named : atoi (mgGetHttpVar query "zone".toList
        (mgGetHttpVar query "type".toList stack)) = zone)
      (asked : atoi (mgGetHttpVar query "time".toList (mgGetHttpVar query "zone".toList
        (mgGetHttpVar query "type".toList stack))) = runtime)
      (accepted : 0 < zone ∧ zone ≤ cfg.zones ∧ -1 < runtime) :
      SetsRuntime cfg zone runtime (.webRequest query stack)
  | message {message : MqttMessage} {pointers : List Text}
      (split : topicPointers message.afterTopic (message.topic.drop cfg.mqttTopic.length) =
        pointers)
      (topic : mqttTopicOf pointers[0]? pointers[1]? pointers[2]? = .duration)
      (named : topicZone pointers[0]? = zone)
      (seconds : str2int (message.payload ++ message.afterPayload) message.payload.length =
        60 * runtime)
      (accepted : 0 < zone ∧ zone ≤ cfg.zones) :
      SetsRuntime cfg zone runtime (.mqttMessage message)

/-- The run in progress goes on under the new runtime if it is one of that zone, and
as before if it is not. -/
structure InForce (zone runtime later : Int) (before after : SprinklerdState) : Prop where
  kept : after.defaultRuntime zone = runtime
  same : zone = before.currentZone.zone → after.currentZone.duration = runtime ∧
    (calcTimeleft later after).currentZone.timeleft =
      60 * runtime - (later - before.currentZone.startedTime)
  other : zone ≠ before.currentZone.zone → after.currentZone = before.currentZone

def Countable (runtime elapsed : Int) : Prop :=
  -2 ^ 31 ≤ 60 * runtime - elapsed ∧ 60 * runtime - elapsed < 2 ^ 31

variable {cfg : SprinklerdCfg}

section Requests

/-- An accepted request assigns the runtime and calls the helper. -/
theorem sets_runtime_effect {zone runtime : Int} {event : Event}
    (asked : SetsRuntime cfg zone runtime event) (now : Int) (st : SprinklerdState) :
    (0 < zone ∧ zone ≤ cfg.zones) ∧
      (daemonStep cfg st (now, event)).defaultRuntime =
        Function.update st.defaultRuntime zone runtime ∧
      (daemonStep cfg st (now, event)).currentZone =
        if zone < cfg.zones ∧ zone = st.currentZone.zone then
          { st.currentZone with duration := runtime }
        else st.currentZone := by
  have helper : ∀ given : SprinklerdState, 0 < zone → given.defaultRuntime zone = runtime →
      (zcUpdateRuntime cfg zone given).defaultRuntime = given.defaultRuntime ∧
      (zcUpdateRuntime cfg zone given).currentZone =
        if zone < cfg.zones ∧ zone = given.currentZone.zone then
          { given.currentZone with duration := runtime }
        else given.currentZone := by
    intro given positive assigned
    unfold zcUpdateRuntime
    by_cases passed : zone < cfg.zones ∧ zone = given.currentZone.zone
    · rw [if_pos ⟨positive, passed⟩, if_pos passed, assigned]
      exact ⟨rfl, rfl⟩
    · rw [if_neg fun all => passed all.2, if_neg passed]
      exact ⟨rfl, rfl⟩
  have updated := helper
    { st with defaultRuntime := Function.update st.defaultRuntime zone runtime }
  simp only [Function.update_self] at updated
  cases asked with
  | query given type named minutes accepted =>
      refine ⟨⟨accepted.1, accepted.2.1⟩, ?_⟩
      rw [daemonStep, actionWebRequest, if_neg given, serve_web_request_zrtcfg now st type,
        serveZrtcfg]
      simp only [named, minutes, if_pos accepted]
      exact updated accepted.1 trivial
  | @message message pointers split topic named seconds accepted =>
      refine ⟨accepted, ?_⟩
      rw [daemonStep, actionMqttMessage]
      simp only [split, topic, named, seconds, actionMqttTopic, if_pos accepted]
      rw [Int.mul_tdiv_cancel_left runtime (by decide)]
      exact updated accepted.1 trivial

/-- The seconds an accepted request asks for are not below what an int holds. -/
theorem sets_runtime_lower {zone runtime : Int} {event : Event}
    (asked : SetsRuntime cfg zone runtime event) : -2 ^ 31 ≤ 60 * runtime := by
  cases asked with
  | query given type named minutes accepted => omega
  | message split topic named seconds accepted =>
      rw [← seconds]
      exact (wrap32_range _).1

end Requests

section Runs

theorem timeleft_exact {runtime : Int} {st : SprinklerdState} (named : st.currentZone.zone ≠ -1)
    (lasting : st.currentZone.duration = runtime) (lower : -2 ^ 31 ≤ 60 * runtime)
    (fits : 60 * runtime < 2 ^ 31) (later : Int) :
    (calcTimeleft later st).currentZone.timeleft =
        60 * runtime - (later - st.currentZone.startedTime) ↔
      Countable runtime (later - st.currentZone.startedTime) := by
  have product : wrap32 (runtime * sec2Min) = 60 * runtime := by
    rw [sec2Min, mul_comm]
    exact wrap32_of_fits lower fits
  simp only [calcTimeleft, if_pos named, lasting, product, saturate32, Countable]
  omega

/-- A new runtime is in force, in the table and in the run in progress, exactly when the
request is for another zone than the one that runs, or for one below the last, or
changes nothing, as long as the seconds left can be counted. -/
theorem runtime_change_in_force_iff (now later : Int) {zone runtime : Int} {event : Event}
    (st : SprinklerdState) (asked : SetsRuntime cfg zone runtime event)
    (fits : 60 * runtime < 2 ^ 31) :
    InForce zone runtime later st (daemonStep cfg st (now, event)) ↔
      (zone = st.currentZone.zone →
        (zone < cfg.zones ∨ st.currentZone.duration = runtime) ∧
          Countable runtime (later - st.currentZone.startedTime)) := by
  obtain ⟨⟨positive, listed⟩, table, record⟩ := sets_runtime_effect asked now st
  have lower := sets_runtime_lower asked
  have kept : (daemonStep cfg st (now, event)).defaultRuntime zone = runtime := by
    rw [table, Function.update_self]
  generalize daemonStep cfg st (now, event) = after at record kept ⊢
  by_cases same : zone = st.currentZone.zone
  · have named : after.currentZone.zone ≠ -1 := by
      rw [record]
      split_ifs
      · exact fun missing => absurd (same.trans missing) (by omega)
      · exact fun missing => absurd (same.trans missing) (by omega)
    have started : after.currentZone.startedTime = st.currentZone.startedTime := by
      rw [record]
      split_ifs <;> rfl
    have passedOn : after.currentZone.duration = runtime ↔
        zone < cfg.zones ∨ st.currentZone.duration = runtime := by
      by_cases passed : zone < cfg.zones
      · rw [record, if_pos ⟨passed, same⟩]
        exact iff_of_true rfl (Or.inl passed)
      · rw [record, if_neg fun both => passed both.1]
        exact (or_iff_right passed).symm
    constructor
    · intro inForce _
      obtain ⟨lasting, left⟩ := inForce.same same
      rw [← started] at left ⊢
      exact ⟨passedOn.mp lasting, (timeleft_exact named lasting lower fits later).mp left⟩
    · intro allowed
      obtain ⟨lasting, counted⟩ := allowed same
      have minutes := passedOn.mpr lasting
      refine ⟨kept, fun _ => ⟨minutes, ?_⟩, fun other => absurd same other⟩
      rw [← started] at counted ⊢
      exact (timeleft_exact named minutes lower fits later).mpr counted
  · rw [if_neg fun both => same both.2] at record
    exact iff_of_true ⟨kept, fun equal => absurd equal same, fun _ => record⟩
      fun equal => absurd equal same

def benchQuery (query : String) : Event := .webRequest query.toList []

theorem runtime_change_in_force_first :
    InForce 1 20 1120 (run (daemonStep (benchCfg benchWiring)) benchState benchWatering)
      (daemonStep (benchCfg benchWiring)
        (run (daemonStep (benchCfg benchWiring)) benchState benchWatering)
        (1060, benchQuery "type=zrtcfg&zone=1&time=20")) :=
  (runtime_change_in_force_iff 1060 1120 _ (.query (by decide +kernel) (by decide +kernel)
    (by decide +kernel) (by decide +kernel) (by decide +kernel)) (by decide)).mpr
    fun _ => ⟨Or.inl (by decide), by unfold Countable; decide +kernel⟩

/-- The last of the two zones has been watering for a minute when its runtime is set to
twenty minutes: the run goes on under the five it was started with. -/
theorem last_zone_keeps_old_runtime :
    Startup (benchCfg benchWiring) benchState ∧
      let watering := run (daemonStep (benchCfg benchWiring)) benchState
        [(1000, benchQuery "type=zone&zone=2&runtime=5&state=on")]
      watering.currentZone.type = .zcSingle ∧ watering.currentZone.zone = 2 ∧
        ¬ InForce 2 20 1120 watering (daemonStep (benchCfg benchWiring) watering
          (1060, benchQuery "type=zrtcfg&zone=2&time=20")) := by
  refine ⟨bench_startup, by decide +kernel, by decide +kernel, fun inForce => ?_⟩
  have lasting := (inForce.same (by decide +kernel)).1
  revert lasting
  decide +kernel

end Runs

end SprinklerD.RuntimeUpdate
