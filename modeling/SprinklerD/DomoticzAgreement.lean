import SprinklerD.Devices

/-!
# Agreement with Domoticz

Domoticz has one value for each identifier. A user change sets it and sends a message
to the daemon, which handles the messages in their order; what the daemon publishes
sets it too. Nothing that a user asks in vain is published back: the cache has the
state of the device already, and Domoticz keeps showing what the user asked for.
-/

namespace SprinklerD.DomoticzAgreement

open Foundation.SlotTable Foundation.Transitions
open SprinklerD.Config SprinklerD.ZoneCtrl SprinklerD.NetServices SprinklerD.Daemon
open SprinklerD.Broadcast SprinklerD.DomoticzCache SprinklerD.Devices

set_option autoImplicit false

structure DzMessage where
  idx : Int
  nvalue : Int
  svalue : Text

/-- The daemon, the values of Domoticz and the messages that have not been handled.
`changed` is what a user or a status text has made of an identifier since the daemon
last announced its device; `settled` says that the last event was a broadcast. -/
structure DomoticzState where
  st : SprinklerdState
  published : Published
  values : Int → Int
  changed : Int → Option Int
  inFlight : List DzMessage
  settled : Bool

inductive DomoticzEvent where
  | userChange (message : DzMessage)
  | deliver (now : Int)
  | request (now : Int) (request : Request)
  | broadcast (now : Int)

variable (cfg : SprinklerdCfg) (lib : CLibrary)

def handleMessage (now : Int) (st : SprinklerdState) (message : DzMessage) : SprinklerdState :=
  actionDomoticzMqttMessage cfg now message.idx message.nvalue message.svalue st

/-- The last message of a broadcast under an identifier is what Domoticz shows. -/
def domoticzStep (state : DomoticzState) : DomoticzEvent → DomoticzState
  | .userChange message =>
      { state with
        values := Function.update state.values message.idx message.nvalue
        changed := Function.update state.changed message.idx (some message.nvalue)
        inFlight := state.inFlight ++ [message]
        settled := false }
  | .deliver now =>
      match state.inFlight with
      | [] => { state with settled := false }
      | message :: rest =>
          { state with
            st := handleMessage cfg now state.st message
            inFlight := rest
            settled := false }
  | .request now request =>
      { state with st := daemonStep cfg state.st (now, request.1), settled := false }
  | .broadcast now =>
      let done := broadcastSprinklerdstate cfg lib true now state.published state.st
      let messages := domoticzMessages done.sent
      let status := statusAnnouncement cfg lib state.published state.st
      { st := done.st
        published := done.published
        values := fun idx => (latest idx messages).getD (state.values idx)
        changed := fun idx =>
          if latest idx messages = none then state.changed idx else latest idx status
        inFlight := state.inFlight
        settled := true }

def Shows (value : Int) (on : Bool) : Prop := value = dzOn ↔ on = true

/-- Once everything has been handled and a broadcast has run, Domoticz shows the state
of every device. -/
def Agrees (state : DomoticzState) : Prop :=
  state.settled = true → state.inFlight = [] →
    ∀ device ∈ devices cfg,
      Shows (state.values (deviceId cfg device)) (deviceOn cfg state.st device)

instance (value : Int) (on : Bool) : Decidable (Shows value on) :=
  inferInstanceAs (Decidable (_ ↔ _))

/-- What a broadcast needs of a device. If it says nothing of it, the device has not
been changed in Domoticz since its announcement, or to the state it has. A status text
that goes out under the same identifier fits it. -/
def ChangeTook (state : DomoticzState) (device : Device) : Prop :=
  (∀ value ∈ latest (deviceId cfg device) (statusAnnouncement cfg lib state.published state.st),
    Shows value (deviceOn cfg state.st device)) ∧
  (latest (deviceId cfg device) (statusAnnouncement cfg lib state.published state.st) = none →
    Unheard cfg state.st device →
      ∀ value ∈ state.changed (deviceId cfg device), Shows value (deviceOn cfg state.st device))

instance (state : DomoticzState) (device : Device) : Decidable (ChangeTook cfg lib state device) :=
  inferInstanceAs (Decidable (_ ∧ (_ → _ → _)))

def ChangesTook (state : DomoticzState) : DomoticzEvent → Prop
  | .broadcast _ =>
      state.inFlight = [] → ∀ device ∈ devices cfg, ChangeTook cfg lib state device
  | _ => True

instance (state : DomoticzState) (now : Int) :
    Decidable (ChangesTook cfg lib state (.broadcast now)) :=
  inferInstanceAs (Decidable (_ → ∀ device ∈ devices cfg, _))

/-- What Domoticz shows comes from a change or from the announcement in the cache. -/
structure ValueKnown (state : DomoticzState) (idx : Int) : Prop where
  changed : ∀ value, state.changed idx = some value → state.values idx = value
  enabled : state.changed idx = none → cfg.enableMQTTdz = true
  announced : state.changed idx = none →
    ∀ value, lookup idx (slots state.st.dzCache) = some value → state.values idx = value

def ValuesKnown (state : DomoticzState) : Prop := ∀ idx, idx ≠ 0 → ValueKnown cfg state idx

variable {cfg lib}

theorem shows_switch (on : Bool) : Shows (dzSwitch on) on := by
  cases on <;> simp [Shows, dzSwitch, dzOn, dzOff]

theorem handle_message_dz_cache (now : Int) (st : SprinklerdState) (message : DzMessage) :
    (handleMessage cfg now st message).dzCache = st.dzCache :=
  request_dz_cache cfg st now
    ⟨.domoticzMessage message.idx message.nvalue message.svalue, rfl⟩

theorem broadcast_devices (now : Int) (published : Published) (st : SprinklerdState)
    (device : Device) :
    deviceOn cfg (broadcastSprinklerdstate cfg lib true now published st).st device =
      deviceOn cfg st device := by
  obtain ⟨cache, mask, frame⟩ := StatusMessages.broadcast_state_frame cfg lib now published st
  rw [frame]
  cases device <;> rfl

theorem values_known_same {state after : DomoticzState} {idx : Int}
    (known : ValueKnown cfg state idx) (cache : after.st.dzCache = state.st.dzCache)
    (value : after.values idx = state.values idx)
    (changed : after.changed idx = state.changed idx) : ValueKnown cfg after idx where
  changed := by rw [value, changed]; exact known.changed
  enabled := by rw [changed]; exact known.enabled
  announced := by rw [value, changed, cache]; exact known.announced

theorem user_change_known {state : DomoticzState} {idx : Int} (known : ValueKnown cfg state idx)
    (message : DzMessage) :
    ValueKnown cfg (domoticzStep cfg lib state (.userChange message)) idx := by
  by_cases same : idx = message.idx
  · subst same
    constructor
    · intro value changed
      simpa [domoticzStep] using changed
    · simp [domoticzStep]
    · simp [domoticzStep]
  · refine values_known_same known rfl ?_ ?_
    · exact Function.update_of_ne same _ _
    · exact Function.update_of_ne same _ _

theorem deliver_known {state : DomoticzState} {idx : Int} (known : ValueKnown cfg state idx)
    (now : Int) : ValueKnown cfg (domoticzStep cfg lib state (.deliver now)) idx := by
  cases flight : state.inFlight with
  | nil =>
      rw [domoticzStep, flight]
      exact values_known_same known rfl rfl rfl
  | cons message rest =>
      rw [domoticzStep, flight]
      exact values_known_same known (handle_message_dz_cache now state.st message) rfl rfl

theorem broadcast_known {state : DomoticzState} {idx : Int} (proper : idx ≠ 0)
    (known : ValueKnown cfg state idx) (now : Int) :
    ValueKnown cfg (domoticzStep cfg lib state (.broadcast now)) idx := by
  obtain ⟨stored, sent⟩ := broadcast_relays cfg lib now state.published state.st
  have both := latest_append idx
    (changes 0 (slots state.st.dzCache) (announcements cfg state.st))
    (statusAnnouncement cfg lib state.published state.st)
  rw [← sent] at both
  cases status : latest idx (statusAnnouncement cfg lib state.published state.st) with
  | some text =>
      rw [status, Option.some_or] at both
      constructor <;> simp [domoticzStep, both, status]
  | none =>
      rw [status, Option.none_or] at both
      cases change : latest idx (changes 0 (slots state.st.dzCache)
          (announcements cfg state.st)) with
      | none =>
          rw [change] at both
          constructor
          · simpa [domoticzStep, both] using known.changed
          · simpa [domoticzStep, both] using known.enabled
          · intro unchanged value held
            simp only [domoticzStep, both, if_true] at unchanged held ⊢
            rw [stored] at held
            have before := lookup_put_all proper held
            rw [change, Option.none_or] at before
            exact known.announced unchanged value before
      | some announced =>
          rw [change] at both
          have enabled : cfg.enableMQTTdz = true := by
            by_contra off
            rw [announcements_off off] at change
            cases change
          constructor
          · simp [domoticzStep, both, status]
          · exact fun _ => enabled
          · intro _ value held
            simp only [domoticzStep, both] at held ⊢
            rw [stored] at held
            have last := lookup_put_all proper held
            rw [change, Option.some_or] at last
            exact Option.some.inj last

theorem domoticz_step_known {state : DomoticzState} (known : ValuesKnown cfg state)
    (event : DomoticzEvent) : ValuesKnown cfg (domoticzStep cfg lib state event) := by
  intro idx proper
  cases event with
  | userChange message => exact user_change_known (known idx proper) message
  | deliver now => exact deliver_known (known idx proper) now
  | request now request =>
      exact values_known_same (known idx proper) (request_dz_cache cfg state.st now request) rfl rfl
  | broadcast now => exact broadcast_known proper (known idx proper) now

/-- A device of which a broadcast says nothing is shown right exactly when its last
change, if there is one, was to the state it has. -/
theorem unheard_shows_iff {state : DomoticzState} {device : Device}
    (known : ValueKnown cfg state (deviceId cfg device)) (listed : device ∈ devices cfg)
    (unheard : Unheard cfg state.st device) :
    Shows (state.values (deviceId cfg device)) (deviceOn cfg state.st device) ↔
      ∀ value ∈ state.changed (deviceId cfg device),
        Shows value (deviceOn cfg state.st device) := by
  constructor
  · intro shows value changed
    rwa [known.changed value changed] at shows
  · intro took
    cases changed : state.changed (deviceId cfg device) with
    | some value =>
        rw [known.changed value changed]
        exact took value changed
    | none =>
        have cached := unheard.resolve_left (by simp [known.enabled changed]) device
          (published_of_device listed) rfl
        rw [known.announced changed _ ((check_dz_cache_eq _ _ _).mp cached)]
        exact shows_switch _

theorem broadcast_agrees (separate : SeparateIds cfg) {state : DomoticzState}
    (known : ValuesKnown cfg state) (now : Int) :
    Agrees cfg (domoticzStep cfg lib state (.broadcast now)) ↔
      ChangesTook cfg lib state (.broadcast now) := by
  have sent := (broadcast_relays cfg lib now state.published state.st).2
  simp only [Agrees, ChangesTook, ChangeTook, domoticzStep, true_imp_iff, broadcast_devices, sent,
    latest_append]
  apply imp_congr_right
  intro _
  apply forall₂_congr
  intro device listed
  cases status : latest (deviceId cfg device)
      (statusAnnouncement cfg lib state.published state.st) with
  | some text => simp
  | none =>
      simp only [Option.none_or, Option.mem_def, reduceCtorEq, false_imp_iff, implies_true,
        true_and, true_imp_iff]
      by_cases unheard : Unheard cfg state.st device
      · rw [(unheard_iff separate listed).mpr unheard, Option.getD_none]
        rw [unheard_shows_iff (known _ (device_id_ne_zero separate listed)) listed unheard]
        exact (imp_iff_right unheard).symm
      · rw [heard_state separate listed unheard, Option.getD_some]
        exact iff_of_true (shows_switch _) fun never => absurd never unheard

/-- After any other event there is still a broadcast to come. -/
theorem domoticz_step_agrees (separate : SeparateIds cfg) {state : DomoticzState}
    (known : ValuesKnown cfg state) (event : DomoticzEvent) :
    Agrees cfg (domoticzStep cfg lib state event) ↔ ChangesTook cfg lib state event := by
  have unsettled {after : DomoticzState} (waiting : after.settled = false) : Agrees cfg after := by
    intro settled
    rw [waiting] at settled
    cases settled
  cases event with
  | userChange message => exact iff_of_true (unsettled rfl) trivial
  | deliver now =>
      refine iff_of_true (unsettled ?_) trivial
      rw [domoticzStep]
      split <;> rfl
  | request now request => exact iff_of_true (unsettled rfl) trivial
  | broadcast now => exact broadcast_agrees separate known now

def domoticzStart (st : SprinklerdState) (values : Int → Int) : DomoticzState where
  st := st
  published := {}
  values := values
  changed idx := some (values idx)
  inFlight := []
  settled := false

theorem domoticz_start_known (st : SprinklerdState) (values : Int → Int) :
    ValuesKnown cfg (domoticzStart st values) := by
  intro idx _
  constructor
  · intro value same
    exact Option.some.inj same
  · intro never
    cases never
  · intro never
    cases never

/-- Domoticz and the daemon agree whenever things have settled exactly in the runs
whose broadcasts find no change to Domoticz that was made in vain. -/
theorem domoticz_agrees (separate : SeparateIds cfg) (st : SprinklerdState)
    (values : Int → Int) (events : List DomoticzEvent) :
    (∀ done, done <+: events →
        Agrees cfg (run (domoticzStep cfg lib) (domoticzStart st values) done)) ↔
      Admitted (domoticzStep cfg lib) (ChangesTook cfg lib) (domoticzStart st values) events := by
  have unsettled : Agrees cfg (domoticzStart st values) := fun never => by cases never
  rw [prefixes_iff_admitted, and_iff_right unsettled]
  exact admitted_congr (ValuesKnown cfg)
    (fun _ event known _ => domoticz_step_agrees separate known event)
    (fun _ event known _ _ => domoticz_step_known known event)
    (domoticz_start_known st values) (admitted_of_forall fun _ _ => trivial)

section Bench

def benchSwitchOn : List DomoticzEvent :=
  [.broadcast 1000, .userChange { idx := 11, nvalue := dzOn, svalue := [] }, .deliver 1001,
    .broadcast 1001]

/-- With a default runtime the zone turns on, and the second broadcast says so. -/
theorem domoticz_agrees_on_change :
    Agrees (benchDomoticz (-1)) (run (domoticzStep (benchDomoticz (-1)) benchLibrary)
      (domoticzStart (benchDevices 10) fun _ => dzOff) benchSwitchOn) := by
  apply (domoticz_agrees bench_separate_ids _ _ benchSwitchOn).mpr _ _ (List.prefix_refl _)
  exact ⟨by decide +kernel, trivial, trivial, by decide +kernel, trivial⟩

/-- Without one Domoticz keeps showing it on. -/
theorem refused_change_stays :
    ¬ Agrees (benchDomoticz (-1)) (run (domoticzStep (benchDomoticz (-1)) benchLibrary)
      (domoticzStart (benchDevices 0) fun _ => dzOff) benchSwitchOn) := by
  intro agrees
  have shows := agrees (by decide +kernel) (by decide +kernel) (.zone 1) (by decide)
  exact absurd (shows.mp (by decide +kernel)) (by decide +kernel)

end Bench

end SprinklerD.DomoticzAgreement
