import SprinklerD.Daemon

/-!
# Which handler serves a query

The tests of `serve_web_request` on the type of a query look at the string in the buffer
only. A buffer that reads as one of the types is passed on to the handler of that type.
-/

namespace SprinklerD.WebDispatch

open Foundation.CString
open SprinklerD.Config SprinklerD.NetServices

set_option autoImplicit false

theorem strcmp_of_same {buf word : Text} (same : strcmpEqual buf word = true) (text : Text) :
    strcmpEqual buf text = strcmpEqual word text := by
  unfold strcmpEqual
  rw [of_decide_eq_true same]

theorem strncasecmp_of_same {buf word : Text} (same : strcmpEqual buf word = true)
    (text : Text) (count : Nat) :
    strncasecmpEqual buf text count = strncasecmpEqual word text count := by
  unfold strncasecmpEqual compared
  rw [of_decide_eq_true same]

variable {cfg : SprinklerdCfg} {query stack word : Text} (now : Int) (st : SprinklerdState)

theorem serve_web_request_word
    (same : strcmpEqual (mgGetHttpVar query "type".toList stack) word = true) :
    serveWebRequest cfg now query stack st =
      if strcmpEqual word "json".toList then (st, .document .advancedSprinkler)
      else if strcmpEqual word "homebridge".toList then (st, .document .homebridgeSprinkler)
      else if strcmpEqual word "firstload".toList then (st, .document .sprinklerCal)
      else if strcmpEqual word "read".toList then (st, .document .sprinkler)
      else if strcmpEqual word "option".toList then
        serveOption cfg now query (mgGetHttpVar query "type".toList stack) st
      else if strncasecmpEqual word "config".toList 6 then
        serveConfig query (mgGetHttpVar query "type".toList stack) st
      else if strncasecmpEqual word "sensor".toList 6 then
        serveSensor cfg now query (mgGetHttpVar query "type".toList stack) st
      else if strcmpEqual word "zone".toList ∨ strcmpEqual word "cron".toList then
        serveZone cfg now query (mgGetHttpVar query "type".toList stack) st
      else if strcmpEqual word "zrtcfg".toList then
        serveZrtcfg cfg query (mgGetHttpVar query "type".toList stack) st
      else if strcmpEqual word "calcfg".toList then
        serveCalcfg cfg now query (mgGetHttpVar query "type".toList stack) st
      else (st, unknownRequest) := by
  simp only [serveWebRequest, strcmp_of_same same, strncasecmp_of_same same]

theorem serve_web_request_option
    (asked : strcmpEqual (mgGetHttpVar query "type".toList stack) "option".toList = true) :
    serveWebRequest cfg now query stack st =
      serveOption cfg now query (mgGetHttpVar query "type".toList stack) st := by
  rw [serve_web_request_word now st asked, if_neg (by decide), if_neg (by decide),
    if_neg (by decide), if_neg (by decide), if_pos (by decide)]

theorem serve_web_request_zone
    (asked : strcmpEqual (mgGetHttpVar query "type".toList stack) "zone".toList = true ∨
      strcmpEqual (mgGetHttpVar query "type".toList stack) "cron".toList = true) :
    serveWebRequest cfg now query stack st =
      serveZone cfg now query (mgGetHttpVar query "type".toList stack) st := by
  rcases asked with zone | cron
  · rw [serve_web_request_word now st zone, if_neg (by decide), if_neg (by decide),
      if_neg (by decide), if_neg (by decide), if_neg (by decide), if_neg (by decide),
      if_neg (by decide), if_pos (by decide)]
  · rw [serve_web_request_word now st cron, if_neg (by decide), if_neg (by decide),
      if_neg (by decide), if_neg (by decide), if_neg (by decide), if_neg (by decide),
      if_neg (by decide), if_pos (by decide)]

theorem serve_web_request_zrtcfg
    (asked : strcmpEqual (mgGetHttpVar query "type".toList stack) "zrtcfg".toList = true) :
    serveWebRequest cfg now query stack st =
      serveZrtcfg cfg query (mgGetHttpVar query "type".toList stack) st := by
  rw [serve_web_request_word now st asked, if_neg (by decide), if_neg (by decide),
    if_neg (by decide), if_neg (by decide), if_neg (by decide), if_neg (by decide),
    if_neg (by decide), if_neg (by decide), if_pos (by decide)]

theorem serve_web_request_calcfg
    (asked : strcmpEqual (mgGetHttpVar query "type".toList stack) "calcfg".toList = true) :
    serveWebRequest cfg now query stack st =
      serveCalcfg cfg now query (mgGetHttpVar query "type".toList stack) st := by
  rw [serve_web_request_word now st asked, if_neg (by decide), if_neg (by decide),
    if_neg (by decide), if_neg (by decide), if_neg (by decide), if_neg (by decide),
    if_neg (by decide), if_neg (by decide), if_neg (by decide), if_pos (by decide)]

end SprinklerD.WebDispatch
