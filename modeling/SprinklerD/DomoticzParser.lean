import SprinklerD.NetServices

/-!
# Reading a Domoticz message

`parseJSONmqttrequest` of `json_messages.c`, on the memory that begins with the message. The
scan looks for quoted key names and from each on for colons, up to the next comma. `svalue`
is the string the buffer holds. One copy can write the terminator behind the buffer of the
caller, which is not modelled.
-/

namespace SprinklerD.DomoticzParser

open Foundation.CString
open SprinklerD.Config SprinklerD.NetServices

set_option autoImplicit false

def dzSvalueLen : Nat := 20

def idxName : Text := "\"idx\"".toList

def nvalueName : Text := "\"nvalue\"".toList

def svalue2Name : Text := "\"svalue2\"".toList

structure DomoticzRequest where
  idx : Int
  nvalue : Int
  svalue : Text
deriving DecidableEq

/-- A loop from behind a key: what it read last, the colons it acted on, and how far it went. -/
structure Reading (Value : Type) where
  value : Value
  found : Nat
  length : Nat

/-- The loop for `idx` and `nvalue`. -/
def readNumber : Text → Int → Reading Int
  | [], value => ⟨value, 0, 0⟩
  | char :: rest, value =>
      if char = ',' ∨ char = nul then ⟨value, 0, 0⟩
      else if char = ':' then
        let later := readNumber rest (atoi rest)
        ⟨later.value, later.found + 1, later.length + 1⟩
      else
        let later := readNumber rest value
        ⟨later.value, later.found, later.length + 1⟩

def beforeSvalue (char : Char) : Bool := char = ':' ∨ char = ' ' ∨ char = '"' ∨ char = '\''

def endsSvalue (char : Char) : Bool := char = '"' ∨ char = '\'' ∨ char = ',' ∨ char = '}'

/-- The copy to `svalue`. Its end is looked for from the second character on. -/
def copySvalue : Text → Text
  | [] => []
  | char :: rest =>
      cString ((char :: rest.takeWhile fun next => !endsSvalue next).take dzSvalueLen)

/-- The loop for the string. While it skips, a colon has been seen and the value is still to
come; the character the value begins with is not looked at again. -/
def readSvalue : Bool → Text → Text → Reading Text
  | true, [], _ => ⟨[], 1, 1⟩
  | false, [], svalue => ⟨svalue, 0, 0⟩
  | true, char :: rest, svalue =>
      if beforeSvalue char then
        let later := readSvalue true rest svalue
        ⟨later.value, later.found, later.length + 1⟩
      else
        let later := readSvalue false rest (copySvalue (char :: rest))
        ⟨later.value, later.found + 1, later.length + 1⟩
  | false, char :: rest, svalue =>
      if char = ',' ∨ char = nul then ⟨svalue, 0, 0⟩
      else
        let later := readSvalue (char = ':') rest svalue
        ⟨later.value, later.found, later.length + 1⟩

/-- What a quote leads to: the fields found by then, what was read, and how many characters
behind the quote have been passed. -/
def readQuoted (svalueStr memory : Text) (found : Nat) (request : DomoticzRequest) :
    Nat × DomoticzRequest × Nat :=
  if strncmpEqual idxName memory 5 then
    let read := readNumber (memory.drop 5) request.idx
    (found + read.found, { request with idx := read.value }, 5 + read.length)
  else if strncmpEqual nvalueName memory 8 then
    let read := readNumber (memory.drop 8) request.nvalue
    (found + read.found, { request with nvalue := read.value }, 8 + read.length)
  else if strncmpEqual svalueStr memory 9 then
    let read := readSvalue false (memory.drop 9) request.svalue
    (found + read.found, { request with svalue := read.value }, 9 + read.length)
  else (found, request, 0)

/-- The scan, `left` characters before `len`. The next `passed` characters are not looked at. -/
def scanFrom (svalueStr : Text) : Text → Nat → Nat → Nat → DomoticzRequest → Bool × DomoticzRequest
  | [], _, _, found, request => (2 ≤ found, request)
  | _ :: rest, left, passed + 1, found, request =>
      scanFrom svalueStr rest (left - 1) passed found request
  | char :: rest, left, 0, found, request =>
      if left = 0 ∨ char = nul then (2 ≤ found, request)
      else if char = '"' then
        let read := readQuoted svalueStr (char :: rest) found request
        if 4 ≤ read.1 then (true, read.2.1)
        else scanFrom svalueStr rest (left - 1) read.2.2 read.1 read.2.1
      else scanFrom svalueStr rest (left - 1) 0 found request

/-- `idx` and `nvalue` are what the variables of the caller hold before the call. -/
def parseJSONmqttrequest (str : Text) (len : Nat) (idx nvalue : Int) (svalueStr : Text) :
    Bool × DomoticzRequest :=
  scanFrom svalueStr str len 0 0 ⟨idx, nvalue, []⟩

/-- `actionDomoticzMqttMessage` as it is called, with the bytes behind the payload. -/
def domoticzPayload (cfg : SprinklerdCfg) (now : Int) (payload afterPayload : Text)
    (st : SprinklerdState) : SprinklerdState :=
  let parsed := parseJSONmqttrequest (payload ++ afterPayload) payload.length (-1) (-1) svalue2Name
  if parsed.1 then
    actionDomoticzMqttMessage cfg now parsed.2.idx parsed.2.nvalue parsed.2.svalue st
  else st

end SprinklerD.DomoticzParser
