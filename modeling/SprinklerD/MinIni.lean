import SprinklerD.Config
import SprinklerD.Foundation.CString
import SprinklerD.Foundation.LineReader
import Mathlib.Data.List.DropRight

/-!
# Reading the configuration file

`ini_gets` and `ini_getl` of `minIni.c`, with the functions they are made of. Each call opens
the file, reads it from the top through a buffer of its own and looks for the first section
of the name and the first entry of the key in it. A character is a byte, and a pointer into
the buffer is the text that begins there.
-/

namespace SprinklerD.MinIni

open Foundation.CString Foundation.LineReader Foundation.MachineInt
open SprinklerD.Config

set_option autoImplicit false

section Source

def iniBuffersize : Nat := 512

/-- `'\0' < *str && *str <= ' '`. A byte above 127 is negative or large. -/
def isBlank (char : Char) : Bool := 0 < char.toNat ∧ char.toNat ≤ 32

def skipleading (str : Text) : Text := str.dropWhile isBlank

/-- The text in front of the pointer that the source returns. -/
def skiptrailing (str : Text) : Text := str.rdropWhile isBlank

def striptrailing (str : Text) : Text := skiptrailing str

/-- `QUOTE_ENQUOTE` is for writing only. -/
inductive QuoteOption where
  | quoteNone
  | quoteDequote
deriving DecidableEq, Repr

/-- The loop of `QUOTE_DEQUOTE`, with room for so many characters. -/
def dequoted : Nat → Text → Text
  | 0, _ => []
  | _ + 1, [] => []
  | room + 1, char :: rest =>
      if (char = '"' ∨ char = '\\') ∧ rest.head? = some '"' then '"' :: dequoted room rest.tail
      else char :: dequoted room rest

/-- What is in `dest` afterwards. -/
def iniStrncpy (source : Text) (maxlen : Nat) : QuoteOption → Text
  | .quoteNone => source.take (maxlen - 1)
  | .quoteDequote => dequoted (maxlen - 1) source

/-- The loop of `cleanstring` that looks for a comment: the characters it passes. `jumped`
is set for a quote that the loop steps over together with the character in front of it. -/
def uncommented : Bool → Bool → Text → Text
  | _, _, [] => []
  | isString, true, char :: rest => char :: uncommented isString false rest
  | isString, false, char :: rest =>
      if (char = ';' ∨ char = '#') ∧ isString = false then []
      else if (char = '"' ∨ char = '\\') ∧ rest.head? = some '"' then
        char :: uncommented isString true rest
      else char :: uncommented (if char = '"' then !isString else isString) false rest

def cleanstring (string : Text) : Text × QuoteOption :=
  let stripped := striptrailing (uncommented false false string)
  if stripped.head? = some '"' ∧ stripped.getLast? = some '"' then
    (stripped.tail.dropLast, .quoteDequote)
  else (stripped, .quoteNone)

/-- The three conditions on a line that ends the search for the section: a bracket, its last
closing one, and the name between them, compared without regard to case. -/
def sectionLine (name line : Text) : Bool :=
  match skipleading line with
  | [] => false
  | char :: sp =>
      char = '[' ∧ ']' ∈ sp ∧ (sp.rdropWhile (· ≠ ']')).length = name.length + 1 ∧
        strncasecmpEqual sp name name.length

/-- The first equal sign, or the first colon if there is none. -/
def separator (sp : Text) : Option Char :=
  if '=' ∈ sp then some '=' else if ':' ∈ sp then some ':' else none

/-- The text behind the separator, if the line holds an entry of the key. -/
def entryLine (key line : Text) : Option Text :=
  let sp := skipleading line
  (separator sp).bind fun mark =>
    if sp.head? ≠ some ';' ∧ sp.head? ≠ some '#' ∧ key ≠ [] ∧
        (skiptrailing (sp.takeWhile (· ≠ mark))).length = key.length ∧
        strncasecmpEqual sp key key.length then
      some (sp.dropWhile (· ≠ mark)).tail
    else none

/-- The first loop of `getkeystring`: the lines behind that of the section. -/
def findSection (name : Text) : List Text → Option (List Text)
  | [] => none
  | line :: lines => if sectionLine name line then some lines else findSection name lines

/-- The second loop of `getkeystring`. Any bracket ends the section. -/
def findEntry (key : Text) : List Text → Option Text
  | [] => none
  | line :: lines =>
      if (skipleading line).head? = some '[' then none
      else
        match entryLine key line with
        | some text => some text
        | none => findEntry key lines

/-- With both indexes `-1`. The lines are the contents of the buffer after each read. -/
def getkeystring (lines : List Text) (name key : Text) (bufferSize : Nat) : Option Text :=
  (if name = [] then some lines else findSection name lines).bind fun area =>
    (findEntry key area).map fun text =>
      let cleaned := cleanstring (skipleading text)
      iniStrncpy cleaned.1 bufferSize cleaned.2

/-- What the calls of `fgets` leave in the buffer, which holds one character less than its
size, up to the first NUL. -/
def iniLines (text : Text) : List Text :=
  (pieces '\n' (iniBuffersize - 1) text).map cString

/-- What is in `Buffer` afterwards. There is no file where it cannot be opened. -/
def iniGets (file : Option Text) (name key defValue : Text) (bufferSize : Nat) : Text :=
  match file.bind fun text => getkeystring (iniLines text) name key bufferSize with
  | some value => value
  | none => defValue.take (bufferSize - 1)

def isHex (char : Char) : Bool :=
  char.isDigit ∨ ('a' ≤ char.toLower ∧ char.toLower ≤ 'f')

def hexValue (char : Char) : Nat :=
  if char.isDigit then char.toNat - '0'.toNat else char.toLower.toNat - 'a'.toNat + 10

def readHex : Nat → Text → Nat
  | sofar, [] => sofar
  | sofar, char :: rest =>
      if isHex char then readHex (16 * sofar + hexValue char) rest else sofar

/-- `strtol` in base sixteen takes one `0x`. Without digits behind it the number is the zero
in front, which is the same. -/
def hexDigits : Text → Text
  | '0' :: mark :: rest => if mark.toLower = 'x' then rest else '0' :: mark :: rest
  | text => text

def strtol16 (memory : Text) : Int :=
  match memory.dropWhile isSpace with
  | '-' :: digits => max (-2 ^ 63) (-(readHex 0 (hexDigits digits) : Int))
  | '+' :: digits => min (2 ^ 63 - 1) (readHex 0 (hexDigits digits) : Int)
  | digits => min (2 ^ 63 - 1) (readHex 0 (hexDigits digits) : Int)

/-- The buffer has 64 characters. An `X` behind the first character makes the number
hexadecimal, whatever the first character is. -/
def iniGetl (file : Option Text) (name key : Text) (defValue : Int) : Int :=
  let localBuffer := iniGets file name key [] 64
  if localBuffer = [] then defValue
  else if localBuffer[1]?.any fun char => char.toUpper = 'X' then strtol16 localBuffer
  else strtol localBuffer

end Source

end SprinklerD.MinIni
