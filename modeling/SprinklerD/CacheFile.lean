import SprinklerD.SdCron
import SprinklerD.Foundation.SinglePrecision
import Mathlib.Logic.Function.Basic

/-!
# Reading the cache file

`read_cache` of `config.c`, on the numbers that `write_cache` prints. `fscanf` reads
each of them into a `float`, and most are then converted to an `int`; a conversion
out of range stops at the end of the range, as on the boards the daemon is made for.
-/

namespace SprinklerD.CacheFile

open Foundation.MachineInt Foundation.SinglePrecision
open SprinklerD.Config SprinklerD.SdCron

set_option autoImplicit false

/-- What `%f` makes of a printed number. `%.1f` prints the nearest tenth, with its sign. -/
def scanFloat : CacheNumber → CFloat
  | .whole value => .finite (roundSingle value)
  | .tenths (.finite value) => .signed (value < 0) (roundSingle (roundEven (|value| * 10) / 10))
  | .tenths value => value

/-- `(int)f` -/
def floatToInt : CFloat → Int
  | .nan _ => 0
  | .negZero => 0
  | .negInf => -2 ^ 31
  | .finite value => saturate32 (value.num.tdiv value.den)
  | .posInf => 2 ^ 31 - 1

/-- The variables of the loop, under their names `c`, `zs` and `z`, and the state. -/
structure CacheReader where
  c : Nat
  zs : Nat
  z : Bool
  st : SprinklerdState

variable (cfg : SprinklerdCfg)

/-- Where a number goes that is not the marker. Writing past the last zone leaves the
table. -/
def storeNumber (f : CFloat) (reader : CacheReader) : SprinklerdState :=
  let i := floatToInt f
  let st := reader.st
  if reader.z then
    { st with
      defaultRuntime := Function.update st.defaultRuntime (reader.c - reader.zs : Nat) i
      outOfTable := st.outOfTable || decide (cfg.zones < reader.c - reader.zs) }
  else if reader.c = 0 then { st with calendar := i ≠ 0 }
  else if reader.c = 1 then { st with delay24h := i ≠ 0 }
  else if reader.c = 2 then { st with delay24hTime := i }
  else if reader.c = 3 then { st with precipChanceDelay := i }
  else if reader.c = 4 then { st with precipInchDelay1day := f }
  else if reader.c = 5 then { st with precipInchDelay2day := f }
  else st

/-- One round of the loop. The number -1 marks the place where the zones begin. -/
def readNumber (reader : CacheReader) (number : CacheNumber) : CacheReader :=
  let f := scanFloat number
  if f.same (.finite (-1)) then { reader with z := true, zs := reader.c, c := reader.c + 1 }
  else { reader with c := reader.c + 1, st := storeNumber cfg f reader }

def readCache (st : SprinklerdState) : SprinklerdState :=
  match st.disk.cacheFile with
  | none => st
  | some numbers =>
      (numbers.foldl (readNumber cfg) { c := 0, zs := 0, z := false, st := st }).st

end SprinklerD.CacheFile
