import SprinklerD.ZoneSetup
import SprinklerD.Foundation.CheckedLoop

/-!
# Setting up the inputs

The second loop of `main_loop` registers a handler for every input and exits unless the
answer is `true`. `registerGPIOinterrupt` answers with the codes of `GPIO_Pi.h`, of which
none is above zero, and with `GPIO_OK` when it has registered the handler.
-/

namespace SprinklerD.InputSetup

open Foundation.CheckedLoop
open SprinklerD.Config SprinklerD.GpioRegisters SprinklerD.ZoneSetup SprinklerD.Operations
open SprinklerD.GpioPi ( validGPIO gpioOk gpioErrBadPin)

set_option autoImplicit false

section Source

def gpioErrGeneral : Int := -7

def intEdgeSetup : BitVec 32 := 0#32

def intEdgeBoth : BitVec 32 := 3#32

/-- `true` of `stdbool.h` beside an `int`. -/
def cTrue : Int := 1

/-- An entry of `inputcfg`. `readCfg` makes every input an input that triggers on both
edges. -/
structure InputCfg where
  pin : Int
  inputOutput : Int := 0
  receiveMode : Int := 3

structure GPIOinterupt where
  args : InputCfg
  pin : BitVec 32
  bit : BitVec 32
  bank : BitVec 32
  lastValue : BitVec 32
  edge : BitVec 32

/-- The static variables of `GPIO_Pi.c`. `handlerThread` is `_interruptHandlerThreadId`, an
unsigned number, and `mutexHeld` the state of `_gpioRegisterMutex`. -/
structure Process (World : Type) where
  regs : Registers
  interupts : List GPIOinterupt
  handlerThread : Nat
  mutexHeld : Bool
  world : World

/-- `pthread_create`: what it returns, and the thread it stores. -/
structure Threads (World : Type) where
  create : World → World × Int × Nat

variable {World : Type} (threads : Threads World)

/-- The list is walked to its end. What the handler thread does to its entries meanwhile is
not seen here. -/
def listInterupt (gpio edge : BitVec 32) (args : InputCfg) (process : Process World) :
    Process World :=
  { process with interupts := process.interupts ++ [{
      args := args
      pin := gpio
      bit := 1#32 <<< (gpio &&& 0x1F#32).toNat
      bank := gpio >>> 5
      lastValue := unsigned (digitalRead gpio process.regs)
      edge := edge }] }

/-- `INT_EDGE_SETUP` is for the other build only. -/
def handlerEdge (mode : BitVec 32) : BitVec 32 := if mode = intEdgeSetup then intEdgeBoth else mode

/-- The end of `registerGPIOinterrupt`. The failing exit keeps the mutex. -/
def startHandler (process : Process World) : Process World × Int :=
  if process.handlerThread ≤ 0 then
    let made := threads.create process.world
    let created := { process with world := made.1, handlerThread := made.2.2 }
    if made.2.1 < 0 then (created, gpioErrGeneral)
    else ({ created with mutexHeld := false }, gpioOk)
  else ({ process with mutexHeld := false }, gpioOk)

/-- `none` where the mutex is held and the call never returns. -/
def registerGPIOinterrupt (gpio mode : BitVec 32) (args : InputCfg) (process : Process World) :
    Option (Process World × Int) :=
  if validGPIO gpio.toNat = false then some (process, gpioErrBadPin)
  else if process.regs.ever = false then some (process, gpioErrNotSetup)
  else if process.mutexHeld then none
  else
    some (startHandler threads
      (listInterupt gpio (handlerEdge mode) args { process with mutexHeld := true }))

def setupInput (process : Process World) (entry : InputCfg) : Option (Process World × Int) :=
  let pin := unsigned entry.pin
  let moded := (pinMode pin (unsigned entry.inputOutput) process.regs).1
  registerGPIOinterrupt threads pin (unsigned entry.receiveMode) entry
    { process with regs := moded }

/-- The test is `!= true`. -/
def isTrue (answer : Int) : Bool := answer = cTrue

/-- `.givenUp` is the call of `exit`. -/
def setupInputs (inputs : List InputCfg) (process : Process World) :
    Outcome (Process World) Int :=
  checkedLoop (setupInput threads) isTrue inputs process

/-- The process when the loop begins: the second `gpioSetup` has answered and the zones are
set up. -/
def zonesReady (cfg : SprinklerdCfg) (board : Board) (regs : Registers) (world : World) :
    Process World where
  regs := setupZones cfg (tableZones cfg) (gpioSetup board regs).1
  interupts := []
  handlerThread := 0
  mutexHeld := false
  world := world

end Source

section Answers

variable {World : Type} {threads : Threads World}

theorem start_handler_answer (process : Process World) :
    (startHandler threads process).2 =
      if process.handlerThread = 0 ∧ (threads.create process.world).2.1 < 0 then gpioErrGeneral
      else gpioOk := by
  simp only [startHandler, Nat.le_zero]
  by_cases idle : process.handlerThread = 0
  · by_cases failed : (threads.create process.world).2.1 < 0
    · simp [idle, failed]
    · simp [idle, failed]
  · simp [idle]

/-- No code of the header is `true`. -/
theorem register_answer_le {gpio mode : BitVec 32} {args : InputCfg}
    {process next : Process World} {answer : Int}
    (made : registerGPIOinterrupt threads gpio mode args process = some (next, answer)) :
    answer ≤ 0 := by
  unfold registerGPIOinterrupt at made
  split_ifs at made with invalid stopped held
  · cases made
    decide
  · cases made
    decide
  · have same : (startHandler threads _).2 = answer :=
      congrArg Prod.snd (Option.some.inj made)
    rw [← same, start_handler_answer]
    split_ifs <;> decide

theorem setup_input_rejected {process next : Process World} {entry : InputCfg} {answer : Int}
    (made : setupInput threads process entry = some (next, answer)) :
    isTrue answer = false := by
  have code := register_answer_le made
  rw [isTrue, decide_eq_false_iff_not, cTrue]
  omega

/-- No answer is `true`, so that the loop gets through only where it has nothing to do. -/
theorem inputs_done_iff (inputs : List InputCfg) (process : Process World) :
    (setupInputs threads inputs process).ending = .done ↔ inputs = [] := by
  cases inputs with
  | nil => exact iff_of_true rfl rfl
  | cons entry rest =>
      apply iff_of_false _ (List.cons_ne_nil entry rest)
      intro done
      rw [setupInputs, checkedLoop] at done
      cases made : setupInput threads process entry with
      | none =>
          rw [made] at done
          cases done
      | some called =>
          have rejected := @setup_input_rejected _ _ _ called.1 _ called.2 made
          simp only [made, rejected, Bool.false_eq_true, if_false] at done
          cases done

/-- The first handler needs a thread, and `pthread_create` decides about the answer. -/
theorem first_answer {process : Process World} {entry : InputCfg}
    (valid : validGPIO entry.pin = true) (running : process.regs.ever = true)
    (free : process.mutexHeld = false) (idle : process.handlerThread = 0) :
    ∃ next, setupInput threads process entry = some (next,
      if (threads.create process.world).2.1 < 0 then gpioErrGeneral else gpioOk) := by
  have still := (pin_mode_ever (unsigned entry.pin) (unsigned entry.inputOutput)
    process.regs).trans running
  rw [setupInput, registerGPIOinterrupt, if_neg (by simp [unsigned_valid valid]),
    if_neg (by simp [still]), if_neg (by simp [free])]
  refine ⟨(startHandler threads _).1, congrArg some (Prod.ext rfl ?_)⟩
  rw [start_handler_answer]
  simp [listInterupt, idle]

end Answers

section Startup

variable {World : Type} (threads : Threads World) (cfg : SprinklerdCfg)

/-- The loop gets through exactly when every call has returned `GPIO_OK`. -/
def CompletesWhenRegistered (inputs : List InputCfg) (process : Process World) : Prop :=
  (setupInputs threads inputs process).ending = .done ↔
    ∀ call ∈ (setupInputs threads inputs process).calls, call = some gpioOk

theorem completes_when_registered_iff (board : Board) (regs : Registers) (world : World)
    (succeeds : (gpioSetup board regs).2 = true) (inputs : List InputCfg)
    (valid : ∀ entry ∈ inputs, validGPIO entry.pin = true) :
    CompletesWhenRegistered threads inputs (zonesReady cfg board regs world) ↔
      inputs = [] ∨ (threads.create world).2.1 < 0 := by
  cases inputs with
  | nil => simp [CompletesWhenRegistered, setupInputs, checkedLoop]
  | cons entry rest =>
      have running : (zonesReady cfg board regs world).regs.ever = true :=
        (setup_zones_ever _ _).trans (gpio_setup_ever board regs succeeds)
      obtain ⟨next, made⟩ := first_answer (valid entry List.mem_cons_self) running rfl rfl
      have rejected := setup_input_rejected made
      rw [CompletesWhenRegistered, setupInputs, loop_done_iff,
        loop_gives_up rest made rejected, accepted_cons, rejected]
      by_cases failed : (threads.create world).2.1 < 0
      · simp [zonesReady, failed, gpioErrGeneral, gpioOk]
      · simp [zonesReady, failed]

def benchBoard : Board where
  memOpens := true
  gpiomemOpens := true
  mapped _ := 0#32

def unsetRegisters : Registers where
  gpioReg _ := 0#32
  ever := false

def benchThreads : Threads Unit where
  create world := (world, 0, 1)

theorem completes_when_registered_two_inputs :
    ¬ CompletesWhenRegistered benchThreads [{ pin := 17 }, { pin := 22 }]
      (zonesReady (benchCfg benchWiring) benchBoard unsetRegisters ()) := by
  intro met
  rcases (completes_when_registered_iff benchThreads (benchCfg benchWiring) benchBoard
    unsetRegisters () rfl [{ pin := 17 }, { pin := 22 }] (by decide)).mp met with none | failed
  · cases none
  · exact absurd failed (by decide)

/-- The handler of the one input is registered, and the process exits. -/
theorem registered_input_exits :
    (gpioSetup benchBoard unsetRegisters).2 = true ∧ validGPIO 17 = true ∧
      ¬ CompletesWhenRegistered benchThreads [{ pin := 17 }]
        (zonesReady (benchCfg benchWiring) benchBoard unsetRegisters ()) := by
  refine ⟨rfl, by decide, ?_⟩
  intro met
  have registered : ∀ call ∈ (setupInputs benchThreads [{ pin := 17 }]
      (zonesReady (benchCfg benchWiring) benchBoard unsetRegisters ())).calls,
      call = some gpioOk := by decide
  exact absurd (met.mpr registered) (by decide)

end Startup

end SprinklerD.InputSetup
