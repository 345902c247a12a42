import GreenIsland.Server.Screenshot

/-! The effects of a screenshot, from the client to the server (`Screenshooter`).

A client sends the effects that it wants as an array of words, one for each effect
(`effectsArray`).  The four capture requests decode the array in the same way, and
should arrive at the bitwise or of its entries.

They begin with no effects and combine by `&=` instead of `|=`, so no effect ever
arrives (`decodeEffects_eq`): what is decoded is right only for entries that are all
zero, and a set of effects comes back only if it is empty (`effects_eq_iff`).  The loop
also moves on by a single byte, since its pointer is one to `void`; it reads a word at
each byte of the array, the last three of them past its end. -/

namespace GreenIsland.Server

/-! ## Arrays -/

/-- The bytes of a word in memory. -/
def bytesOf (w : UInt32) : List UInt8 :=
  [w.toUInt8, (w >>> 8).toUInt8, (w >>> 16).toUInt8, (w >>> 24).toUInt8]

/-- The word that begins at a byte. -/
def wordAt (bytes : List UInt8) (pos : Nat) : UInt32 :=
  (bytes.getD pos 0).toUInt32 ||| (bytes.getD (pos + 1) 0).toUInt32 <<< 8 |||
    (bytes.getD (pos + 2) 0).toUInt32 <<< 16 ||| (bytes.getD (pos + 3) 0).toUInt32 <<< 24

/-- A `wl_array`, and the memory that lies behind it. -/
structure WlArray where
  data : List UInt8
  behind : List UInt8
deriving DecidableEq

def WlArray.ofEntries (entries : List UInt32) (behind : List UInt8) : WlArray :=
  ⟨entries.flatMap bytesOf, behind⟩

/-! ## The client -/

inductive Effect
  | pointer
  | border
deriving DecidableEq

/-- The enumerators of client and server, and the entries of the protocol. -/
def Effect.value : Effect → Effects
  | pointer => 1
  | border => 2

/-- `QFlags::testFlag` -/
def Effects.testFlag (effects : Effects) (effect : Effect) : Bool :=
  effects &&& effect.value == effect.value && (effect.value != 0 || effects == effect.value)

/-- The words that `effectsArray` adds. -/
def effectsEntries (effects : Effects) : List UInt32 :=
  (if Effects.testFlag effects .pointer then [Effect.pointer.value] else []) ++
    (if Effects.testFlag effects .border then [Effect.border.value] else [])

def effectsArray (effects : Effects) (behind : List UInt8) : WlArray :=
  .ofEntries (effectsEntries effects) behind

/-! ## The server -/

/-- The loop of the four requests. -/
def decodeEffects (e : WlArray) : Effects :=
  (List.range e.data.length).foldl (fun effects pos => effects &&& wordAt (e.data ++ e.behind) pos) 0

namespace Screenshooter

def captureOutput (output : Option Nat) (e : WlArray) : Screenshot :=
  .create .captureOutput (decodeEffects e) output

def captureActive (e : WlArray) : Screenshot := .create .captureActiveWindow (decodeEffects e) none

def captureSurface (e : WlArray) : Screenshot := .create .captureWindow (decodeEffects e) none

def captureArea (e : WlArray) : Screenshot := .create .captureArea (decodeEffects e) none

end Screenshooter

inductive CaptureRequest
  | captureOutput (output : Option Nat)
  | captureActive
  | captureSurface
  | captureArea
deriving DecidableEq

/-- The screenshot that is announced by `captureRequested`. -/
def CaptureRequest.screenshot (e : WlArray) : CaptureRequest → Screenshot
  | captureOutput output => Screenshooter.captureOutput output e
  | captureActive => Screenshooter.captureActive e
  | captureSurface => Screenshooter.captureSurface e
  | captureArea => Screenshooter.captureArea e

/-! ## What should be decoded -/

/-- The bitwise or of the entries. -/
def orAll (entries : List UInt32) : Effects := entries.foldl (· ||| ·) 0

/-- The flags of a set of effects. -/
def Effects.ofSet (effects : Effect → Bool) : Effects :=
  (if effects .pointer then Effect.pointer.value else 0) |||
    (if effects .border then Effect.border.value else 0)

/-- The client's array says which effects are wanted. -/
theorem orAll_effectsEntries (effects : Effect → Bool) :
    orAll (effectsEntries (.ofSet effects)) = .ofSet effects := by
  unfold Effects.ofSet
  cases effects .pointer with
  | true => cases effects .border <;> decide
  | false => cases effects .border <;> decide

theorem orAll_eq_zero_iff (entries : List UInt32) : orAll entries = 0 ↔ ∀ e ∈ entries, e = 0 := by
  have key : ∀ (entries : List UInt32) (w : UInt32),
      entries.foldl (· ||| ·) w = 0 ↔ w = 0 ∧ ∀ e ∈ entries, e = 0 := by
    intro entries
    induction entries with
    | nil => simp
    | cons e entries ih =>
      intro w
      rw [List.foldl_cons, ih, UInt32.or_eq_zero_iff, List.forall_mem_cons, and_assoc]
  exact (key entries 0).trans (and_iff_right rfl)

theorem ofSet_eq_zero_iff (effects : Effect → Bool) :
    Effects.ofSet effects = 0 ↔ ∀ effect, effects effect = false := by
  have hvalue : ∀ effect : Effect, (if effects effect then effect.value else 0) = 0 ↔
      effects effect = false := by
    intro effect
    cases effects effect with
    | true => cases effect <;> decide
    | false => exact iff_of_true rfl rfl
  unfold Effects.ofSet
  rw [UInt32.or_eq_zero_iff, hvalue, hvalue]
  constructor
  · rintro ⟨hpointer, hborder⟩ (_ | _)
    · exact hpointer
    · exact hborder
  · exact fun h => ⟨h .pointer, h .border⟩

/-! ## What is decoded -/

/-- Nothing is ever added to no effects. -/
theorem decodeEffects_eq (e : WlArray) : decodeEffects e = 0 := by
  unfold decodeEffects
  induction List.range e.data.length with
  | nil => rfl
  | cons pos rest ih =>
    rw [List.foldl_cons, UInt32.zero_and]
    exact ih

theorem effects_screenshot (request : CaptureRequest) (e : WlArray) :
    (request.screenshot e).effects = 0 := by
  cases request with
  | captureOutput output => exact decodeEffects_eq e
  | captureActive => exact decodeEffects_eq e
  | captureSurface => exact decodeEffects_eq e
  | captureArea => exact decodeEffects_eq e

/-- **Effects.**  Each capture request decodes the or of the entries if and only if all
of them are zero, and gets back the effects of the client if and only if there are none. -/
theorem effects_eq_iff (request : CaptureRequest) (behind : List UInt8) :
    (∀ entries, (request.screenshot (.ofEntries entries behind)).effects = orAll entries ↔
      ∀ e ∈ entries, e = 0) ∧
    (∀ effects,
      (request.screenshot (effectsArray (.ofSet effects) behind)).effects = .ofSet effects ↔
        ∀ effect, effects effect = false) := by
  constructor
  · intro entries
    rw [effects_screenshot, eq_comm, orAll_eq_zero_iff]
  · intro effects
    rw [effects_screenshot, eq_comm, ofSet_eq_zero_iff]

/-- The pointer is asked for and does not come. -/
theorem pointer_lost :
    (CaptureRequest.captureActive.screenshot (effectsArray (.ofSet (· = .pointer)) [])).effects ≠
      .ofSet (· = .pointer) := by
  decide

end GreenIsland.Server
