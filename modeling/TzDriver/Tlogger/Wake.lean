/-
The wake-ups of the log's readers (`process_tlogger_poll`, `process_tlogger_read` and
`tz_log_write` of `linux/tlogger/tlogger.c`).

`tz_log_write` wakes the readers if `last_pos` differs from `g_last_read_offset`, which is the
offset where the last reader that got something stopped, whichever reader that was.
-/

import TzDriver.Lib.Runs
import TzDriver.Tlogger.Read

namespace TzDriver.Tlogger

open TzDriver.Lib

inductive ReaderPlace where
  | outside
  /-- in `process_tlogger_read`, with the flag that `get_buffer_info` has copied -/
  | reading (copied : LogBufferFlag)
  /-- asleep in a poll for `POLLIN` since `g_last_read_offset` was `offset`; `passed` is the file
  whose read has stored it since, if one has -/
  | asleep (offset : Nat) (passed : Option Nat)
  /-- woken, and not yet polled again -/
  | woken
deriving DecidableEq, Repr

structure OpenReader where
  reader : Reader
  place : ReaderPlace
deriving DecidableEq, Repr

/-- `notified` records that `tz_log_write` has run since the TEE wrote. -/
structure LogDevice where
  bufferMaxLen : Nat
  flag : LogBufferFlag
  mem : Memory
  lastReadOffset : Nat
  readers : Nat → Option OpenReader
  notified : Bool

inductive WakeLabel where
  | write (flag : LogBufferFlag) (mem : Memory)
  | tzLogWrite
  | openReader (file : Nat)
  | release (file : Nat)
  | getBufferInfo (file : Nat)
  | read (file count : Nat)
  | poll (file : Nat)
  | setReaderCurPos (file : Nat)

def ReaderPlace.wake : ReaderPlace → ReaderPlace
  | .asleep _ _ => .woken
  | place => place

/-- A read of the file has stored `g_last_read_offset`. -/
def ReaderPlace.passedBy (file : Nat) : ReaderPlace → ReaderPlace
  | .asleep offset _ => .asleep offset (some file)
  | place => place

theorem ReaderPlace.wake_ne_asleep (place : ReaderPlace) (offset : Nat) (passed : Option Nat) :
    place.wake ≠ .asleep offset passed := by
  cases place <;> rintro ⟨⟩

theorem ReaderPlace.passedBy_eq_asleep {place : ReaderPlace} {file offset : Nat}
    {passed : Option Nat} (same : place.passedBy file = .asleep offset passed) :
    passed = some file ∧ ∃ earlier, place = .asleep offset earlier := by
  cases place with
  | asleep offset earlier =>
      cases same
      exact ⟨rfl, earlier, rfl⟩
  | outside => cases same
  | reading copied => cases same
  | woken => cases same

namespace LogDevice

variable (device : LogDevice)

def set (file : Nat) (entry : Option OpenReader) : LogDevice :=
  { device with readers := Function.update device.readers file entry }

def changePlaces (with_ : ReaderPlace → ReaderPlace) : LogDevice :=
  { device with
    readers := fun file =>
      (device.readers file).map fun entry => { entry with place := with_ entry.place } }

def procReadRet (file : Nat) (result : ReadResult) : LogDevice :=
  if 0 < result.ret then
    { device.changePlaces (.passedBy file) with lastReadOffset := result.reader.rOff }
  else device

def tzLogWrite : LogDevice :=
  if device.lastReadOffset ≠ device.flag.lastPos then
    { device.changePlaces .wake with notified := true }
  else { device with notified := true }

/-- `process_tlogger_poll` for `POLLIN`, and the sleep if it is not set.  A wake-up between the
two is not lost: the thread is on the queue before the offsets are compared. -/
def processTloggerPoll (reader : Reader) : ReaderPlace :=
  if device.flag.lastPos ≠ reader.rOff then .outside else .asleep device.lastReadOffset none

/-- The part of `process_tlogger_read` behind `get_buffer_info`. -/
def readOn (file count : Nat) (reader : Reader) (copied : LogBufferFlag) : LogDevice :=
  let result := processTloggerRead device.bufferMaxLen copied device.flag device.mem reader count
  (device.procReadRet file result).set file (some ⟨result.reader, .outside⟩)

end LogDevice

def LogDevice.exec (device : LogDevice) : WakeLabel → Option LogDevice
  | .write flag mem => some { device with flag := flag, mem := mem, notified := false }
  | .tzLogWrite => some device.tzLogWrite
  | .openReader file =>
      match device.readers file with
      | none => some (device.set file (some ⟨⟨0, 0⟩, .outside⟩))
      | some _ => none
  | .release file =>
      match device.readers file with
      | some ⟨_, .outside⟩ => some (device.set file none)
      | _ => none
  | .getBufferInfo file =>
      match device.readers file with
      | some ⟨reader, .outside⟩ => some (device.set file (some ⟨reader, .reading device.flag⟩))
      | _ => none
  | .read file count =>
      match device.readers file with
      | some ⟨reader, .reading copied⟩ => some (device.readOn file count reader copied)
      | _ => none
  | .poll file =>
      match device.readers file with
      | some ⟨reader, .outside⟩ | some ⟨reader, .woken⟩ =>
          some (device.set file (some ⟨reader, device.processTloggerPoll reader⟩))
      | _ => none
  | .setReaderCurPos file =>
      match device.readers file with
      | some ⟨_, .outside⟩ =>
          some (device.set file
            (some ⟨⟨device.flag.lastPos, device.flag.writeLoops⟩, .outside⟩))
      | _ => none

def wakeMachine : Machine LogDevice WakeLabel :=
  { init := fun device => device.lastReadOffset = 0 ∧ ∀ file, device.readers file = none
    step := fun before label after => before.exec label = some after }

namespace LogDevice

variable {device after : LogDevice}

/-- What is known of a reader that sleeps. -/
structure Rests (device : LogDevice) (file : Nat) (reader : Reader) (offset : Nat)
    (passed : Option Nat) : Prop where
  stored : passed = none → device.lastReadOffset = offset
  other : passed ≠ some file
  missed : device.notified = true →
    device.flag.lastPos = reader.rOff ∨ passed ≠ none ∨ device.flag.lastPos = offset

def Sound (device : LogDevice) : Prop :=
  ∀ file reader offset passed, device.readers file = some ⟨reader, .asleep offset passed⟩ →
    device.Rests file reader offset passed

/-! ### The steps -/

theorem Sound.set (sound : device.Sound) {file : Nat} {entry : Option OpenReader}
    (awake : ∀ reader offset passed, entry ≠ some ⟨reader, .asleep offset passed⟩) :
    (device.set file entry).Sound := by
  intro other reader offset passed asleep
  by_cases same : other = file
  · subst same
    have own : entry = some ⟨reader, .asleep offset passed⟩ := by
      rw [← asleep]
      exact (Function.update_self other entry device.readers).symm
    exact absurd own (awake reader offset passed)
  · have still : device.readers other = some ⟨reader, .asleep offset passed⟩ := by
      rw [← asleep]
      exact (Function.update_of_ne same entry device.readers).symm
    have rests := sound other reader offset passed still
    exact ⟨rests.stored, rests.other, rests.missed⟩

theorem Sound.poll (sound : device.Sound) (file : Nat) (reader : Reader) :
    (device.set file (some ⟨reader, device.processTloggerPoll reader⟩)).Sound := by
  unfold processTloggerPoll
  split
  · apply sound.set
    rintro _ _ _ ⟨⟩
  · next nothing =>
      intro other later offset passed asleep
      by_cases same : other = file
      · subst same
        have own := (Function.update_self other _ device.readers).symm.trans asleep
        cases own
        constructor
        · intro _
          rfl
        · rintro ⟨⟩
        · intro _
          exact .inl (not_not.mp nothing)
      · have still : device.readers other = some ⟨later, .asleep offset passed⟩ := by
          rw [← asleep]
          exact (Function.update_of_ne same _ device.readers).symm
        have rests := sound other later offset passed still
        exact ⟨rests.stored, rests.other, rests.missed⟩

theorem Sound.write (sound : device.Sound) (flag : LogBufferFlag) (mem : Memory) :
    ({ device with flag := flag, mem := mem, notified := false } : LogDevice).Sound := by
  intro file reader offset passed asleep
  have rests := sound file reader offset passed asleep
  constructor
  · exact rests.stored
  · exact rests.other
  · rintro ⟨⟩

theorem changePlaces_some {with_ : ReaderPlace → ReaderPlace} {file : Nat} {reader : Reader}
    {place : ReaderPlace} (found : (device.changePlaces with_).readers file = some ⟨reader, place⟩) :
    ∃ before, device.readers file = some ⟨reader, before⟩ ∧ with_ before = place := by
  obtain ⟨entry, here, same⟩ := Option.map_eq_some_iff.mp found
  cases same
  exact ⟨entry.place, here, rfl⟩

/-- `tz_log_write` leaves a reader asleep only if `last_pos` is the offset that the last read has
stored. -/
theorem Sound.tzLogWrite (sound : device.Sound) : device.tzLogWrite.Sound := by
  unfold LogDevice.tzLogWrite
  split
  · intro file reader offset passed asleep
    obtain ⟨before, _, woken⟩ := @changePlaces_some device ReaderPlace.wake _ _ _ asleep
    exact absurd woken (ReaderPlace.wake_ne_asleep before offset passed)
  · next skipped =>
      intro file reader offset passed asleep
      have rests := sound file reader offset passed asleep
      constructor
      · exact rests.stored
      · exact rests.other
      · intro _
        right
        cases passed with
        | some file => exact .inl (Option.some_ne_none file)
        | none =>
            right
            have atEnd : device.lastReadOffset = device.flag.lastPos := not_not.mp skipped
            exact atEnd.symm.trans (rests.stored rfl)

theorem Sound.procReadRet (sound : device.Sound) {file : Nat} {reader : Reader}
    {copied : LogBufferFlag} (reads : device.readers file = some ⟨reader, .reading copied⟩)
    (result : ReadResult) : (device.procReadRet file result).Sound := by
  unfold LogDevice.procReadRet
  split
  · intro other later offset passed asleep
    obtain ⟨before, here, moved⟩ :=
      @changePlaces_some device (ReaderPlace.passedBy file) _ _ _ asleep
    obtain ⟨rfl, earlier, rfl⟩ := ReaderPlace.passedBy_eq_asleep moved
    constructor
    · rintro ⟨⟩
    · intro same
      cases same
      rw [reads] at here
      cases here
    · intro _
      exact .inr (.inl (Option.some_ne_none file))
  · exact sound

theorem Sound.exec (sound : device.Sound) {label : WakeLabel}
    (taken : device.exec label = some after) : after.Sound := by
  cases label with
  | write flag mem =>
      cases taken
      exact sound.write flag mem
  | tzLogWrite =>
      cases taken
      exact sound.tzLogWrite
  | openReader file =>
      simp only [LogDevice.exec] at taken
      split at taken
      · cases taken
        apply sound.set
        rintro _ _ _ ⟨⟩
      · cases taken
  | release file =>
      simp only [LogDevice.exec] at taken
      split at taken
      · cases taken
        apply sound.set
        rintro _ _ _ ⟨⟩
      · cases taken
  | getBufferInfo file =>
      simp only [LogDevice.exec] at taken
      split at taken
      · cases taken
        apply sound.set
        rintro _ _ _ ⟨⟩
      · cases taken
  | read file count =>
      simp only [LogDevice.exec] at taken
      split at taken
      · next reads =>
          cases taken
          apply (sound.procReadRet reads _).set
          rintro _ _ _ ⟨⟩
      · cases taken
  | poll file =>
      simp only [LogDevice.exec] at taken
      split at taken
      · cases taken
        exact sound.poll file _
      · cases taken
        exact sound.poll file _
      · cases taken
  | setReaderCurPos file =>
      simp only [LogDevice.exec] at taken
      split at taken
      · cases taken
        apply sound.set
        rintro _ _ _ ⟨⟩
      · cases taken

theorem Sound.of_reachable (reached : wakeMachine.Reachable device) : device.Sound := by
  apply reached.invariant
  · rintro start ⟨_, closed⟩ file reader offset passed asleep
    rw [closed file] at asleep
    cases asleep
  · intro before label after sound taken
    exact sound.exec taken

end LogDevice

/-- A reader that is still asleep although it has not read everything, and although
`tz_log_write` has run since the last write: another file's read has moved `g_last_read_offset`
since it fell asleep, or the writer stands where that offset was then, or the writer stands at
the reader's own offset and is a lap ahead. -/
theorem log_wake_missed {device : LogDevice} (reached : wakeMachine.Reachable device)
    {file offset : Nat} {reader : Reader} {passed : Option Nat}
    (asleep : device.readers file = some ⟨reader, .asleep offset passed⟩)
    (notified : device.notified = true)
    (unread : ¬(device.flag.lastPos = reader.rOff ∧ device.flag.writeLoops = reader.rLoops)) :
    (∃ other, other ≠ file ∧ passed = some other) ∨ device.flag.lastPos = offset ∨
      device.flag.lastPos = reader.rOff ∧ device.flag.writeLoops ≠ reader.rLoops := by
  have rests := LogDevice.Sound.of_reachable reached file reader offset passed asleep
  rcases rests.missed notified with atReader | wasPassed | atOffset
  · right
    right
    exact ⟨atReader, fun sameLap => unread ⟨atReader, sameLap⟩⟩
  · left
    obtain ⟨other, same⟩ := Option.ne_none_iff_exists'.mp wasPassed
    refine ⟨other, ?_, same⟩
    rintro rfl
    exact rests.other same
  · exact .inr (.inl atOffset)

def newDevice : LogDevice :=
  { bufferMaxLen := 10020
    flag := ⟨0, 0, 10020⟩
    mem := fun _ => 0
    lastReadOffset := 0
    readers := fun _ => none
    notified := false }

def oneItem : Memory := fun place =>
  if place = 32 ∨ place = 33 then 0x5A else if place = 40 ∨ place = 42 then 64 else 0

/-- The second reader has read the item before `tz_log_write` runs, and the first one sleeps
on. -/
def overtaken : List WakeLabel :=
  [.openReader 0, .openReader 1, .poll 0, .write ⟨128, 0, 10020⟩ oneItem, .getBufferInfo 1,
    .read 1 1024, .tzLogWrite]

theorem log_wake_missed_overtaken : ∃ device : LogDevice,
    device.readers 0 = some ⟨⟨0, 0⟩, .asleep 0 (some 1)⟩ ∧ device.flag.lastPos = 128 ∧
      ((∃ other, other ≠ 0 ∧ some 1 = some other) ∨ device.flag.lastPos = 0 ∨
        device.flag.lastPos = 0 ∧ device.flag.writeLoops ≠ 0) := by
  have opened : wakeMachine.Reachable newDevice := .start ⟨rfl, fun _ => rfl⟩
  have ran : ((Machine.replay LogDevice.exec newDevice overtaken).map fun device =>
      decide (device.readers 0 = some ⟨⟨0, 0⟩, .asleep 0 (some 1)⟩ ∧
        device.flag = ⟨128, 0, 10020⟩ ∧ device.notified = true)) = some true := by
    decide +kernel
  obtain ⟨device, reached, shown⟩ := opened.exists_of_replay (fun _ _ _ stepped => stepped) ran
  obtain ⟨asleep, flag, notified⟩ := of_decide_eq_true shown
  have atEnd : device.flag.lastPos = 128 := congrArg LogBufferFlag.lastPos flag
  have unread : ¬(device.flag.lastPos = 0 ∧ device.flag.writeLoops = 0) := by
    rw [atEnd]
    rintro ⟨⟨⟩, _⟩
  exact ⟨device, asleep, atEnd, log_wake_missed reached asleep notified unread⟩

end TzDriver.Tlogger
