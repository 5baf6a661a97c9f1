/-
Reading the log (`process_tlogger_read` in `linux/tlogger/tlogger.c`).

`get_buffer_info` copies the flag under `mutex_info`; the lap counter and the length that
`trigger_parse_log` uses are read from the shared flag afterwards.
-/

import TzDriver.Tlogger.Items

namespace TzDriver.Tlogger

/-- The fields of `struct log_buffer_flag` that a read uses. -/
structure LogBufferFlag where
  lastPos : Nat
  writeLoops : Nat
  maxLen : Nat
deriving DecidableEq, Repr

structure Reader where
  rOff : Nat
  rLoops : Nat
deriving DecidableEq, Repr

def logBufferMaxLen : Nat := 0x100000

def einval : Int := 22

def efault : Int := 14

/-- `get_last_read_pos`, where `bufferMaxLen` is `g_log_mem_len` less the flag: what it
returns and `*is_read`. -/
def getLastReadPos (bufferMaxLen : Nat) (flag : LogBufferFlag) (reader : Reader) : Int × Bool :=
  if bufferMaxLen > logBufferMaxLen then (-einval, false)
  else if flag.lastPos = reader.rOff ∧ flag.writeLoops = reader.rLoops then (0, false)
  else if flag.maxLen < flag.lastPos ∨ flag.maxLen > bufferMaxLen then (-efault, false)
  else if reader.rOff > flag.maxLen then (-efault, false)
  else (0, true)

/-- What a read returns, the items it copied to the user, and the reader after it. -/
structure ReadResult where
  ret : Int
  items : List Nat
  reader : Reader
deriving DecidableEq, Repr

def nextLap (loops : Nat) : Nat :=
  (loops + 1) % 2 ^ 32

/-- The reset of a reader whose position was overwritten. -/
def resetLapped (flag : LogBufferFlag) (lastPos : Nat) (reader : Reader) : Reader :=
  if flag.writeLoops > nextLap reader.rLoops ∨
      flag.writeLoops = nextLap reader.rLoops ∧ reader.rOff < lastPos then
    ⟨lastPos, (flag.writeLoops + (2 ^ 32 - 1)) % 2 ^ 32⟩
  else reader

def triggerParseLog (mem : Memory) (flag : LogBufferFlag) (count lastPos : Nat) (reader : Reader) :
    ReadResult :=
  if flag.writeLoops = reader.rLoops then
    let parsed := parseLogItem mem count flag.maxLen reader.rOff lastPos
    ⟨bytesOf mem parsed.items, parsed.items, ⟨parsed.readOff, reader.rLoops⟩⟩
  else
    let reader := resetLapped flag lastPos reader
    let upper := parseLogItem mem count flag.maxLen reader.rOff flag.maxLen
    let bufWritten := bytesOf mem upper.items
    if count > bufWritten ∧ upper.userBufferLeft then
      let lower := parseLogItem mem (count - bufWritten) flag.maxLen 0 lastPos
      ⟨bufWritten + bytesOf mem lower.items, upper.items ++ lower.items,
        ⟨lower.readOff, flag.writeLoops⟩⟩
    else ⟨bufWritten, upper.items, ⟨upper.readOff, reader.rLoops⟩⟩

/-- A read that copies the flag `copied` and finds the flag `flag` and the memory `mem`
when it parses. -/
def processTloggerRead (bufferMaxLen : Nat) (copied flag : LogBufferFlag) (mem : Memory)
    (reader : Reader) (count : Nat) : ReadResult :=
  if count < logItemMaxLen then ⟨-einval, [], reader⟩
  else
    match getLastReadPos bufferMaxLen copied reader with
    | (ret, false) => ⟨ret, [], reader⟩
    | (_, true) => triggerParseLog mem flag count copied.lastPos reader

end TzDriver.Tlogger
