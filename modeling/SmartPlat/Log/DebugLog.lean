import SmartPlat.Decimal
import SmartPlat.Lib.Rotation

set_option autoImplicit false

/-! # Log files: `ExtLibs/log/debug_log.c`

Records go to the file in use until it is large enough; then the next file is emptied and in use. The number of
the file in use is in a file of its own, so that a program that is started again finds it. What is printed
to a file stays in the buffer of its `FILE` until the next record; when the program ends without leave, any
part of it from the front may have reached the file. Files can be opened, and the time is given as text. -/

namespace SmartPlat.DebugLog

open SmartPlat.Lib

/-! ## Records -/

/-- `LOG_LEV_EN`, without its end -/
inductive LogLevel where
  | err | war | not | dbg
  deriving DecidableEq, Repr

namespace LogLevel

def flag : LogLevel → ℕ
  | err => 1
  | war => 2
  | not => 4
  | dbg => 8

/-- `LOG_LEV[iLevel%LOG_LAST]` -/
def text : LogLevel → List UInt8
  | err => ascii "ERR"
  | war => ascii "WAN"
  | not => ascii "NOT"
  | dbg => ascii "DBG"

end LogLevel

inductive LogDirect where
  /-- `LOG_TTY` -/
  | tty
  /-- `LOG_FLASH` -/
  | flash
  deriving DecidableEq, Repr

/-- A call of `LOG` or `LOGT`, with the message as `vfprintf` makes it. -/
structure LogCall where
  iLevel : LogLevel
  record : List UInt8
  deriving DecidableEq

/-- What `LOG` prints. -/
def LOG (iLevel : LogLevel) (iLine : ℤ) (pcFile pcFunc acTime message : List UInt8) : LogCall where
  iLevel := iLevel
  record := printf (ascii "[%s]-[%s][%s][%s][%d]")
    [.str iLevel.text, .str acTime, .str pcFunc, .str pcFile, .int iLine] ++ message ++ ascii "\r\n"

/-- What `LOGT` prints. -/
def LOGT (iLevel : LogLevel) (acTime message : List UInt8) : LogCall where
  iLevel := iLevel
  record := printf (ascii "[%s]") [.str acTime] ++ message

/-! ## The files -/

def MAX_LOG_SIZE : ℤ := 1048576

def MAX_FILE_CNT : ℤ := 5

/-- What `LogInit` makes of its arguments. `stem` is what `"%s%s"` prints of the path and the prefix. -/
structure LogParam where
  stem : List UInt8
  iMaxFileSize : ℤ
  iMaxFileCount : ℤ
  iLevel : ℕ
  iDirect : LogDirect
  deriving DecidableEq

def LogParam.ofArgs (stem : List UInt8) (iMaxFileSize iMaxFileCount : ℤ) (iLevel : ℕ)
    (iDirect : LogDirect) : LogParam where
  stem := stem
  iMaxFileSize := if iMaxFileSize > MAX_LOG_SIZE ∨ iMaxFileSize = 0 then MAX_LOG_SIZE else iMaxFileSize
  iMaxFileCount := if iMaxFileCount > MAX_FILE_CNT ∨ iMaxFileCount = 0 then MAX_FILE_CNT else iMaxFileCount
  iLevel := iLevel
  iDirect := iDirect

/-- The files of the directory, by their names. -/
abbrev Disk := List UInt8 → Option (List UInt8)

/-- The part of `LOG_FILE_T` that changes, with the buffer of `pfFileHandle`, which is open for the file
    with the number `iSeq`. -/
structure LogFile where
  iSeq : ℤ
  iSize : ℤ
  buffer : List UInt8
  disk : Disk

variable (param : LogParam)

/-- `"%s%s%02d.log"` -/
def logName (iSeq : ℤ) : List UInt8 := param.stem ++ (zeroPadded 2 iSeq ++ ascii ".log")

/-- `"%s%sid.dat"` -/
def idName : List UInt8 := param.stem ++ ascii "id.dat"

/-- Whether there is no such file, as its result says. An empty file leaves `iSeq` as it is. -/
def logGetSeqID (log : LogFile) : Bool × LogFile :=
  match log.disk (idName param) with
  | none => (true, log)
  | some [] => (false, log)
  | some text => (false, { log with iSeq := atoi (text.take 63) })

def logGetFSize (log : LogFile) : LogFile :=
  { log with iSize := ((log.disk (logName param log.iSeq)).getD []).length }

def logSetSeqID (log : LogFile) : LogFile :=
  { log with disk := Function.update log.disk (idName param) (some (decimalInt log.iSeq)) }

/-- The buffer, or what of it gets there, is put behind the file. -/
def putFile (log : LogFile) (text : List UInt8) : LogFile :=
  { log with
    buffer := []
    disk := Function.update log.disk (logName param log.iSeq)
      (some ((log.disk (logName param log.iSeq)).getD [] ++ text)) }

def fflush (log : LogFile) : LogFile := putFile param log log.buffer

/-- `fopen(acPath, "a+")` -/
def fopen (log : LogFile) : LogFile := putFile param log []

def logChangeFile (log : LogFile) : LogFile :=
  let log := fflush param log
  let iSeq := if log.iSeq + 1 > param.iMaxFileCount then 1 else log.iSeq + 1
  let log := { log with iSeq := iSeq, disk := Function.update log.disk (logName param iSeq) none }
  logSetSeqID param { fopen param log with iSize := 0 }

/-- `LogInit`, from its `iSeq = 1` on, with what is found on the disk. -/
def logInit (disk : Disk) : LogFile :=
  let (missing, log) := logGetSeqID param ⟨1, 0, [], disk⟩
  let log := if missing then logSetSeqID param log else log
  fopen param (logGetFSize param log)

/-- `LOG` and `LOGT` differ in what they print alone. -/
def writeLog (log : LogFile) (call : LogCall) : LogFile :=
  if call.iLevel.flag &&& param.iLevel = 0 then log
  else
    let log := if log.iSize ≥ param.iMaxFileSize then logChangeFile param (fflush param log) else log
    match param.iDirect with
    | .tty => { log with iSize := log.iSize + call.record.length }
    | .flash =>
        let log := fflush param log
        { log with buffer := call.record, iSize := log.iSize + call.record.length }

inductive LogEvent where
  | log (call : LogCall)
  /-- The program ends when `cut` bytes of the buffer are in the file, and is started again. -/
  | restart (cut : ℕ)
  deriving DecidableEq

def LogFile.step (log : LogFile) : LogEvent → LogFile
  | .log call => writeLog param log call
  | .restart cut => logInit param (putFile param log (log.buffer.take cut)).disk

/-- From an empty directory. -/
def runLog (events : List LogEvent) : LogFile :=
  events.foldl (LogFile.step param) (logInit param fun _ => none)

/-! ## Names -/

variable {param}

theorem zeroPadded_injective {width m n : ℕ} (h : zeroPadded width m = zeroPadded width n) : m = n := by
  rw [← foldl_zeroPadded width m, h, foldl_zeroPadded]

theorem logName_injective : Function.Injective fun s : ℕ => logName param s := fun m n h => by
  have htail : zeroPadded 2 m ++ ascii ".log" = zeroPadded 2 n ++ ascii ".log" :=
    List.append_cancel_left h
  exact zeroPadded_injective (List.append_cancel_right htail)

theorem logName_ne_idName (iSeq : ℤ) : logName param iSeq ≠ idName param := fun h => by
  have htail : zeroPadded 2 iSeq ++ ascii ".log" = ascii "id.dat" := List.append_cancel_left h
  have hlog : (ascii ".log").getLast? = some 103 := by decide
  have hid : (ascii "id.dat").getLast? = some 116 := by decide
  have hlast := congrArg List.getLast? htail
  rw [List.getLast?_append, hlog, hid, Option.some_or] at hlast
  exact absurd hlast (by decide)

/-! ## What the files hold -/

/-- A log without an end: what is in a file for sure, and the last record, which may still be lost. -/
structure Journal where
  sure : List UInt8
  last : List UInt8
  deriving DecidableEq, Repr

def Journal.step (param : LogParam) (journal : Journal) : LogEvent → Journal
  | .log call =>
      if call.iLevel.flag &&& param.iLevel = 0 then journal
      else ⟨journal.sure ++ journal.last, call.record⟩
  | .restart cut => ⟨journal.sure ++ journal.last.take cut, []⟩

def runJournal (param : LogParam) (events : List LogEvent) : Journal :=
  events.foldl (Journal.step param) ⟨[], []⟩

/-- How many files take turns. -/
def LogParam.files (param : LogParam) : ℕ := max 1 param.iMaxFileCount.toNat

theorem LogParam.files_pos : 0 < param.files := Nat.lt_of_lt_of_le Nat.zero_lt_one (Nat.le_max_left _ _)

/-- The files hold the journal, cut into `segments` and the segment `seg` that is being written. -/
structure Follows (param : LogParam) (log : LogFile) (journal : Journal) (seq : ℕ)
    (segments : List (List UInt8)) (seg : List UInt8) : Prop where
  rotated : Rotated param.files (fun s : ℕ => logName param s) log.disk seq (segments ++ [seg])
  seq_eq : log.iSeq = seq
  text : (segments ++ [seg]).flatten = journal.sure
  buffer : log.buffer = journal.last
  size : log.iSize = seg.length + log.buffer.length
  id : log.disk (idName param) = some (decimalInt seq)
  full : ∀ closed ∈ segments, param.iMaxFileSize ≤ closed.length

variable {log : LogFile} {journal : Journal} {sure : List UInt8} {seq : ℕ} {segments : List (List UInt8)}
  {seg : List UInt8}

theorem Follows.current (h : Follows param log journal seq segments seg) :
    log.disk (logName param seq) = some seg := h.rotated.current LogParam.files_pos

/-- Some of the buffer, or all of it, gets into the file. -/
theorem Follows.putFile (h : Follows param log journal seq segments seg) (cut : List UInt8) :
    Follows param { putFile param log cut with iSize := (seg ++ cut).length } ⟨journal.sure ++ cut, []⟩ seq
      segments (seg ++ cut) where
  rotated := by
    simp only [DebugLog.putFile, h.seq_eq, h.current, Option.getD_some]
    exact h.rotated.write logName_injective
  seq_eq := h.seq_eq
  text := by
    have htext := h.text
    rw [List.flatten_append, List.flatten_singleton] at htext ⊢
    rw [← htext, List.append_assoc]
  buffer := rfl
  size := by simp [DebugLog.putFile]
  id := by
    simp only [DebugLog.putFile, Function.update_of_ne (logName_ne_idName _).symm]
    exact h.id
  full := h.full

theorem Follows.fflush (h : Follows param log journal seq segments seg) :
    Follows param (fflush param log) ⟨journal.sure ++ journal.last, []⟩ seq segments (seg ++ journal.last) := by
  have hput := h.putFile log.buffer
  have hsize : ((seg ++ log.buffer).length : ℤ) = log.iSize := by
    rw [h.size, List.length_append]
    rfl
  rw [hsize, h.buffer] at hput
  rw [DebugLog.fflush, h.buffer]
  exact hput

theorem Follows.logChangeFile (h : Follows param log ⟨sure, []⟩ seq segments seg)
    (hfull : param.iMaxFileSize ≤ log.iSize) :
    Follows param (logChangeFile param log) ⟨sure, []⟩ (nextSlot param.files seq)
      (segments ++ [seg]) [] := by
  have hpos := h.rotated.seq_pos
  have hseq : (if log.iSeq + 1 > param.iMaxFileCount then 1 else log.iSeq + 1) =
      (nextSlot param.files seq : ℤ) := by
    rw [h.seq_eq, nextSlot, LogParam.files]
    split_ifs <;> omega
  have hflush := h.fflush
  have hsize : log.iSize = seg.length := by
    rw [h.size, h.buffer]
    simp
  have hiSeq : (DebugLog.fflush param log).iSeq = log.iSeq := rfl
  have hcurrent := hflush.rotated.rotate LogParam.files_pos logName_injective
  simp only [List.append_nil] at hcurrent
  have htext := h.text
  have hdisk : ∀ name, name ≠ idName param → (DebugLog.logChangeFile param log).disk name =
      Function.update (DebugLog.fflush param log).disk (logName param (nextSlot param.files seq)) (some [])
        name := by
    intro name hname
    simp only [DebugLog.logChangeFile, logSetSeqID, fopen, DebugLog.putFile, hiSeq, hseq,
      Function.update_of_ne hname, Function.update_self, Function.update_idem, Option.getD_none,
      List.append_nil]
  refine {
    rotated := hcurrent.congr fun s => hdisk _ (logName_ne_idName _)
    seq_eq := ?_
    text := ?_
    buffer := rfl
    size := rfl
    id := ?_
    full := ?_ }
  · simp only [DebugLog.logChangeFile, logSetSeqID, fopen, DebugLog.putFile, hiSeq, hseq]
  · rw [List.flatten_append, htext]
    exact List.append_nil _
  · simp only [DebugLog.logChangeFile, logSetSeqID, fopen, DebugLog.putFile, hiSeq, hseq,
      Function.update_self]
  · intro closed hclosed
    rcases List.mem_append.1 hclosed with hold | hnew
    · exact h.full closed hold
    · rw [List.mem_singleton.1 hnew, ← hsize]
      exact hfull

/-- A record is printed behind all that was printed before. -/
theorem Follows.print (h : Follows param log ⟨sure, []⟩ seq segments seg) (record : List UInt8) :
    Follows param { log with buffer := record, iSize := log.iSize + record.length } ⟨sure, record⟩ seq
      segments seg where
  rotated := h.rotated
  seq_eq := h.seq_eq
  text := h.text
  buffer := rfl
  size := by
    rw [h.size, h.buffer]
    simp
  id := h.id
  full := h.full

/-- How large things get in a step: the file in use grows by a record while it is not large enough, and is
    closed when it is. -/
inductive Grows (param : LogParam) (log log' : LogFile) (segments : List (List UInt8)) :
    LogEvent → List (List UInt8) → Prop
  | less {event : LogEvent} (h : log'.iSize ≤ log.iSize) : Grows param log log' segments event segments
  | more {call : LogCall} (hmore : log.iSize < param.iMaxFileSize)
      (h : log'.iSize = log.iSize + call.record.length) : Grows param log log' segments (.log call) segments
  | closed {call : LogCall} {closed : List UInt8} (hclosed : (closed.length : ℤ) = log.iSize)
      (h : log'.iSize = call.record.length) :
      Grows param log log' segments (.log call) (segments ++ [closed])

theorem Follows.writeLog (h : Follows param log journal seq segments seg) (hflash : param.iDirect = .flash)
    (call : LogCall) :
    ∃ seq' segments' seg', Follows param (writeLog param log call) (journal.step param (.log call))
      seq' segments' seg' ∧ Grows param log (writeLog param log call) segments (.log call) segments' := by
  rw [DebugLog.writeLog, Journal.step]
  by_cases hmask : call.iLevel.flag &&& param.iLevel = 0
  · rw [if_pos hmask, if_pos hmask]
    exact ⟨seq, segments, seg, h, .less (Int.le_refl _)⟩
  · rw [if_neg hmask, if_neg hmask, hflash]
    have hflush := h.fflush
    by_cases hfull : log.iSize ≥ param.iMaxFileSize
    · rw [if_pos hfull]
      have hchanged := hflush.logChangeFile hfull
      have hagain := hchanged.fflush
      simp only [List.append_nil] at hagain
      refine ⟨_, _, _, hagain.print call.record, ?_⟩
      refine .closed ?_ (Int.zero_add _)
      rw [List.length_append, ← h.buffer, h.size]
      rfl
    · rw [if_neg hfull]
      exact ⟨_, _, _, hflush.print call.record, .more (Int.not_le.1 hfull) rfl⟩

/-- A start finds the file in use by its number. -/
theorem Follows.logInit (h : Follows param log ⟨sure, []⟩ seq segments seg) (hfiles : param.files ≤ 5) :
    Follows param (logInit param log.disk) ⟨sure, []⟩ seq segments seg := by
  have hpos := h.rotated.seq_pos
  have hle := h.rotated.seq_le LogParam.files_pos
  have hatoi : atoi (decimalInt seq) = seq := atoi_decimalInt (by omega) (by omega)
  have hlen : (decimalInt seq).length ≤ 11 := length_decimalInt_le (by omega)
  have hne : decimalInt seq ≠ [] := fun hnil => by
    rw [hnil] at hatoi
    have hzero : atoi [] = 0 := by decide
    omega
  have hget : logGetSeqID param ⟨1, 0, [], log.disk⟩ = (false, ⟨seq, 0, [], log.disk⟩) := by
    obtain ⟨b, text, htext⟩ := List.exists_cons_of_ne_nil hne
    have hid := h.id
    rw [htext] at hid hatoi hlen
    have htake : (b :: text).take 63 = b :: text := List.take_of_length_le (by omega)
    simp only [logGetSeqID, hid, htake, hatoi]
  have hcurrent := h.current
  have hinit : DebugLog.logInit param log.disk =
      { DebugLog.putFile param ⟨seq, seg.length, [], log.disk⟩ [] with iSize := (seg ++ []).length } := by
    rw [DebugLog.logInit, hget]
    simp only [Bool.false_eq_true, if_false, logGetFSize, fopen, DebugLog.putFile, hcurrent, Option.getD_some,
      List.append_nil]
  have hopen : Follows param ⟨seq, seg.length, [], log.disk⟩ ⟨sure, []⟩ seq segments seg :=
    ⟨h.rotated, rfl, h.text, rfl, by simp, h.id, h.full⟩
  have hput := hopen.putFile []
  simp only [List.append_nil] at hput hinit ⊢
  rw [hinit]
  exact hput

theorem Follows.step (h : Follows param log journal seq segments seg) (hflash : param.iDirect = .flash)
    (hfiles : param.files ≤ 5) (event : LogEvent) :
    ∃ seq' segments' seg', Follows param (log.step param event) (journal.step param event)
      seq' segments' seg' ∧ Grows param log (log.step param event) segments event segments' := by
  cases event with
  | log call => exact h.writeLog hflash call
  | restart cut =>
      have hput := h.putFile (log.buffer.take cut)
      have hinit := hput.logInit hfiles
      rw [h.buffer] at hinit
      rw [LogFile.step, Journal.step, h.buffer]
      refine ⟨seq, segments, seg ++ journal.last.take cut, hinit, .less ?_⟩
      have htake := List.length_take_le' cut journal.last
      rw [hinit.size, hinit.buffer, h.size, h.buffer, List.length_append, List.length_nil]
      omega

/-- The first start, in an empty directory. -/
theorem follows_init : Follows param (logInit param fun _ => none) ⟨[], []⟩ 1 [] [] := by
  have hne : ∀ s : ℤ, idName param ≠ logName param s := fun s => (logName_ne_idName s).symm
  have hinit : logInit param (fun _ => none) =
      ⟨1, 0, [], Function.update (Function.update (fun _ => none) (idName param) (some (decimalInt 1)))
        (logName param 1) (some [])⟩ := by
    simp only [logInit, logGetSeqID, if_true, logSetSeqID, logGetFSize, fopen, DebugLog.putFile,
      Function.update_of_ne (logName_ne_idName _), Option.getD_none, List.append_nil, List.length_nil]
    rfl
  rw [hinit]
  refine {
    rotated := rotated_start fun s => ?_
    seq_eq := rfl
    text := rfl
    buffer := rfl
    size := rfl
    id := ?_
    full := fun _ h => nomatch h }
  · by_cases hs : s = 1
    · subst hs
      exact Function.update_self _ _ _
    · have hname : logName param s ≠ logName param 1 := fun h => hs (logName_injective h)
      dsimp only
      rw [if_neg hs, Function.update_of_ne hname, Function.update_of_ne (logName_ne_idName _)]
  · dsimp only
    rw [Function.update_of_ne (hne 1), Function.update_self]
    rfl

/-! ## Runs -/

variable {stem : List UInt8} {iMaxFileSize iMaxFileCount : ℤ} {iLevel : ℕ}

theorem files_ofArgs (iDirect : LogDirect) :
    (LogParam.ofArgs stem iMaxFileSize iMaxFileCount iLevel iDirect).files ≤ 5 := by
  unfold LogParam.files LogParam.ofArgs MAX_FILE_CNT
  dsimp only
  split_ifs <;> omega

/-- No record is longer than `limit` lets it be. -/
def LogEvent.Short (param : LogParam) (limit : ℤ) : LogEvent → Prop
  | .log call => call.record.length < limit ∧ param.iMaxFileSize + call.record.length ≤ limit
  | .restart _ => True

/-- After every run, and by how much the files can have grown. -/
theorem run_follows (hflash : param.iDirect = .flash) (hfiles : param.files ≤ 5) (events : List LogEvent) :
    ∃ seq segments seg, Follows param (runLog param events) (runJournal param events) seq segments seg ∧
      ∀ limit, 0 < limit → (∀ event ∈ events, event.Short param limit) →
        (runLog param events).iSize < limit ∧ ∀ closed ∈ segments, (closed.length : ℤ) < limit := by
  induction events using List.reverseRecOn with
  | nil =>
      refine ⟨1, [], [], follows_init, fun limit hlimit _ => ⟨?_, fun _ h => nomatch h⟩⟩
      have hinit : Follows param _ _ _ _ _ := follows_init
      have hsize := hinit.size
      rw [hinit.buffer] at hsize
      exact hsize ▸ hlimit
  | append_singleton events event ih =>
      obtain ⟨seq, segments, seg, h, hsmall⟩ := ih
      obtain ⟨seq', segments', seg', h', hgrows⟩ := h.step hflash hfiles event
      simp only [runLog, runJournal, List.foldl_append, List.foldl_cons, List.foldl_nil]
      refine ⟨seq', segments', seg', h', fun limit hlimit hshort => ?_⟩
      obtain ⟨hsize, hclosed⟩ := hsmall limit hlimit fun e he => hshort e (List.mem_append_left _ he)
      have hevent := hshort event (List.mem_append_right _ List.mem_cons_self)
      rw [runLog] at hsize hgrows
      cases hgrows with
      | less hless => exact ⟨Int.lt_of_le_of_lt hless hsize, hclosed⟩
      | more hmore heq =>
          obtain ⟨-, hfits⟩ := hevent
          exact ⟨by omega, hclosed⟩
      | closed hlen heq =>
          obtain ⟨hrecord, -⟩ := hevent
          refine ⟨by omega, fun c hc => ?_⟩
          rcases List.mem_append.1 hc with hold | hnew
          · exact hclosed c hold
          · rw [List.mem_singleton.1 hnew, hlen]
            exact hsize

/-- What is in the files, the oldest first. -/
def LogFile.kept (param : LogParam) (log : LogFile) : List (List UInt8) :=
  keptSegments param.files (fun s : ℕ => logName param s) log.disk log.iSeq.toNat

theorem Follows.kept_eq (h : Follows param log journal seq segments seg) :
    log.kept param = (segments ++ [seg]).drop ((segments ++ [seg]).length - param.files) := by
  rw [LogFile.kept, h.seq_eq, Int.toNat_natCast, h.rotated.keptSegments_eq LogParam.files_pos]

end SmartPlat.DebugLog
