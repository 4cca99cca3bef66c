import SmartPlat.CJsonPrint
import SmartPlat.Lib.FirstMatch

set_option autoImplicit false

/-! # The configuration store (`ExtLibs/Config/configmanage.c`)

The configuration is one JSON object in memory, which every change writes to a file. The parser is a
parameter: `parse` takes a buffer, and is an error when it reads past its end. -/

namespace SmartPlat.Config

open SmartPlat.Lib

/-- `KEY_NOTFOUNDCONF` -/
def keyNotfoundconf : ℤ := -2

/-- `D_CONFPATH_LEN` -/
def dConfpathLen : ℕ := 1024 * 1 * 1024

/-- The members of an object. -/
abbrev Members := List (CString × CJsonItem)

/-- The text of an object. -/
def textOf (root : Members) : List UInt8 := (CJsonItem.object root).printValue

/-! ## Loading -/

/-- `int outLen = ftell(fp)`, where a `long` has 64 bits. -/
def outLen (size : ℕ) : ℤ := Int.bmod size (2 ^ 32)

/-- `LoadConfig` of a file, if there is one, into `char confBuf[D_CONFPATH_LEN]`, which is zeroed: the
    result and the buffer. A negative length is a huge one for `fread`. -/
def loadConfig (file : Option (List UInt8)) : Except Fault (ℤ × List UInt8) :=
  match file with
  | none => .ok (-1, List.replicate dConfpathLen 0)
  | some text =>
      let read := if outLen text.length < 0 then text else text.take (outLen text.length).toNat
      if read.length ≤ dConfpathLen then
        .ok (outLen text.length, read ++ List.replicate (dConfpathLen - read.length) 0)
      else .error .badAccess

variable (parse : List UInt8 → Except Fault (Option CJsonItem))

/-- `ConfigManageInit`: the result and the members of the root. A file that is there was written by the
    server, so that what is parsed is an object. -/
def configManageInit (file : Option (List UInt8)) : Except Fault (ℤ × Members) :=
  (loadConfig file).bind fun (confLen, confBuf) =>
    if confLen > 0 then
      (parse confBuf).map fun
        | some (.object root) => (keyTrue, root)
        | _ => (keyNotfoundconf, [])
    else .ok (keyNotfoundconf, [])

/-! ## Reading and changing -/

/-- Names that `cJSON_strcasecmp` does not tell apart have one key. -/
def nameKey (name : CString) : List UInt8 := name.bytes.map tolower

/-- `cJSON_GetObjectItem(root, confName)` -/
def findConf (root : Members) (confName : CString) : Option CJsonItem :=
  (lookup (fun c => nameKey c.1) (nameKey confName) root).map Prod.snd

/-- `ConfigManageGet`: a copy, by its text. -/
def configManageGet (root : Members) (confName : CString) : Except Fault (Option CJsonItem) :=
  match findConf root confName with
  | none => .ok none
  | some tmp => parse (tmp.printValue ++ [0])

/-- `cJSON_DeleteItemFromObject` and `cJSON_AddItemToObject` -/
def setConf (root : Members) (confName : CString) (conf : CJsonItem) : Members :=
  eraseFirst (fun c => nameKey c.1) (nameKey confName) root ++ [(confName, conf)]

/-- How far `WirteConf` gets. -/
inductive Save where
  | complete
  /-- `fopen` fails. -/
  | openFails
  /-- `fwrite` writes the first bytes only; neither its result nor that of `fclose` is looked at. -/
  | shortWrite (n : ℕ)
  /-- The process stops before `fopen`, which truncates the file. -/
  | stopsBefore
  /-- The process stops when the file has the first bytes. -/
  | stopsAfter (n : ℕ)
  deriving DecidableEq

/-- How many bytes of a text of this length are in the file; `none` for a file that was not touched. -/
def Save.size (length : ℕ) : Save → Option ℕ
  | complete => some length
  | openFails | stopsBefore => none
  | shortWrite n | stopsAfter n => some (min n length)

/-- The server goes on. If `fopen` fails, `WirteConf` is `-1`, and `assert(0)` ends it. -/
def Save.goesOn : Save → Bool
  | complete | shortWrite _ => true
  | openFails | stopsBefore | stopsAfter _ => false

/-- `GetConfHandle()->root`, `./conf.config`, and whether the server runs. -/
structure Conf where
  root : Members
  file : Option (List UInt8)
  running : Bool

/-- `ConfigManageSet` of an item, and what becomes of it. -/
structure SetCall where
  confName : CString
  conf : CJsonItem
  save : Save

/-- The file after `WirteConf`. -/
def wirteConf (root : Members) (save : Save) (file : Option (List UInt8)) : Option (List UInt8) :=
  match save.size (textOf root).length with
  | none => file
  | some n => some ((textOf root).take n)

/-- `ConfigManageSet`; it returns `KEY_TRUE` if it returns. -/
def configManageSet (s : Conf) (c : SetCall) : Conf where
  root := setConf s.root c.confName c.conf
  file := wirteConf (setConf s.root c.confName c.conf) c.save s.file
  running := c.save.goesOn

/-- A call while the server runs. -/
def setStep (s : Conf) (c : SetCall) (s' : Conf) : Prop := s.running = true ∧ s' = configManageSet s c

end SmartPlat.Config
