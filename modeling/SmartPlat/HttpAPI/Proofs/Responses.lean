import SmartPlat.HttpAPI.HttpPares
import SmartPlat.HttpAPI.Message
import SmartPlat.Lib.Blocks

set_option autoImplicit false

/-! # What `ParesHttpMsg` answers

The head of a response, with the length of the text behind it, is a well-formed one whatever the text
is. What decides is room: in the arrays for the fields of the request, in `buff` for the text and in
`out` for the head and the text. -/

namespace SmartPlat.HttpAPI

open SmartPlat.Lib SmartPlat.JsonAPI

variable {server : JsonServer} {t : Tm} {msg : List UInt8} {size : ℕ}

/-! ## The head of the request -/

/-- The values that `GetHttpRequstHead` copies fit into their arrays. -/
structure HeadFits (msg : List UInt8) : Prop where
  url : ∀ pHead, strstr (ascii " ") msg = some pHead →
    (usrGetvalueBtweenpoint (pHead.drop 1)).length ≤ 128
  host : ∀ pHead, strstr (ascii "Host:") msg = some pHead →
    (usrGetvalueBtweenpoint (pHead.drop 6)).length ≤ 64
  contentLength : ∀ ps, strstr upperName msg = some ps →
    (usrGetvalueBtweenpoint (ps.drop 16)).length < 16 ∨
      (usrGetvalueBtweenpoint (ps.drop 16)).length = 16 ∧
        behindNumber (usrGetvalueBtweenpoint (ps.drop 16)) ≠ []
  boundary : ∀ pHead, strstr (ascii "boundary=") msg = some pHead →
    (usrGetvalueBtweenpoint (pHead.drop 10)).length ≤ 256

theorem ends_getValueInto {text : List UInt8} {P : CString → Prop} :
    Ends (getValueInto size text) P ↔
      (usrGetvalueBtweenpoint text).length ≤ size ∧ P (.ofBuffer (usrGetvalueBtweenpoint text)) := by
  rw [getValueInto, ends_ite]
  split
  · next h => rw [ends_ok, and_iff_right h]
  · next h => exact iff_of_false not_ends_error fun hfits => h hfits.1

theorem ends_getNamedValue {name str : List UInt8} {P : Prop} :
    (Ends (getNamedValue size name str) fun _ => P) ↔ (∀ pHead, strstr name str = some pHead →
      (usrGetvalueBtweenpoint (pHead.drop (name.length + 1))).length ≤ size) ∧ P := by
  unfold getNamedValue
  cases strstr name str with
  | none => simp
  | some pHead => simp [ends_getValueInto]

theorem ends_getHttpUrl {P : Prop} : (Ends (getHttpUrl msg) fun _ => P) ↔
    (∀ pHead, strstr (ascii " ") msg = some pHead →
      (usrGetvalueBtweenpoint (pHead.drop 1)).length ≤ 128) ∧ P := by
  unfold getHttpUrl
  cases strstr (ascii " ") msg with
  | none => simp
  | some pHead => simp only [ends_getValueInto, Option.some.injEq, forall_eq']

theorem ends_getHttpContentLenth {P : Prop} : (Ends (getHttpContentLenth msg) fun _ => P) ↔
    (∀ ps, strstr upperName msg = some ps →
      (usrGetvalueBtweenpoint (ps.drop 16)).length < 16 ∨
        (usrGetvalueBtweenpoint (ps.drop 16)).length = 16 ∧
          behindNumber (usrGetvalueBtweenpoint (ps.drop 16)) ≠ []) ∧ P := by
  unfold getHttpContentLenth
  cases strstr upperName msg with
  | none => simp
  | some ps =>
      simp only [ends_ite, Option.some.injEq, forall_eq']
      split
      · next h =>
          refine iff_of_false not_ends_error fun hfits => ?_
          rcases h with h | h
          · omega
          · rcases hfits.1 with hfits | hfits
            · omega
            · exact hfits.2 h.2
      · next h =>
          rw [ends_ok, and_iff_right]
          rw [not_or, not_and] at h
          rcases Nat.lt_or_eq_of_le (Nat.not_lt.1 h.1) with hlt | heq
          · exact .inl hlt
          · exact .inr ⟨heq, h.2 heq⟩

theorem ends_getHttpRequstHead {P : Prop} :
    (Ends (getHttpRequstHead msg) fun _ => P) ↔ HeadFits msg ∧ P := by
  have hmethod : (usrGetvalueBtweenpoint (msg.take 5)).length ≤ 8 := by
    have h := (List.takeWhile_sublist fun b => !isGap b).length_le
      |>.trans (List.dropWhile_sublist (l := msg.take 5) isGap).length_le
    rw [List.length_take] at h
    rw [usrGetvalueBtweenpoint]
    omega
  rw [getHttpRequstHead]
  simp only [ends_bind, ends_pure, ends_exceptMap, getHttpHost, getHttpBoundary, ends_getValueInto,
    hmethod, true_and, ends_getHttpUrl, ends_getNamedValue, ends_getHttpContentLenth]
  constructor
  · rintro ⟨hurl, hhost, hlength, hboundary, hP⟩
    exact ⟨⟨hurl, hhost, hlength, hboundary⟩, hP⟩
  · rintro ⟨h, hP⟩
    exact ⟨h.url, h.host, h.contentLength, h.boundary, hP⟩

/-! ## The date -/

/-- The bytes of a line of a response. -/
def Printable (s : List UInt8) : Prop := ∀ b ∈ s, 32 ≤ b ∧ b ≤ 126

instance (s : List UInt8) : Decidable (Printable s) :=
  List.decidableBAll (fun b => 32 ≤ b ∧ b ≤ 126) s

@[simp]
theorem printable_append {s s' : List UInt8} : Printable (s ++ s') ↔ Printable s ∧ Printable s' :=
  List.forall_mem_append

theorem printable_of_numberByte {s : List UInt8} (h : ∀ b ∈ s, NumberByte b) : Printable s := by
  intro b hb
  rcases h b hb with rfl | ⟨hge, hle⟩
  · decide
  · exact ⟨UInt8.le_trans (by decide : (32 : UInt8) ≤ 48) hge,
      UInt8.le_trans hle (by decide : (57 : UInt8) ≤ 126)⟩

@[simp]
theorem printable_decimal (n : ℕ) : Printable (decimal n) :=
  printable_of_numberByte fun _ => numberByte_decimal

@[simp]
theorem printable_decimalInt (n : ℤ) : Printable (decimalInt n) :=
  printable_of_numberByte fun _ => numberByte_decimalInt

@[simp]
theorem printable_zeroPadded (width : ℕ) (n : ℤ) : Printable (zeroPadded width n) :=
  printable_of_numberByte fun _ => numberByte_zeroPadded

theorem dateText_eq (t : Tm) : dateText t =
    ascii (wday t.tmWday) ++ (ascii ", " ++ (zeroPadded 2 (t.tmMday : ℕ) ++ (ascii " " ++
      (ascii (wMouth t.tmMon) ++ (ascii " " ++ (decimalInt (t.tmYear + 1900) ++ (ascii " " ++
        (zeroPadded 2 (t.tmHour : ℕ) ++ (ascii ":" ++ (zeroPadded 2 (t.tmMin : ℕ) ++ (ascii ":" ++
          (zeroPadded 2 (t.tmSec : ℕ) ++ ascii " GMT")))))))))))) := rfl

theorem printable_dateText (t : Tm) : Printable (dateText t) := by
  have hwday : ∀ i, Printable (ascii (wday i)) := by decide
  have hmon : ∀ i, Printable (ascii (wMouth i)) := by decide
  rw [dateText_eq]
  simp only [printable_append, hwday, hmon, printable_zeroPadded, printable_decimalInt, true_and]
  decide

theorem length_dateText (t : Tm) :
    (dateText t).length = 25 + (decimalInt (t.tmYear + 1900)).length := by
  have hwday : ∀ i, (ascii (wday i)).length = 3 := by decide
  have hmon : ∀ i, (ascii (wMouth i)).length = 3 := by decide
  have hmday : ∀ i : Fin 32, (zeroPadded 2 (i : ℕ)).length = 2 := by decide
  have hhour : ∀ i : Fin 24, (zeroPadded 2 (i : ℕ)).length = 2 := by decide
  have hmin : ∀ i : Fin 60, (zeroPadded 2 (i : ℕ)).length = 2 := by decide
  have hsec : ∀ i : Fin 61, (zeroPadded 2 (i : ℕ)).length = 2 := by decide
  rw [dateText_eq]
  simp only [List.length_append, hwday, hmon, hmday, hhour, hmin, hsec]
  change 3 + (2 + (2 + (1 + (3 + (1 + (_ + (1 + (2 + (1 + (2 + (1 + (2 + 4)))))))))))) = _
  omega

/-- The date always fits into `date[64]`. -/
theorem getUTCTime_eq (t : Tm) :
    ∃ date, getUTCTime t = .ok date ∧ date.str.bytes = dateText t := by
  have hyear : (decimalInt (t.tmYear + 1900)).length ≤ 11 :=
    length_decimalInt_le (t.isInt.trans_lt (by decide))
  have hbytes : (CString.ofBuffer (dateText t)).bytes = dateText t :=
    CString.bytes_ofBuffer fun h => absurd (printable_dateText t 0 h).1 (by decide)
  have hfits : (CString.ofBuffer (dateText t)).strlen ≤ 63 := by
    rw [CString.strlen, hbytes, length_dateText]
    omega
  exact ⟨⟨_, hfits⟩, dif_pos hfits, hbytes⟩

/-! ## The head of the response -/

/-- A field whose value stands behind a blank. -/
def respField (name : String) (value : List UInt8)
    (isName : ascii name ≠ [] ∧ ∀ b ∈ ascii name, isTchar b = true) (isValue : Printable value) :
    HeaderField where
  name := ascii name
  value := 32 :: value
  isName := isName
  isValue := by
    intro b hb
    rcases List.mem_cons.1 hb with rfl | hb
    · decide
    · refine .inr ⟨(isValue b hb).1, ?_⟩
      rintro rfl
      exact absurd (isValue 127 hb).2 (by decide)

def contentLengthField (n : ℕ) : HeaderField :=
  respField "Content-Length" (decimal n) isName_contentLength (printable_decimal n)

def respFields (t : Tm) (n : ℕ) : List HeaderField :=
  [respField "Server" httpmsgServer (by decide +kernel) (by decide),
    respField "Date" (dateText t) (by decide +kernel) (printable_dateText t),
    respField "Content-Type" (ascii "application/json; charset=utf-8;") (by decide +kernel)
      (by decide),
    contentLengthField n,
    respField "Connection" (ascii "close") (by decide +kernel) (by decide)]

theorem isNumber_contentLength (n : ℕ) : IsNumber (contentLengthField n).value n := by
  refine ⟨[32], decimal n, [], (List.append_nil _).symm, by decide +kernel, ?_,
    fun b hb => digit_of_mem_decimal hb, (foldl_decimal n).symm⟩
  unfold decimal
  split
  · exact List.cons_ne_nil _ _
  · next h =>
      rw [ne_eq, List.map_eq_nil_iff, List.reverse_eq_nil_iff, Nat.digits_eq_nil_iff_eq_zero]
      exact h

theorem isContentLength_respField {name : String} {value : List UInt8} {isName isValue} :
    (respField name value isName isValue).isContentLength =
      strcasecmp (ascii name) (ascii "Content-Length") := rfl

theorem filter_respFields (t : Tm) (n : ℕ) :
    ((respFields t n).filter fun f => f.isContentLength) = [contentLengthField n] := by
  have hlength : strcasecmp (ascii "Content-Length") (ascii "Content-Length") = true := by decide
  have hothers : ∀ name ∈ ["Server", "Date", "Content-Type", "Connection"],
      strcasecmp (ascii name) (ascii "Content-Length") = false := by decide
  simp only [List.forall_mem_cons] at hothers
  simp [respFields, contentLengthField, isContentLength_respField, hlength, hothers]

theorem respHead_pieces (name : String) (status : ℕ) (t : Tm) (n : ℕ) :
    respHead (name, status) (dateText t) n =
      ascii "HTTP/1.1 " ++ (decimal status ++ (ascii " " ++ (ascii name ++ (ascii "\r\nServer: " ++
        (httpmsgServer ++ (ascii "\r\nDate: " ++ (dateText t ++
          (ascii "\r\nContent-Type: application/json; charset=utf-8;\r\nContent-Length: " ++
            (decimal n ++ ascii "\r\nConnection: close\r\n\r\n"))))))))) := by
  have hfmt : "HTTP/1.1 %d %s\r\nServer: %s\r\nDate: %s\r\nContent-Type: application/json; charset=utf-8;\r\nContent-Length: %d\r\nConnection: close\r\n\r\n" =
      "HTTP/1.1 " ++ ("%d" ++ (" " ++ ("%s" ++ ("\r\nServer: " ++ ("%s" ++ ("\r\nDate: " ++ ("%s" ++
        ("\r\nContent-Type: application/json; charset=utf-8;\r\nContent-Length: " ++
          ("%d" ++ ("\r\nConnection: close\r\n\r\n" ++ "")))))))))) := by
    decide +kernel
  rw [respHead, hfmt]
  simp (disch := apply notMem_ascii; decide) only [ascii_append, printf_append, printf_str, printf_int]
  rw [show ascii "" = [] from rfl, printf, List.append_nil]
  rfl

theorem respHead_eq (name : String) (status : ℕ) (t : Tm) (n : ℕ) :
    respHead (name, status) (dateText t) n =
      joinLines ((ascii "HTTP/1.1 " ++ decimal status ++ 32 :: ascii name) ::
        (respFields t n).map HeaderField.line) := by
  rw [respHead_pieces]
  simp only [respFields, List.map_cons, List.map_nil, joinLines, List.append_assoc, HeaderField.line,
    List.cons_append]
  rfl

/-- The name and the number of `respCode iret`. -/
def respName (iret : ℤ) : String × ℕ :=
  if iret = keyTrue then ("OK", 200)
  else if iret = 401 then ("Unauthorized", 401)
  else if iret = 403 then ("Forbidden", 403)
  else if iret = 404 then ("Not Found", 404)
  else ("Bad Request", 400)

theorem find_respCode (iret : ℤ) : (httpCodes.find? fun name => respCode iret = name.2) =
    some ((respName iret).1, ((respName iret).2 : ℤ)) := by
  unfold respCode respName
  split_ifs <;> rfl

theorem respName_ok (iret : ℤ) : (100 ≤ (respName iret).2 ∧ (respName iret).2 < 600) ∧
    (decimal (respName iret).2).length = 3 ∧ Printable (ascii (respName iret).1) := by
  unfold respName
  split_ifs <;> decide

/-- The response with that text for a body. -/
def respOf (iret : ℤ) (t : Tm) (text : List UInt8) : Response where
  status := (respName iret).2
  reason := ascii (respName iret).1
  fields := respFields t text.length
  body := text
  isStatus := (respName_ok iret).1
  isReason := (respName_ok iret).2.2
  isBody := ⟨_, filter_respFields t text.length, isNumber_contentLength text.length⟩

theorem bytes_respOf (iret : ℤ) (t : Tm) (text : List UInt8) : (respOf iret t text).bytes =
    respHead ((respName iret).1, ((respName iret).2 : ℤ)) (dateText t) text.length ++ text := by
  rw [respHead_eq]
  rfl

/-- How long a response is, with a text of `n` bytes. -/
def respSize (iret : ℤ) (t : Tm) (n : ℕ) : ℕ :=
  155 + (ascii (respName iret).1).length + (decimalInt (t.tmYear + 1900)).length +
    (decimal n).length + n

theorem length_respHead (iret : ℤ) (t : Tm) (n : ℕ) :
    (respHead ((respName iret).1, ((respName iret).2 : ℤ)) (dateText t) n).length + n =
      respSize iret t n := by
  have hstatus := (respName_ok iret).2.1
  have hdate := length_dateText t
  rw [respHead_pieces, respSize]
  simp [httpmsgServer, length_ascii, hstatus, hdate]
  omega

theorem zero_notMem_respHead (iret : ℤ) (t : Tm) (n : ℕ) :
    0 ∉ respHead ((respName iret).1, ((respName iret).2 : ℤ)) (dateText t) n := by
  have hstart : Printable (ascii "HTTP/1.1 " ++ decimal (respName iret).2 ++
      32 :: ascii (respName iret).1) := by
    have hname := (respName_ok iret).2.2
    rw [← List.singleton_append, printable_append, printable_append, printable_append]
    exact ⟨⟨by decide, printable_decimal _⟩, by decide, hname⟩
  rw [respHead_eq]
  refine notMem_joinLines fun line hline => ?_
  rcases List.mem_cons.1 hline with rfl | hline
  · refine ⟨List.append_ne_nil_of_right_ne_nil _ (List.cons_ne_nil _ _), fun b hb => ?_⟩
    have hb := (hstart b hb).1
    refine ⟨?_, ?_, ?_⟩ <;> rintro rfl <;> exact absurd hb (by decide)
  · obtain ⟨f, -, rfl⟩ := List.mem_map.1 hline
    exact f.isLine

/-! ## Room -/

theorem ends_groupRespHttpMsg {iret : ℤ} {buff : CString} {P : ℤ × CString → Prop} :
    Ends (groupRespHttpMsg t (respCode iret) buff buff.strlen size) P ↔
      respSize iret t buff.strlen < size ∧
        P (keyTrue, .ofBuffer (respOf iret t buff.bytes).bytes) := by
  obtain ⟨date, hdate, hbytes⟩ := getUTCTime_eq t
  have hlen := length_respHead iret t buff.strlen
  rw [groupRespHttpMsg, if_neg (by omega), hdate, Except.bind]
  simp only [find_respCode, hbytes, bytes_respOf]
  -- the head without its terminator, and the text behind it
  split
  · next h => exact iff_of_false not_ends_error fun hfits => by omega
  · split
    · next h => exact iff_of_false not_ends_error fun hfits => by omega
    · next h =>
        rw [ends_ok, and_iff_right (by omega)]
        rfl

/-- What `JsonSwitch` makes of the body of the request, if there is one. -/
def switchResult (server : JsonServer) (msg : List UInt8) : ℤ × Option CJsonItem :=
  match strstr (crlf ++ crlf) msg with
  | none => (keyFalse, none)
  | some bodyMsg => if bodyMsg.drop 4 = [] then (keyFalse, none) else server.respData (bodyMsg.drop 4)

/-- The complete printed text of the item, and nothing if none is printed. -/
def jsonText (item : Option CJsonItem) : CString :=
  (item.map CJsonItem.printUnformatted).getD (.ofBuffer [])

theorem ends_switchBody {P : ℤ × CString → Prop} : Ends (switchBody server msg) P ↔
    (jsonText (switchResult server msg).2).strlen < httpmsgMaxlen ∧
      P ((switchResult server msg).1, jsonText (switchResult server msg).2) := by
  have hempty : ((CString.ofBuffer []).strlen : ℕ) < httpmsgMaxlen := by decide
  unfold switchBody switchResult
  cases strstr (crlf ++ crlf) msg with
  | none => exact ends_ok.trans (and_iff_right hempty).symm
  | some bodyMsg =>
      by_cases hnil : bodyMsg.drop 4 = []
      · simp only [if_pos hnil]
        exact ends_ok.trans (and_iff_right hempty).symm
      · simp only [if_neg hnil, JsonServer.jsonSwitch]
        rcases server.respData (bodyMsg.drop 4) with ⟨iret, _ | item⟩
        · exact ends_ok.trans (and_iff_right hempty).symm
        · rw [ends_exceptMap, jsonPrintUnformatted, ends_ite]
          split
          · next h => exact ends_ok.trans (and_iff_right h).symm
          · next h => exact iff_of_false not_ends_error fun hfits => h hfits.1

/-- When `ParesHttpMsg` comes to an end, and with which response. -/
theorem ends_paresHttpMsg {msg : CString} {P : ℤ × CString → Prop} :
    Ends (paresHttpMsg server t msg) P ↔ HeadFits msg.bytes ∧
      respSize (switchResult server msg.bytes).1 t (jsonText (switchResult server msg.bytes).2).strlen
        < httpmsgMaxlen ∧
      P ((switchResult server msg.bytes).1, .ofBuffer (respOf (switchResult server msg.bytes).1 t
        (jsonText (switchResult server msg.bytes).2).bytes).bytes) := by
  rw [paresHttpMsg, ends_bind, ends_getHttpRequstHead, ends_bind, ends_switchBody, ends_bind,
    ends_groupRespHttpMsg, ends_pure]
  refine and_congr_right fun _ => and_iff_right_of_imp fun h => ?_
  have hsize := h.1
  rw [respSize] at hsize
  omega

/-- The answer is one well-formed response, and its body is the whole text that `JsonSwitch` prints;
    nothing is written behind an array. -/
def RespondsFully (server : JsonServer) (t : Tm) (msg : CString) : Prop :=
  Ends (paresHttpMsg server t msg) fun r => ∃ resp : Response, r.2.bytes = resp.bytes ∧
    resp.body = (jsonText (switchResult server msg.bytes).2).bytes

/-- **The answer is complete exactly when there is room**: for the fields of the request, and for the
    head of the response with the text. -/
theorem paresHttpMsg_iff (server : JsonServer) (t : Tm) (msg : CString) :
    RespondsFully server t msg ↔ HeadFits msg.bytes ∧
      respSize (switchResult server msg.bytes).1 t
        (jsonText (switchResult server msg.bytes).2).strlen < httpmsgMaxlen := by
  rw [RespondsFully, ends_paresHttpMsg, ← and_assoc]
  refine and_iff_left ⟨respOf _ t _, CString.bytes_ofBuffer ?_, rfl⟩
  rw [bytes_respOf, List.mem_append, not_or]
  exact ⟨zero_notMem_respHead _ t _, (jsonText _).noNul⟩

/-! ## A list that is too long -/

/-- An element of `devicelist`. -/
def cameraItem : CJsonItem :=
  .object [(constant "deviceid", .string (constant "cam")), (constant "devicename", .string (constant "gate")),
    (constant "devicesoftwarever", .string (constant "1.0")),
    (constant "deviceipaddr", .string (constant "10.0.0.5")), (constant "devicestatus", .number 1)]

def camerasData : CString × CJsonItem :=
  (constant "data", .object [(constant "devicelist", .array (List.replicate 100 cameraItem))])

/-- A server with 100 cameras, asked for them. -/
def camerasServer : JsonServer where
  parse _ := some (.item none 0
    [(some (constant "cmd"), .item (some (constant "getdeviceinfolist")) 0 []),
      (some (constant "sessionid"), .item (some (constant "1001")) 0 [])])
  hasHandle n := n = 1001
  command _ _ := (keyTrue, [camerasData])

def camerasRequest : CString :=
  .ofBuffer (ascii "POST /adpapi HTTP/1.1\r\nHost: a\r\n\r\n\x7b\"cmd\":\"getdeviceinfolist\",\"sessionid\":\"1001\"\x7d")

def noon : Tm := ⟨0, 0, 12, 6, 7, 119, 2, by decide⟩

theorem switchResult_cameras : ∃ head, switchResult camerasServer camerasRequest.bytes =
    (keyTrue, some (JsonServer.withStatuscode (makeJsonMsg head ++ [camerasData]) 200)) := ⟨_, rfl⟩

/-- The list alone is longer than `buff`. -/
theorem cameras_missing : ¬ RespondsFully camerasServer noon camerasRequest := by
  intro h
  obtain ⟨head, hresult⟩ := switchResult_cameras
  have hcamera : 103 ≤ cameraItem.printValue.length := by decide
  have hlist := CJsonItem.length_array_replicate 100 cameraItem
  have hdata : _ ≤ camerasData.2.printValue.length :=
    CJsonItem.length_le_object (List.mem_singleton_self (constant "devicelist", _))
  have hmembers : camerasData ∈
      makeJsonMsg head ++ [camerasData] ++ [(constant "statuscode", .number 200)] :=
    List.mem_append_left _ (List.mem_append_right _ List.mem_cons_self)
  have htext : camerasData.2.printValue.length ≤ _ := CJsonItem.length_le_object hmembers
  -- a hundred cameras of 103 bytes are more than the 10 KiB of the response
  have hroom := (ends_paresHttpMsg.1 h).2.1
  rw [hresult, respSize] at hroom
  change _ + (CJsonItem.object _).printValue.length < 10240 at hroom
  omega

end SmartPlat.HttpAPI
