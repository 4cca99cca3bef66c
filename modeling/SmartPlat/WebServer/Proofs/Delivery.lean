import SmartPlat.WebServer.Links

set_option autoImplicit false

/-! # What is pushed to whom

No message of a browser reaches the list of subscribers, so the list is empty in every run, and a push
is right exactly when nobody waits for it. -/

namespace SmartPlat.WebServer

open SmartPlat.Lib

variable {parse : List UInt8 → Option CJson} {s s' : InnerWebServerHandle} {e : WebEvent}

/-! ## Subscriptions -/

/-- The latest subscription of each socket that is open. -/
abbrev Subscriptions : Type := ℤ → Option (CString × ℤ)

/-- The recorder and the channel that a JSON text names. -/
def namedIn (json : CJson) : Option (CString × ℤ) :=
  (json.getObjectItemValueString 63 (ascii "SerialNumber")).bind fun serialNumber =>
    (json.getObjectItem (ascii "channel")).map fun channel => (serialNumber.str, channel.valueint)

/-- The recorder and the channel that a message subscribes to. -/
def subscriptionIn (parse : List UInt8 → Option CJson) (recvmsg : List UInt8) (recvLen : ℤ) :
    Option (CString × ℤ) :=
  match readMessage recvmsg recvLen with
  | .ok (some payload) => (parse (CString.ofBuffer payload).bytes).bind namedIn
  | _ => none

/-- What an event means for the subscriptions, whatever the server does. -/
def subscribe (parse : List UInt8 → Option CJson) (subs : Subscriptions)
    (_ : InnerWebServerHandle) : WebEvent → Subscriptions
  | .accept socket => Function.update subs socket none
  | .requst socket recvmsg recvLen =>
      match subscriptionIn parse recvmsg recvLen with
      | some pair => Function.update subs socket (some pair)
      | none => subs
  | .send _ _ _ _ => subs
  | .close socket => Function.update subs socket none

/-- The server and the subscriptions that have been asked for. -/
def subscribedStep (parse : List UInt8 → Option CJson) :
    InnerWebServerHandle × Subscriptions → WebEvent → InnerWebServerHandle × Subscriptions → Prop :=
  stepWith (subscribe parse) (webStep parse)

/-- A push goes to the sockets whose latest subscription it is for, once to each, and afterwards each
    socket has at most one entry in the list. -/
def DeliversAll (x : InnerWebServerHandle × Subscriptions) (e : WebEvent)
    (y : InnerWebServerHandle × Subscriptions) : Prop :=
  (y.1.linkListHead.map LinkInfo.socket).Nodup ∧
    match e with
    | .send _ SerialNumber channel sent =>
        ∀ socket, socket ∈ sent.map Prod.fst ↔ x.2 socket = some (SerialNumber, channel)
    | _ => True

/-- Nobody has subscribed to what is pushed. -/
def Unwatched (x : InnerWebServerHandle × Subscriptions) : WebEvent → Prop
  | .send _ SerialNumber channel _ => ∀ socket, x.2 socket ≠ some (SerialNumber, channel)
  | _ => True

/-! ## The functions on the list

They would keep one entry for each socket. -/

theorem addNodeToLink_nodup {info : LinkInfo} (h : (s.linkListHead.map LinkInfo.socket).Nodup) :
    ((addNodeToLink info s).2.linkListHead.map LinkInfo.socket).Nodup := by
  rw [addNodeToLink]
  split
  · exact h
  · next hnone =>
      have hnew : ∀ link ∈ s.linkListHead, link.socket ≠ info.socket := by
        simpa using List.find?_eq_none.1 hnone
      rw [List.map_append, List.map_singleton, List.nodup_append_comm, List.singleton_append,
        List.nodup_cons]
      refine ⟨fun hmem => ?_, h⟩
      obtain ⟨link, hlink, hsocket⟩ := List.mem_map.1 hmem
      exact hnew link hlink hsocket

theorem delNodeToLink_nodup {info : LinkInfo} (h : (s.linkListHead.map LinkInfo.socket).Nodup) :
    ((delNodeToLink info s).2.linkListHead.map LinkInfo.socket).Nodup := by
  rw [delNodeToLink]
  split
  · exact h
  · exact h.sublist (List.erase_sublist.map _)

/-! ## The list stays empty -/

def NoLinks (s : InnerWebServerHandle) : Prop := s.linkListHead = []

theorem NoLinks.send {sendMsg : List UInt8} {SerialNumber : CString} {channel : ℤ}
    {sent : Option (ℤ × List UInt8)} (h : NoLinks s)
    (hsend : webSocketSend sendMsg SerialNumber channel s = .ok sent) : sent = none := by
  rw [webSocketSend, h] at hsend
  cases hsend
  rfl

theorem NoLinks.step (h : NoLinks s) (hs : webStep parse s e s') : NoLinks s' := by
  cases e with
  | accept socket => exact hs ▸ h
  | requst socket recvmsg recvLen =>
      -- the entry is filled in, but not put into the list
      obtain ⟨info, hinfo⟩ := hs
      obtain ⟨payload, -, heq⟩ := map_eq_ok_iff.1 hinfo
      cases heq
      exact h
  | send sendMsg SerialNumber channel sent => exact hs.2 ▸ h
  | close socket =>
      have hlist : (webHttpClose socket s).linkListHead = [] := by
        rw [webHttpClose, delNodeToLink, h]
        exact h
      exact hs ▸ hlist

/-- **When pushes reach their subscribers.** In a run of any connections, messages, pushes and closes,
    every push goes to exactly the sockets whose latest subscription it is for if and only if nobody
    has subscribed to what is pushed. -/
theorem subscribers_served_iff {tr : List WebEvent} {x : InnerWebServerHandle × Subscriptions} :
    Run (stepThat DeliversAll (subscribedStep parse)) (.init, fun _ => none) tr x ↔
      Run (stepWhen Unwatched (subscribedStep parse)) (.init, fun _ => none) tr x := by
  refine Run.each_iff (fun x : InnerWebServerHandle × Subscriptions => NoLinks x.1)
    (show NoLinks .init from rfl) ?_ ?_
  · rintro x e y hI hcond ⟨hstep, -⟩
    have hI' := hI.step hstep
    refine ⟨hI', ?_, ?_⟩
    · rw [hI']
      exact List.nodup_nil
    · cases e with
      | send sendMsg SerialNumber channel sent =>
          intro socket
          rw [hI.send hstep.1]
          exact iff_of_false (fun h => nomatch h) (hcond socket)
      | _ => trivial
  · rintro x e y hI hcond ⟨hstep, -⟩ ⟨-, hall⟩
    cases e with
    | send sendMsg SerialNumber channel sent =>
        refine hcond fun socket hsub => ?_
        have hsent := (hall socket).2 hsub
        rw [hI.send hstep.1] at hsent
        cases hsent
    | _ => exact hcond trivial

/-- A text that a browser sends, and the parser on this text. -/
def watchText : List UInt8 := ascii "\x7b\"SerialNumber\":\"N1\",\"channel\":33\x7d"

def parseWatch (s : List UInt8) : Option CJson :=
  if s = watchText then
    some (.item none 0 [(some (.ofBuffer (ascii "SerialNumber")),
        .item (some (.ofBuffer (ascii "N1"))) 0 []),
      (some (.ofBuffer (ascii "channel")), .item none 33 [])])
  else none

/-- The text in a masked frame, with a key of zeros, and zeros behind. -/
def watchFrame : List UInt8 := [0x81, 0xA2, 0, 0, 0, 0] ++ watchText ++ [0]

/-- A socket subscribes to a channel, and a frame of that channel is pushed to nobody. -/
theorem subscriber_not_served : ∃ x : InnerWebServerHandle × Subscriptions,
    Run (subscribedStep parseWatch) (.init, fun _ => none)
        [.accept 7, .requst 7 watchFrame 40, .send [1, 2, 3] (.ofBuffer (ascii "N1")) 33 none] x ∧
      x.2 7 = some (.ofBuffer (ascii "N1"), 33) := by
  have hmessage : subscriptionIn parseWatch watchFrame 40 = some (.ofBuffer (ascii "N1"), 33) := by
    decide
  have hpayload : readMessage watchFrame 40 = .ok (some (watchText ++ [0])) := by
    decide
  have haccept : webStep parseWatch .init (.accept 7) .init := rfl
  have hrequst : webStep parseWatch .init (.requst 7 watchFrame 40) .init := by
    refine ⟨some (parasingFrameRequest parseWatch (watchText ++ [0])
      { LinkInfo.zero with socket := 7 }), ?_⟩
    rw [webRequst, hpayload]
    rfl
  have hsend : webStep parseWatch .init (.send [1, 2, 3] (.ofBuffer (ascii "N1")) 33 none) .init :=
    ⟨rfl, rfl⟩
  refine ⟨_, ((Run.nil.snoc (stepWith_intro _ haccept)).snoc (stepWith_intro _ hrequst)).snoc
    (stepWith_intro _ hsend), ?_⟩
  simp only [subscribe, hmessage, Function.update_self]

end SmartPlat.WebServer
