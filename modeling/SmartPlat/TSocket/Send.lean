import SmartPlat.Common
import Mathlib.Data.List.Basic

set_option autoImplicit false

/-! # Sending over TCP: `ExtLibs/TSocket/tsocket.c`

`NetTcpSendMsg` goes on until the kernel has taken all of a message. `NetTcpMtuSendMsg` cuts it into
pieces and calls `send` once for each. What `select` and `send` do in each round of a loop is given from
outside; the bytes that the kernel takes are collected. -/

namespace SmartPlat.TSocket

/-! ## The kernel -/

/-- `select`, and what a `send` behind it would do. -/
inductive Attempt where
  /-- `select` returns a negative number. -/
  | selectError
  | timeout
  /-- The sets in which the socket is; `send` fails, or takes at most that many bytes. -/
  | ready (wset errorfd : Bool) (sent : Option ℕ)
  deriving DecidableEq, Repr

/-- `send(sockfd, data, …)`: what it returns, and the bytes that are accepted. -/
def send (sent : Option ℕ) (data : List UInt8) : ℤ × List UInt8 :=
  match sent with
  | none => (-1, [])
  | some n => ((data.take n).length, data.take n)

/-! ## `NetTcpSendMsg` -/

/-- The variables of the loop, the round it is in and what the kernel has accepted. -/
structure Sending where
  round : ℕ
  Total : ℕ
  cont : ℕ
  accepted : List UInt8
  deriving DecidableEq, Repr

/-- `while (1)`, for at most that many rounds. -/
def sendLoop (net : ℕ → Attempt) (msg : List UInt8) : ℕ → Sending → Except Fault (ℤ × List UInt8)
  | 0, _ => .error .timeout
  | fuel + 1, s =>
      match net s.round with
      | .selectError => .ok (-1, s.accepted)
      | .timeout =>
          if s.cont + 1 = 2 then .ok (-1, s.accepted)
          else sendLoop net msg fuel { s with round := s.round + 1, cont := s.cont + 1 }
      | .ready wset errorfd sent =>
          if errorfd then .ok (-1, s.accepted)
          else if !wset then .ok (-1, s.accepted)
          else
            let (lenSend, bytes) := send sent (msg.drop s.Total)
            let accepted := s.accepted ++ bytes
            if lenSend ≤ 0 then .ok (-1, accepted)
            else
              let Total := s.Total + lenSend.toNat
              if Total = msg.length then .ok (msg.length, accepted)
              else sendLoop net msg fuel { s with round := s.round + 1, Total, accepted }

/-- `NetTcpSendMsg`: the result, and what the kernel has accepted. -/
def netTcpSendMsg (net : ℕ → Attempt) (msg : List UInt8) : Except Fault (ℤ × List UInt8) :=
  sendLoop net msg (msg.length + 2) ⟨0, 0, 0, []⟩

/-! ## `NetTcpMtuSendMsg` -/

/-- `mtu` -/
def mtu : ℕ := 1460

/-- `Packet_length` -/
def packetLength (iVideoLen iMtu : ℕ) : ℕ :=
  let iLen := iVideoLen / iMtu
  let remainder := iVideoLen % iMtu
  if remainder ≠ 0 then iLen + 1 else iLen

/-- The loop over the pieces, with how many there are still to come, and the round it is in. -/
def mtuLoop (net : ℕ → Attempt) : ℕ → ℕ → List UInt8 → List UInt8 → ℤ × List UInt8
  | 0, _, _, accepted => (keyTrue, accepted)
  | left + 1, i, msg, accepted =>
      let i_payload := if msg.length < mtu then msg.length else mtu
      match net i with
      | .ready _ errorfd sent =>
          if errorfd then (-1, accepted)
          else
            let (lenSend, bytes) := send sent (msg.take i_payload)
            if lenSend = -1 then (-1, accepted ++ bytes)
            -- the next piece, however much of this one has been taken
            else mtuLoop net left (i + 1) (msg.drop i_payload) (accepted ++ bytes)
      | .timeout => (-2, accepted)
      | .selectError => (-1, accepted)

/-- `NetTcpMtuSendMsg` -/
def netTcpMtuSendMsg (net : ℕ → Attempt) (msg : List UInt8) : ℤ × List UInt8 :=
  mtuLoop net (packetLength msg.length mtu) 0 msg []

end SmartPlat.TSocket
