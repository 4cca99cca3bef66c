import SmartPlat.Lib.Blocks
import SmartPlat.TSocket.Send

set_option autoImplicit false

/-! # What the kernel has got when a send returns

`NetTcpSendMsg` counts what is taken and goes on behind it, so that it reports success when everything is
with the kernel, and only then. `NetTcpMtuSendMsg` does not look at how much is taken: a piece of which a
part is left counts as sent. -/

namespace SmartPlat.TSocket

open SmartPlat.Lib

variable {net : ℕ → Attempt} {msg data accepted : List UInt8} {n fuel left i : ℕ} {s : Sending}

/-! ## The loop of `NetTcpSendMsg` -/

theorem send_fst_le_zero {sent : Option ℕ} (h : (send sent data).1 ≤ 0) : (send sent data).2 = [] := by
  cases sent with
  | none => rfl
  | some n =>
      have hlen : (data.take n).length = 0 := by
        simp only [send] at h
        omega
      simpa [send] using List.length_eq_zero_iff.1 hlen

theorem send_eq_take {sent : Option ℕ} (h : 0 < (send sent data).1) :
    (send sent data).2 = data.take (send sent data).1.toNat ∧ (send sent data).1 ≤ data.length := by
  cases sent with
  | none => simp [send] at h
  | some n =>
      simp only [send, List.length_take, Int.toNat_natCast]
      refine ⟨?_, by omega⟩
      rw [← List.take_eq_take_min]

/-- In every round: `Total` bytes are with the kernel, and there are more to come. -/
structure Underway (msg : List UInt8) (s : Sending) : Prop where
  accepted_eq : s.accepted = msg.take s.Total
  more : s.Total < msg.length ∨ msg = [] ∧ s.Total = 0
  cont_le : s.cont ≤ 1

theorem underway_init : Underway msg ⟨0, 0, 0, []⟩ where
  accepted_eq := by simp
  more := by
    cases msg with
    | nil => simp
    | cons b msg => simp
  cont_le := by simp

/-- What a send that is over may have done. -/
structure Over (msg : List UInt8) (r : ℤ × List UInt8) : Prop where
  inOrder : ∃ n, r.2 = msg.take n
  complete : r.1 = msg.length ↔ msg ≠ [] ∧ r.2 = msg
  failed : r.1 ≠ msg.length → r.1 = -1

theorem Underway.failed (h : Underway msg s) : Over msg (-1, s.accepted) where
  inOrder := ⟨s.Total, h.accepted_eq⟩
  complete := by
    constructor
    · intro hlen
      simp only at hlen
      omega
    · rintro ⟨hne, hall⟩
      have hlen := congrArg List.length hall
      simp only [h.accepted_eq, List.length_take] at hlen
      rcases h.more with hmore | ⟨hnil, -⟩
      · omega
      · exact absurd hnil hne
  failed _ := rfl

theorem Underway.done (h : Underway msg s) {bytes : List UInt8} {k : ℕ}
    (hbytes : bytes = (msg.drop s.Total).take k) (hk : 0 < k) (hall : s.Total + k = msg.length) :
    Over msg (msg.length, s.accepted ++ bytes) := by
  have hmsg : s.accepted ++ bytes = msg := by
    rw [h.accepted_eq, hbytes, ← List.take_add, hall, List.take_length]
  refine ⟨⟨msg.length, by simp [hmsg]⟩, ⟨fun _ => ⟨?_, hmsg⟩, fun _ => rfl⟩, fun hne => absurd rfl hne⟩
  rintro rfl
  simp at hall
  omega

theorem Underway.next (h : Underway msg s) {bytes : List UInt8} {k : ℕ}
    (hbytes : bytes = (msg.drop s.Total).take k) (hk : s.Total + k < msg.length) :
    Underway msg { s with round := s.round + 1, Total := s.Total + k, accepted := s.accepted ++ bytes } where
  accepted_eq := by simp [h.accepted_eq, hbytes, List.take_add]
  more := .inl hk
  cont_le := h.cont_le

/-- **Each round but the last one uses up a byte or the one timeout that is allowed.** -/
theorem ends_sendLoop (h : Underway msg s) (hfuel : msg.length - s.Total + (1 - s.cont) < fuel) :
    Ends (sendLoop net msg fuel s) (Over msg) := by
  induction fuel generalizing s with
  | zero => omega
  | succ fuel ih =>
      simp only [sendLoop]
      split
      · exact ends_ok.2 h.failed
      · split
        · exact ends_ok.2 h.failed
        · next hcont =>
            have hle := h.cont_le
            exact ih ⟨h.accepted_eq, h.more, show s.cont + 1 ≤ 1 by omega⟩ (by dsimp only; omega)
      · next wset errorfd sent _ =>
          split
          · exact ends_ok.2 h.failed
          split
          · exact ends_ok.2 h.failed
          split
          · next hle => exact ends_ok.2 (by simpa [send_fst_le_zero hle] using h.failed)
          · next hpos =>
              obtain ⟨hbytes, hlen⟩ := send_eq_take (Int.not_le.1 hpos)
              rw [List.length_drop] at hlen
              split
              · next hall => exact ends_ok.2 (h.done hbytes (by omega) hall)
              · next hnot =>
                  exact ih (h.next hbytes (by omega)) (by dsimp only; omega)

theorem ends_netTcpSendMsg (net : ℕ → Attempt) (msg : List UInt8) :
    Ends (netTcpSendMsg net msg) (Over msg) :=
  ends_sendLoop underway_init (by simp)

/-- **A send is complete when it says so.** In whatever way `select` times out and `send` takes less
    than it is given: the full length is returned if there is a message and the kernel has taken each of
    its bytes once and in order, and otherwise -1. -/
theorem send_complete (net : ℕ → Attempt) (msg : List UInt8) :
    Ends (netTcpSendMsg net msg) fun r =>
      (r.1 = msg.length ↔ msg ≠ [] ∧ r.2 = msg) ∧ (r.1 ≠ msg.length → r.1 = -1) := by
  obtain ⟨r, hr, hover⟩ := ends_netTcpSendMsg net msg
  exact ⟨r, hr, hover.complete, hover.failed⟩

/-- Sending nothing fails, although nothing is left to send. -/
theorem empty_send_fails :
    ¬ ∀ (net : ℕ → Attempt) (msg : List UInt8), Ends (netTcpSendMsg net msg) fun r =>
      (r.1 = msg.length ↔ r.2 = msg) ∧ (r.1 ≠ msg.length → r.1 = -1) := by
  intro h
  obtain ⟨r, hr, hcomplete, -⟩ := h (fun _ => .ready true false (some 0)) []
  cases hr
  simp at hcomplete

/-! ## The pieces of `NetTcpMtuSendMsg` -/

/-- `select` finds the socket ready and `send` does not fail. -/
def Attempt.Passes (a : Attempt) : Prop := ∃ wset sent, a = .ready wset false (some sent)

/-- `send` takes all of that many bytes. -/
def Attempt.Takes (a : Attempt) (k : ℕ) : Prop :=
  ∃ wset sent, a = .ready wset false (some sent) ∧ k ≤ sent

theorem Attempt.Takes.passes {a : Attempt} {k : ℕ} (h : a.Takes k) : a.Passes := by
  obtain ⟨wset, sent, rfl, -⟩ := h
  exact ⟨wset, sent, rfl⟩

/-- The bytes of a message that are sent in round `i`. -/
def piece (msg : List UInt8) (i : ℕ) : List UInt8 := (msg.drop (mtu * i)).take mtu

theorem piece_succ : piece msg (i + 1) = piece (msg.drop mtu) i := by
  rw [piece, piece, List.drop_drop, Nat.mul_succ, Nat.add_comm]

theorem take_payload : msg.take (if msg.length < mtu then msg.length else mtu) = piece msg 0 := by
  rw [piece, Nat.mul_zero, List.drop_zero]
  split
  · next h => rw [List.take_length, List.take_of_length_le (by omega)]
  · rfl

theorem drop_payload : msg.drop (if msg.length < mtu then msg.length else mtu) = msg.drop mtu := by
  split
  · next h => rw [List.drop_length, List.drop_of_length_le (by omega)]
  · rfl

theorem piece_append (msg : List UInt8) : piece msg 0 ++ msg.drop mtu = msg := by
  rw [piece, Nat.mul_zero, List.drop_zero, List.take_append_drop]

theorem packetLength_eq (n : ℕ) : packetLength n mtu = (n + 1459) / 1460 := by
  by_cases h : n % 1460 = 0
  · simp [packetLength, mtu, h]
    omega
  · simp [packetLength, mtu, h]
    omega

theorem packetLength_drop (h : packetLength msg.length mtu = left + 1) :
    packetLength (msg.drop mtu).length mtu = left := by
  rw [packetLength_eq] at h
  rw [packetLength_eq, List.length_drop, mtu]
  omega

/-- A round of the loop: over, or the next piece. -/
theorem mtuLoop_succ (net : ℕ → Attempt) (left i : ℕ) (msg accepted : List UInt8) :
    (¬ (net i).Passes ∧ (mtuLoop net (left + 1) i msg accepted).1 ≠ keyTrue) ∨
      ∃ wset sent, net i = .ready wset false (some sent) ∧
        mtuLoop net (left + 1) i msg accepted
          = mtuLoop net left (i + 1) (msg.drop mtu) (accepted ++ (piece msg 0).take sent) := by
  have hpass {a : Attempt} {wset errorfd : Bool} {sent : Option ℕ} (ha : a = .ready wset errorfd sent)
      (hbad : errorfd = true ∨ sent = none) : ¬ a.Passes := by
    rintro ⟨wset', sent', rfl⟩
    cases ha
    simp at hbad
  simp only [mtuLoop, take_payload, drop_payload]
  split
  · next wset errorfd sent hnet =>
      cases errorfd with
      | true => exact .inl ⟨hpass hnet (.inl rfl), by simp [keyTrue]⟩
      | false =>
          cases sent with
          | none => exact .inl ⟨hpass hnet (.inr rfl), by simp [send, keyTrue]⟩
          | some sent =>
              refine .inr ⟨wset, sent, hnet, ?_⟩
              have hlen : (send (some sent) (piece msg 0)).1 ≠ -1 := by
                simp only [send]
                omega
              simp only [Bool.false_eq_true, if_false]
              rw [if_neg hlen]
              rfl
  · next hnet => exact .inl ⟨by rintro ⟨_, _, h⟩; simp [hnet] at h, by simp [keyTrue]⟩
  · next hnet => exact .inl ⟨by rintro ⟨_, _, h⟩; simp [hnet] at h, by simp [keyTrue]⟩

/-- Success is reported when no piece fails. -/
theorem mtuLoop_success_iff (net : ℕ → Attempt) (left i : ℕ) (msg accepted : List UInt8) :
    (mtuLoop net left i msg accepted).1 = keyTrue ↔ ∀ j < left, (net (i + j)).Passes := by
  induction left generalizing i msg accepted with
  | zero => simp [mtuLoop]
  | succ left ih =>
      rcases mtuLoop_succ net left i msg accepted with ⟨hfail, hret⟩ | ⟨wset, sent, hnet, hloop⟩
      · refine iff_of_false hret fun hall => hfail ?_
        simpa using hall 0 (by omega)
      · rw [hloop, ih]
        constructor
        · intro hall j hj
          cases j with
          | zero => exact ⟨wset, sent, by simpa using hnet⟩
          | succ j => simpa [Nat.add_assoc, Nat.add_comm 1] using hall j (by omega)
        · intro hall j hj
          simpa [Nat.add_assoc, Nat.add_comm 1] using hall (j + 1) (by omega)

theorem length_mtuLoop_le (net : ℕ → Attempt) (left i : ℕ) (msg accepted : List UInt8) :
    (mtuLoop net left i msg accepted).2.length ≤ accepted.length + msg.length := by
  induction left generalizing i msg accepted with
  | zero => simp [mtuLoop]
  | succ left ih =>
      have hmsg := congrArg List.length (piece_append msg)
      rw [List.length_append] at hmsg
      rcases mtuLoop_succ net left i msg accepted with ⟨hfail, -⟩ | ⟨wset, sent, hnet, hloop⟩
      · simp only [mtuLoop, take_payload]
        split
        · next errorfd sent hnet =>
            have hbytes : (send sent (piece msg 0)).2.length ≤ (piece msg 0).length := by
              cases sent with
              | none => simp [send]
              | some sent => exact List.length_take_le' sent (piece msg 0)
            split
            · simp
            split
            · simp only [List.length_append]
              omega
            · next herr hsent =>
                refine absurd ?_ hfail
                cases sent with
                | none => simp [send] at hsent
                | some sent => exact ⟨_, sent, by simpa [herr] using hnet⟩
        · simp
        · simp
      · rw [hloop]
        have hrest := ih (i + 1) (msg.drop mtu) (accepted ++ (piece msg 0).take sent)
        have htake := List.length_take_le' sent (piece msg 0)
        rw [List.length_append] at hrest
        omega

/-- **Where no piece fails, the message arrives when each piece is taken whole.** -/
theorem mtuLoop_delivers_iff (net : ℕ → Attempt) (i : ℕ) (accepted : List UInt8)
    (hleft : packetLength msg.length mtu = left)
    (hpass : ∀ j < left, (net (i + j)).Passes) :
    (mtuLoop net left i msg accepted).2 = accepted ++ msg ↔
      ∀ j < left, (net (i + j)).Takes (piece msg j).length := by
  induction left generalizing i msg accepted with
  | zero =>
      have hnil : msg = [] := List.length_eq_zero_iff.1 (by rw [packetLength_eq] at hleft; omega)
      simp [mtuLoop, hnil]
  | succ left ih =>
      rcases mtuLoop_succ net left i msg accepted with ⟨hfail, -⟩ | ⟨wset, sent, hnet, hloop⟩
      · exact absurd (by simpa using hpass 0 (by omega)) hfail
      have hmsg := piece_append msg
      rw [hloop]
      rcases Nat.lt_or_ge sent (piece msg 0).length with hshort | hwhole
      · -- what is left of this piece is sent by no other round
        refine iff_of_false (fun heq => ?_) fun hall => ?_
        · have hle := length_mtuLoop_le net left (i + 1) (msg.drop mtu)
            (accepted ++ (piece msg 0).take sent)
          rw [heq] at hle
          have hlen := congrArg List.length hmsg
          simp only [List.length_append, List.length_take] at hle hlen
          omega
        · obtain ⟨wset', sent', hnet', hle⟩ := hall 0 (by omega)
          rw [Nat.add_zero, hnet] at hnet'
          cases hnet'
          omega
      · have hrest := ih (i + 1) (accepted ++ piece msg 0) (packetLength_drop hleft)
          fun j hj => by simpa [Nat.add_assoc, Nat.add_comm 1] using hpass (j + 1) (by omega)
        rw [List.append_assoc, hmsg] at hrest
        rw [List.take_of_length_le hwhole, hrest]
        constructor
        · intro hall j hj
          cases j with
          | zero => exact ⟨wset, sent, by simpa using hnet, hwhole⟩
          | succ j => simpa [piece_succ, Nat.add_assoc, Nat.add_comm 1] using hall j (by omega)
        · intro hall j hj
          simpa [piece_succ, Nat.add_assoc, Nat.add_comm 1] using hall (j + 1) (by omega)

/-! ## The two compared -/

/-- When `NetTcpMtuSendMsg` reports success the kernel has the whole message, as after a
    `NetTcpSendMsg` of it that does. -/
def MtuRefines (net : ℕ → Attempt) (msg : List UInt8) : Prop :=
  (netTcpMtuSendMsg net msg).1 = keyTrue →
    (netTcpMtuSendMsg net msg).2 = msg ∧
      ∀ plain, Ends (netTcpSendMsg plain msg) fun r =>
        r.1 = msg.length → r.2 = (netTcpMtuSendMsg net msg).2

/-- **When sending in pieces refines plain sending.** For every message and every pattern of timeouts and
    short writes: when some piece fails, so that no success is reported, or each is taken whole. -/
theorem mtu_refines_iff (net : ℕ → Attempt) (msg : List UInt8) :
    MtuRefines net msg ↔ (∃ i < packetLength msg.length mtu, ¬ (net i).Passes) ∨
      ∀ i < packetLength msg.length mtu, (net i).Takes (piece msg i).length := by
  have hsuccess : (netTcpMtuSendMsg net msg).1 = keyTrue ↔
      ∀ i < packetLength msg.length mtu, (net i).Passes := by
    simpa [netTcpMtuSendMsg] using mtuLoop_success_iff net (packetLength msg.length mtu) 0 msg []
  by_cases hall : ∀ i < packetLength msg.length mtu, (net i).Passes
  · have hdelivers : (netTcpMtuSendMsg net msg).2 = msg ↔
        ∀ i < packetLength msg.length mtu, (net i).Takes (piece msg i).length := by
      simpa [netTcpMtuSendMsg] using mtuLoop_delivers_iff net 0 [] rfl (by simpa using hall)
    rw [or_iff_right (by simpa using hall), ← hdelivers]
    refine ⟨fun h => (h (hsuccess.2 hall)).1, fun h _ => ⟨h, fun plain => ?_⟩⟩
    obtain ⟨r, hr, hover⟩ := ends_netTcpSendMsg plain msg
    exact ⟨r, hr, fun hret => (hover.complete.1 hret).2.trans h.symm⟩
  · refine iff_of_true (fun h => absurd (hsuccess.1 h) hall) (.inl ?_)
    simpa using hall

/-- Of three bytes two are taken, and success is reported. -/
theorem short_write_lost :
    netTcpMtuSendMsg (fun _ => .ready true false (some 2)) [1, 2, 3] = (keyTrue, [1, 2]) ∧
      ¬ MtuRefines (fun _ => .ready true false (some 2)) [1, 2, 3] := by
  have hrun : netTcpMtuSendMsg (fun _ => .ready true false (some 2)) [1, 2, 3] = (keyTrue, [1, 2]) := by
    decide
  refine ⟨hrun, fun h => ?_⟩
  have hdelivered := (h (by rw [hrun])).1
  rw [hrun] at hdelivered
  cases hdelivered

end SmartPlat.TSocket
