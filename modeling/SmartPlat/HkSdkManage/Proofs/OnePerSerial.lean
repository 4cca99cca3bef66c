import SmartPlat.HkSdkManage.ListConf
import SmartPlat.HkSdkManage.Proofs.ListMap

set_option autoImplicit false

/-! # One entry for a serial number

`HksdkDeviceAdd` looks for the serial number of the request, which a request to add an NVR does not
carry, and links its records under the number that the device reports. The search reads what is at the
addresses by then: a call from the place of an earlier one finds its own zeroed variables there. -/

namespace SmartPlat.HkSdkManage

open SmartPlat.Lib

/-! ## The property -/

/-- No serial number has two entries in a list or in the configuration. -/
structure OneEntry (reg : Registry Entry Entry) : Prop where
  dvrlistHead : (reg.dvrlistHead.map Entry.reported).Nodup
  deviceListHead : (reg.deviceListHead.map Entry.reported).Nodup
  Dvrlist : ∀ conf, reg.Dvrlist = some conf → (conf.map DvrConf.serialnumber).Nodup

/-- The NVR that reports this serial number is in one of the lists. -/
def Registry.Present (reg : Registry Entry Entry) (serial : DvrString) : Prop :=
  serial ∈ reg.dvrlistHead.map Entry.reported ∨ serial ∈ reg.deviceListHead.map Entry.reported

/-- The request to add an NVR, with the answers it gets and the place of the variables. -/
def DvrRequest.adds : DvrRequest → Option (HKDVRParam × Replies × Frame)
  | .add (some data) re _ f => some (jsonMapsdkDeviceAddInfoPares data .zero, re, f)
  | .apiInit re _ f => some (hksdkApiInitDevInfo, re, f)
  | .add none _ _ _ | .del _ _ | .other _ => none

/-- A request leaves one entry for a serial number, and opens no stream and no queue when it adds an NVR
    that is present. -/
def KeepsOneEntry (s : Dvrs) (request : DvrRequest) (s' : Dvrs) : Prop :=
  OneEntry s'.reg ∧ ∀ d re f, request.adds = some (d, re, f) → s.reg.Present re.sSerialNumber →
    s'.reg.held.filter Held.isStream = s.reg.held.filter Held.isStream

/-! ## When it holds -/

/-- The first channel that is online. -/
def Replies.firstOnline (re : Replies) : Option (Fin netIpcMaxNum) :=
  (channelsOf re.IpcamCfg).find? fun i => re.IpcamCfg.online i ≠ 0

/-- An entry of the list is in the variables of the call, or no serial number is read there. -/
def Dvrs.Overwritten (s : Dvrs) (f : Frame) : Prop :=
  ∃ k ∈ s.reg.deviceListHead,
    k.address = f.HkDvrInfo ∨ (s.μ.dvrParam k.address).serial = emptyArray _

instance (s : Dvrs) (f : Frame) : Decidable (s.Overwritten f) :=
  inferInstanceAs (Decidable (∃ k ∈ s.reg.deviceListHead, _))

instance (reg : Registry Entry Entry) (serial : DvrString) : Decidable (reg.Present serial) :=
  inferInstanceAs (Decidable (_ ∨ _))

/-- A login to an NVR that is present is made only while an entry of the list is overwritten, or when the
    first channel gets neither a preview nor a queue. -/
def NoSecondLogin (s : Dvrs) (request : DvrRequest) : Prop :=
  ∀ d re f, request.adds = some (d, re, f) → 0 ≤ re.lUserID → s.reg.Present re.sSerialNumber →
    s.Overwritten f ∨ ∃ i, re.firstOnline = some i ∧ re.lRealPlayHandle i < 0 ∧ re.queueid i < 0

theorem noSecondLogin_of_adds {s : Dvrs} {request : DvrRequest} {d : HKDVRParam} {re : Replies}
    {f : Frame} (h : request.adds = some (d, re, f)) :
    NoSecondLogin s request ↔ (0 ≤ re.lUserID → s.reg.Present re.sSerialNumber → s.Overwritten f ∨
      ∃ i, re.firstOnline = some i ∧ re.lRealPlayHandle i < 0 ∧ re.queueid i < 0) := by
  simp [NoSecondLogin, h]

instance (s : Dvrs) (request : DvrRequest) : Decidable (NoSecondLogin s request) :=
  match h : request.adds with
  | none => .isTrue fun _ _ _ hadds => by rw [h] at hadds; cases hadds
  | some (_, _, _) => decidable_of_iff' _ (noSecondLogin_of_adds h)

/-! ## The channels -/

variable {re : Replies} {junk : ℕ → DvrString} {f : Frame} {s s' : Dvrs} {request : DvrRequest}

theorem held_initial {is : List (Fin netIpcMaxNum)} {l l' : AddLocals} {b : Bool}
    (h : addChannels re is l = (b, l')) : l.held <+: l'.held := by
  have hpre := addChannels_prefix re is l
  rwa [h] at hpre

theorem filter_acquired_realPlay (h u : ℤ) :
    (acquired (.realPlay · u) h).filter Held.isStream = [] ↔ h < 0 := by
  rw [acquired]
  split
  · next hneg => exact iff_of_true rfl hneg
  · next hpos => exact iff_of_false (List.cons_ne_nil _ _) hpos

/-- A loop that stops has opened something unless it stops at the first camera without a preview. -/
theorem addChannels_streams {is : List (Fin netIpcMaxNum)} {l l' : AddLocals}
    (h : addChannels re is l = (false, l')) :
    l'.held.filter Held.isStream = l.held.filter Held.isStream ↔
      ∃ i, is.find? (fun i => re.IpcamCfg.online i ≠ 0) = some i ∧ re.lRealPlayHandle i < 0 ∧
        re.queueid i < 0 := by
  induction is generalizing l with
  | nil => cases h
  | cons i rest ih =>
      rw [addChannels] at h
      by_cases hoff : re.IpcamCfg.online i = 0
      · rw [if_pos hoff] at h
        rw [List.find?_cons_of_neg (by simpa using hoff)]
        have hrest := ih h
        exact hrest
      · rw [if_neg hoff] at h
        rw [List.find?_cons_of_pos (by simpa using hoff)]
        simp only [Option.some.injEq, exists_eq_left']
        dsimp only at h
        split at h
        · next hqueue =>
            cases h
            rw [List.filter_append, List.append_right_eq_self, filter_acquired_realPlay]
            exact ⟨fun hplay => ⟨hplay, hqueue⟩, fun h => h.1⟩
        · next hqueue =>
            refine iff_of_false (fun heq => ?_) fun h => hqueue h.2
            -- the queue is not given back
            have hpre := (held_initial h).filter Held.isStream
            rw [heq, List.filter_append, List.filter_append] at hpre
            have hlength := hpre.length_le
            simp [Held.isStream] at hlength

/-! ## The requests -/

/-- A request to add an NVR carries no serial number. -/
theorem DvrRequest.serial_of_adds {d : HKDVRParam} (h : request.adds = some (d, re, f)) :
    d.serial = emptyArray _ := by
  cases request with
  | add data re' junk' f' =>
      cases data with
      | none => cases h
      | some data =>
          cases h
          rfl
  | apiInit re' junk' f' =>
      cases h
      rfl
  | del => cases h
  | other => cases h

/-- The search for no serial number stops at an entry that is overwritten. -/
theorem isAdded_searched_iff {d : HKDVRParam} (hd : d.serial = emptyArray _) :
    s.reg.isAdded (s.searched f) d = true ↔ s.Overwritten f := by
  rw [Registry.isAdded, Option.isSome_iff_ne_none, ne_eq, lookup_eq_none, hd]
  simp only [not_forall, not_not]
  refine exists_congr fun k => (exists_prop).trans (and_congr_right fun _ => ?_)
  rw [Dvrs.searched, Storage.zeroed, Storage.setLocals]
  by_cases hk : k.address = f.HkDvrInfo
  · rw [hk]
    simp [HKDVRParam.zero, HkDeviceInfo.zero]
  · simp [hk]

theorem nodup_hkDvrListConfigAdd {p : HKDVRParam} {l : Option (List DvrConf)} {l' : List DvrConf}
    (hl : ∀ conf, l = some conf → (conf.map DvrConf.serialnumber).Nodup)
    (h : hkDvrListConfigAdd junk p l = .ok l') : (l'.map DvrConf.serialnumber).Nodup := by
  obtain ⟨conf, rfl, hlength⟩ := dvrlistFits_iff.1 (editConf_ok_iff.1 ⟨l', h⟩)
  cases hd : lookup DvrConf.serialnumber p.serial conf with
  | some d =>
      obtain rfl := Except.ok.inj ((hkDvrListConfigAdd_present junk p hlength hd).symm.trans h)
      exact nodup_map_modifyFirst (hl conf rfl) hd fun b _ hb => hb.trans (key_of_lookup hd).symm
  | none =>
      have habsent := lookup_eq_none.1 hd
      obtain rfl := Except.ok.inj ((hkDvrListConfigAdd_absent junk p hlength habsent).symm.trans h)
      split
      · exact nodup_map_concat (hl conf rfl) habsent
      · exact hl conf rfl

/-- What a call to add an NVR does: it leaves the lists and the configuration, or links two entries. -/
theorem deviceAdd_cases {d : HKDVRParam} {code : ℤ} (hd : d.serial = emptyArray _)
    (h : s.deviceAdd d re junk f = .ok (code, s')) :
    (s'.reg.dvrlistHead = s.reg.dvrlistHead ∧ s'.reg.deviceListHead = s.reg.deviceListHead ∧
        s'.reg.Dvrlist = s.reg.Dvrlist ∧ ∃ held, s'.reg.held = s.reg.held ++ held ∧
          (held.filter Held.isStream = [] ↔ re.lUserID < 0 ∨ s.Overwritten f ∨
            ∃ i, re.firstOnline = some i ∧ re.lRealPlayHandle i < 0 ∧ re.queueid i < 0)) ∨
      (0 ≤ re.lUserID ∧ ¬ s.Overwritten f ∧ re.Queued ∧
        s'.reg.dvrlistHead = s.reg.dvrlistHead ++ [⟨f.dvrInfo, re.sSerialNumber⟩] ∧
        s'.reg.deviceListHead = s.reg.deviceListHead ++ [⟨f.HkDvrInfo, re.sSerialNumber⟩] ∧
        ∃ p conf, hkDvrListConfigAdd junk p s.reg.Dvrlist = .ok conf ∧ s'.reg.Dvrlist = some conf) := by
  have hfound := isAdded_searched_iff (s := s) (f := f) hd
  have hlogin : (addLocals d re).held.filter Held.isStream = [] := by
    rw [addLocals, acquired]
    split <;> rfl
  rw [Dvrs.deviceAdd, hksdkDeviceAdd] at h
  obtain ⟨r, hadd, heq⟩ := map_eq_ok_iff.1 h
  cases heq
  cases hend : hksdkDeviceAddEnd (s.reg.isAdded (s.searched f) d) d re with
  | returns code' held cameras =>
      -- the login fails, the check finds an entry, or a channel gets no queue
      rw [hend] at hadd
      cases hadd
      refine Or.inl ⟨rfl, rfl, rfl, held, rfl, ?_⟩
      rw [hksdkDeviceAddEnd] at hend
      split at hend
      · next hfail =>
          cases hend
          exact iff_of_true rfl (Or.inl hfail)
      next hok =>
        split at hend
        · next hadded =>
            cases hend
            exact iff_of_true hlogin (Or.inr (Or.inl (hfound.1 hadded)))
        next hnew =>
          split at hend
          · next l hchannels =>
              cases hend
              -- no record is linked, but previews may have been opened on the way
              have hstreams := addChannels_streams hchannels
              rw [hlogin] at hstreams
              rw [hstreams, or_iff_right hok, or_iff_right (mt hfound.2 hnew)]
              rfl
          · cases hend
  | registers l =>
      rw [hend] at hadd
      obtain ⟨conf, hconf, heq⟩ := map_eq_ok_iff.1 hadd
      cases heq
      obtain ⟨hok, hnew, hqueued⟩ := registers_iff.1 ⟨l, hend⟩
      exact Or.inr ⟨hok, mt hfound.2 (by simp [hnew]), hqueued, rfl, rfl, _, conf, hconf, rfl⟩

/-- What a request does that adds an NVR. -/
theorem deviceAdd_of_adds {d : HKDVRParam} (hadds : request.adds = some (d, re, f))
    (h : requestStep s request s') : ∃ junk code, s.deviceAdd d re junk f = .ok (code, s') := by
  cases request with
  | add data re' junk f' =>
      cases data with
      | none => cases hadds
      | some data =>
          cases hadds
          obtain ⟨-, code, h⟩ := h
          exact ⟨junk, code, h⟩
  | apiInit re' junk f' =>
      cases hadds
      obtain ⟨-, code, h⟩ := h
      exact ⟨junk, code, h⟩
  | del => cases hadds
  | other => cases hadds

/-- Deleting takes entries out of the three lists. -/
theorem OneEntry.del {d : HKDVRParam} {code : ℤ} (hone : OneEntry s.reg)
    (h : s.deviceDel d junk = .ok (code, s')) : OneEntry s'.reg := by
  rw [Dvrs.deviceDel, hksdkDeviceDel] at h
  obtain ⟨r, hdel, heq⟩ := map_eq_ok_iff.1 h
  cases heq
  dsimp only at hdel
  split at hdel
  · split at hdel
    · cases hdel
      exact ⟨hone.dvrlistHead, nodup_map_eraseFirst hone.deviceListHead, hone.Dvrlist⟩
    · obtain ⟨conf', hconf, heq⟩ := map_eq_ok_iff.1 hdel
      obtain ⟨conf, hstored, hlength⟩ := dvrlistFits_iff.1 (editConf_ok_iff.1 ⟨conf', hconf⟩)
      rw [hstored] at hconf
      obtain rfl := Except.ok.inj ((hkDvrListConfigDel_eq junk _ hlength).symm.trans hconf)
      cases heq
      refine ⟨nodup_map_eraseFirst hone.dvrlistHead, nodup_map_eraseFirst hone.deviceListHead, ?_⟩
      rintro l hl
      obtain rfl := Option.some.inj hl
      exact nodup_map_eraseFirst (hone.Dvrlist conf hstored)
  · cases hdel
    exact hone

/-- Requests that add nothing keep one entry. -/
theorem OneEntry.step_of_adds_none (hone : OneEntry s.reg) (hadds : request.adds = none)
    (h : requestStep s request s') : OneEntry s'.reg := by
  cases request with
  | add data re' junk' f' =>
      cases data with
      | none =>
          obtain ⟨-, code, h⟩ := h
          cases h
          exact hone
      | some data => cases hadds
  | apiInit => cases hadds
  | del data junk' =>
      obtain ⟨code, h⟩ := h
      cases data with
      | none =>
          cases h
          exact hone
      | some data => exact hone.del h
  | other μ =>
      obtain ⟨-, rfl⟩ := h
      exact hone

/-- A camera that is online gets a queue, so an NVR that is linked is new. -/
theorem fresh_of_queued {d : HKDVRParam} (hadds : request.adds = some (d, re, f))
    (hsafe : NoSecondLogin s request) (hok : 0 ≤ re.lUserID) (hnew : ¬ s.Overwritten f)
    (hqueued : re.Queued) : ¬ s.reg.Present re.sSerialNumber := by
  intro hpresent
  rcases hsafe d re f hadds hok hpresent with hempty | ⟨i, hi, -, hqueue⟩
  · exact hnew hempty
  · have hmem := List.mem_of_find?_eq_some hi
    have honline : re.IpcamCfg.online i ≠ 0 := by simpa using List.find?_some hi
    exact absurd (hqueued i hmem honline) (Int.not_le.2 hqueue)

theorem keepsOneEntry_of_noSecondLogin (hone : OneEntry s.reg) (hsafe : NoSecondLogin s request)
    (h : requestStep s request s') : KeepsOneEntry s request s' := by
  cases hadds : request.adds with
  | none =>
      refine ⟨hone.step_of_adds_none hadds h, fun d re f heq => ?_⟩
      rw [hadds] at heq
      cases heq
  | some x =>
      obtain ⟨d, re, f⟩ := x
      obtain ⟨junk, code, hadd⟩ := deviceAdd_of_adds hadds h
      rcases deviceAdd_cases (request.serial_of_adds hadds) hadd with
        ⟨hdvr, hdevice, hconf, held, hheld, hstreams⟩ |
        ⟨hok, hnew, hqueued, hdvr, hdevice, p, conf, hconf, hstored⟩
      · refine ⟨⟨hdvr ▸ hone.dvrlistHead, hdevice ▸ hone.deviceListHead, hconf ▸ hone.Dvrlist⟩,
          fun d' re' f' heq hpresent => ?_⟩
        cases hadds.symm.trans heq
        rw [hheld, List.filter_append, List.append_right_eq_self, hstreams]
        by_cases hlogin : re.lUserID < 0
        · exact Or.inl hlogin
        · exact Or.inr (hsafe d re f hadds (Int.not_lt.1 hlogin) hpresent)
      · have hfresh := fresh_of_queued hadds hsafe hok hnew hqueued
        obtain ⟨hinfo, hparam⟩ := not_or.1 hfresh
        refine ⟨⟨?_, ?_, ?_⟩, fun d' re' f' heq hpresent => ?_⟩
        · rw [hdvr]
          exact nodup_map_concat hone.dvrlistHead fun e he heq =>
            hinfo (List.mem_map.2 ⟨e, he, heq⟩)
        · rw [hdevice]
          exact nodup_map_concat hone.deviceListHead fun k hk heq =>
            hparam (List.mem_map.2 ⟨k, hk, heq⟩)
        · rintro l hl
          obtain rfl := Option.some.inj (hstored.symm.trans hl)
          exact nodup_hkDvrListConfigAdd hone.Dvrlist hconf
        · cases hadds.symm.trans heq
          exact absurd hpresent hfresh

theorem not_keepsOneEntry (hnot : ¬ NoSecondLogin s request) (h : requestStep s request s') :
    ¬ KeepsOneEntry s request s' := by
  simp only [NoSecondLogin, not_forall] at hnot
  obtain ⟨d, re, f, hadds, hok, hpresent, hnone⟩ := hnot
  rintro ⟨hone, hstreams⟩
  obtain ⟨junk, code, hadd⟩ := deviceAdd_of_adds hadds h
  rcases deviceAdd_cases (request.serial_of_adds hadds) hadd with
    ⟨-, -, -, held, hheld, hiff⟩ | ⟨-, -, -, hdvr, hdevice, -⟩
  · -- previews and queues are opened for a second time
    have hsame := hstreams d re f hadds hpresent
    rw [hheld, List.filter_append, List.append_right_eq_self, hiff] at hsame
    rcases hsame with hfail | hquiet
    · exact absurd hok (Int.not_le.2 hfail)
    · exact hnone hquiet
  · -- the NVR is linked for a second time
    rcases hpresent with hpresent | hpresent
    · have hnodup := hone.dvrlistHead
      rw [hdvr, List.map_append, List.nodup_append] at hnodup
      exact hnodup.2.2 _ hpresent _ (List.mem_singleton.2 rfl) rfl
    · have hnodup := hone.deviceListHead
      rw [hdevice, List.map_append, List.nodup_append] at hnodup
      exact hnodup.2.2 _ hpresent _ (List.mem_singleton.2 rfl) rfl

/-- **One entry for a serial number.** From lists and a configuration with one entry each, all requests of
    a history keep it that way and open nothing for an NVR that is present exactly when no login is made
    to an NVR that is present. -/
theorem one_entry_iff {tr : List DvrRequest} (hone : OneEntry s.reg) :
    Run (stepThat KeepsOneEntry requestStep) s tr s' ↔
      Run (stepWhen NoSecondLogin requestStep) s tr s' := by
  refine Run.each_iff (fun s => OneEntry s.reg) hone ?_ ?_
  · intro s request s' hone hsafe hstep
    have hkeeps := keepsOneEntry_of_noSecondLogin hone hsafe hstep
    exact ⟨hkeeps.1, hkeeps⟩
  · exact fun s request s' _ hnot hstep => not_keepsOneEntry hnot hstep

/-! ## The storage model

Where the serial numbers of the entries are left out, the requests are calls of the storage model. -/

/-- The lists as they are, without what is only written beside them. -/
def Registry.addresses (reg : Registry Entry Entry) : Registry Address Address where
  dvrlistHead := reg.dvrlistHead.map Entry.address
  deviceListHead := reg.deviceListHead.map Entry.address
  Dvrlist := reg.Dvrlist
  held := reg.held
  cameras := reg.cameras

/-- The call that is made for a request. -/
def DvrRequest.call : DvrRequest → Option Call
  | .add data re junk f =>
      data.map fun data => .deviceAdd (some (jsonMapsdkDeviceAddInfoPares data .zero)) re junk f
  | .apiInit re junk f => some (.deviceAdd (some hksdkApiInitDevInfo) re junk f)
  | .del data junk => data.map fun data => .deviceDel (some (jsonMapsdkDeviceDelInfoPares data .zero)) junk
  | .other μ => some (.other μ)

section

variable {info : Address → HkSdkDeviceInfo} {param : Address → HKDVRParam} {reg : Registry Entry Entry}
  {d : HKDVRParam} {devInfo : Option HKDVRParam}

theorem isAdded_addresses :
    reg.addresses.isAdded param d = reg.isAdded (fun k => param k.address) d := by
  rw [Registry.isAdded, Registry.isAdded, Registry.addresses, lookup_map, Option.isSome_map]
  rfl

theorem hksdkDeviceAdd_addresses (link : AddLocals → Entry × Entry) :
    hksdkDeviceAdd param (fun l => ((link l).1.address, (link l).2.address)) reg.addresses devInfo re junk =
      (hksdkDeviceAdd (fun k => param k.address) link reg devInfo re junk).map
        fun r => (r.1, r.2.addresses) := by
  cases devInfo with
  | none => rfl
  | some d =>
      rw [hksdkDeviceAdd, hksdkDeviceAdd, isAdded_addresses]
      cases hksdkDeviceAddEnd (reg.isAdded (fun k => param k.address) d) d re with
      | returns code held cameras => rfl
      | registers l =>
          simp only [Registry.addresses]
          cases hkDvrListConfigAdd junk l.HkDvrInfo reg.Dvrlist with
          | error e => rfl
          | ok conf => simp [Except.map]

theorem hksdkDeviceDel_addresses :
    hksdkDeviceDel info param reg.addresses devInfo junk =
      (hksdkDeviceDel (fun e => info e.address) (fun k => param k.address) reg devInfo junk).map
        fun r => (r.1, r.2.addresses) := by
  cases devInfo with
  | none => rfl
  | some d =>
      rw [hksdkDeviceDel, hksdkDeviceDel, isAdded_addresses]
      dsimp only
      split
      · simp only [Registry.addresses, lookup_map, eraseFirst_map, Function.comp_def]
        cases lookup (fun e => (info e.address).lDvrSerialNumber) d.serial reg.dvrlistHead with
        | none => rfl
        | some e =>
            simp only [Option.map_some]
            cases hkDvrListConfigDel junk d reg.Dvrlist with
            | error e => rfl
            | ok conf => rfl
      · rfl

end

/-- A request that is served is a call of the storage model, or no call. -/
theorem step_of_requestStep (asAdded : Records) (h : requestStep s request s') :
    ∃ asAdded', Run step ⟨s.μ, s.reg.addresses, asAdded⟩ request.call.toList
      ⟨s'.μ, s'.reg.addresses, asAdded'⟩ := by
  have hadd {d : HKDVRParam} {re : Replies} {junk : ℕ → DvrString} {f : Frame} {code : ℤ}
      (hfits : f.Fits s.μ) (h : s.deviceAdd d re junk f = .ok (code, s')) :
      ∃ asAdded', Run step ⟨s.μ, s.reg.addresses, asAdded⟩ [.deviceAdd (some d) re junk f]
        ⟨s'.μ, s'.reg.addresses, asAdded'⟩ := by
    obtain ⟨r, hr, heq⟩ := map_eq_ok_iff.1 h
    cases heq
    refine ⟨specStep asAdded (.deviceAdd (some d) re junk f), Run.nil.snoc ?_⟩
    have hcall : hksdkDeviceAdd (s.μ.zeroed f).dvrParam (fun _ => (f.dvrInfo, f.HkDvrInfo))
        s.reg.addresses (some d) re junk = (hksdkDeviceAdd
          (fun k : Entry => (s.μ.zeroed f).dvrParam k.address)
          (fun _ => (⟨f.dvrInfo, re.sSerialNumber⟩, ⟨f.HkDvrInfo, re.sSerialNumber⟩)) s.reg
          (some d) re junk).map fun r => (r.1, r.2.addresses) :=
      hksdkDeviceAdd_addresses
        fun _ => (⟨f.dvrInfo, re.sSerialNumber⟩, ⟨f.HkDvrInfo, re.sSerialNumber⟩)
    have hr' : hksdkDeviceAdd (fun k : Entry => (s.μ.zeroed f).dvrParam k.address)
        (fun _ => (⟨f.dvrInfo, re.sSerialNumber⟩, ⟨f.HkDvrInfo, re.sSerialNumber⟩)) s.reg (some d) re
        junk = .ok r := hr
    have hlooked : (fun d => s.reg.addresses.isAdded (s.μ.zeroed f).dvrParam d) = fun d =>
        s.reg.isAdded (fun k => (s.μ.zeroed f).dvrParam k.address) d := funext fun _ => isAdded_addresses
    rw [hr'] at hcall
    rw [step, stepFn, if_pos hfits]
    dsimp only at hcall ⊢
    rw [hcall, hlooked]
    rfl
  cases request with
  | add data re junk f =>
      obtain ⟨hfits, code, h⟩ := h
      cases data with
      | none =>
          cases h
          exact ⟨asAdded, .nil⟩
      | some data => exact hadd hfits h
  | apiInit re junk f =>
      obtain ⟨hfits, code, h⟩ := h
      exact hadd hfits h
  | del data junk =>
      obtain ⟨code, h⟩ := h
      cases data with
      | none =>
          cases h
          exact ⟨asAdded, .nil⟩
      | some data =>
          obtain ⟨r, hr, heq⟩ := map_eq_ok_iff.1 h
          cases heq
          refine ⟨specStep asAdded
            (.deviceDel (some (jsonMapsdkDeviceDelInfoPares data .zero)) junk), Run.nil.snoc ?_⟩
          rw [step, stepFn, hksdkDeviceDel_addresses, hr]
          rfl
  | other μ =>
      obtain ⟨hspares, rfl⟩ := h
      refine ⟨specStep asAdded (.other μ), Run.nil.snoc ?_⟩
      exact if_pos hspares

/-- A history of requests is a run of the storage model. -/
theorem run_calls {tr : List DvrRequest} (asAdded : Records) (h : Run requestStep s tr s') :
    ∃ asAdded', Run step ⟨s.μ, s.reg.addresses, asAdded⟩ (tr.flatMap fun request => request.call.toList)
      ⟨s'.μ, s'.reg.addresses, asAdded'⟩ := by
  induction h with
  | nil => exact ⟨asAdded, .nil⟩
  | snoc _ hstep ih =>
      obtain ⟨asAdded', hrun⟩ := ih
      obtain ⟨asAdded'', hcall⟩ := step_of_requestStep asAdded' hstep
      rw [List.flatMap_append, List.flatMap_singleton]
      exact ⟨asAdded'', hrun.append hcall⟩

/-! ## The same NVR twice -/

/-- A request to add the NVR that `HksdkApiInit` has added. -/
def addByAddress : CJson :=
  .object [("port", .number 8000), ("ipaddress", .string (.ofBuffer (ascii "10.67.1.68")))]

/-- An NVR with one camera, by the handles that are next. -/
def oneCamera (handle : ℤ) (serial : DvrString) : Replies :=
  { bareNvr handle serial with
    IpcamCfg := ⟨1, 0, fun _ => ⟨1, 1, 0⟩, fun _ => emptyArray _, one_le_netIpcMaxNum⟩
    lRealPlayHandle := fun _ => handle
    queueid := fun _ => handle + 1 }

/-- Nothing is allocated, no NVR is listed and an empty list is stored. -/
def noDvrs : Dvrs := ⟨blankStorage, .init _ _ (some [])⟩

def served (s : Dvrs) : DvrRequest → Option Dvrs
  | .add data re junk f =>
      if f.Fits s.μ then (funsdkDeviceAdd s data re junk f).toOption.map Prod.snd else none
  | .apiInit re junk f =>
      if f.Fits s.μ then (s.deviceAdd hksdkApiInitDevInfo re junk f).toOption.map Prod.snd else none
  | .del data junk => (funsdkDeviceDel s data junk).toOption.map Prod.snd
  | .other μ =>
      if s.μ.Spares μ (s.reg.dvrlistHead.map Entry.address ++ s.reg.deviceListHead.map Entry.address) then
        some { s with μ }
      else none

theorem requestStep_of_served (s : Dvrs) (request : DvrRequest) (s' : Dvrs)
    (h : served s request = some s') : requestStep s request s' := by
  have hok {x : Except Fault (ℤ × Dvrs)} (hx : x.toOption.map Prod.snd = some s') :
      ∃ code, x = .ok (code, s') := by
    cases x with
    | error e => cases hx
    | ok y => exact ⟨y.1, congrArg Except.ok (Prod.ext rfl (Option.some.inj hx))⟩
  cases request with
  | add data re junk f =>
      obtain ⟨hfits, hx⟩ := Option.ite_none_right_eq_some.1 h
      exact ⟨hfits, hok hx⟩
  | apiInit re junk f =>
      obtain ⟨hfits, hx⟩ := Option.ite_none_right_eq_some.1 h
      exact ⟨hfits, hok hx⟩
  | del data junk => exact hok h
  | other μ =>
      obtain ⟨hspares, hx⟩ := Option.ite_none_right_eq_some.1 h
      exact ⟨hspares, (Option.some.inj hx).symm⟩

/-- The NVR with number `A` that was added at the start is added again, from another place. -/
def addTwice : List DvrRequest :=
  [.apiInit (oneCamera 0 (letter 65)) (fun _ => emptyArray _) ⟨0, 1⟩,
    .add (some addByAddress) (oneCamera 1 (letter 65)) (fun _ => emptyArray _) ⟨2, 3⟩]

/-- The NVR is in the lists twice, and its camera has two streams and two queues. -/
theorem nvr_added_twice :
    ∃ s, Run requestStep noDvrs addTwice s ∧ ¬ OneEntry s.reg ∧
      (s.reg.held.filter Held.isStream).length = 4 := by
  have hserve : (evalRun served noDvrs addTwice).any fun s =>
      decide (s.reg.deviceListHead.map Entry.reported = [letter 65, letter 65] ∧
        (s.reg.held.filter Held.isStream).length = 4) := by decide
  obtain ⟨s, hrun, hserials, hstreams⟩ := Run.exists_of_eval requestStep_of_served hserve
  refine ⟨s, hrun, fun hone => ?_, hstreams⟩
  have hnodup := hone.deviceListHead
  rw [hserials] at hnodup
  exact absurd hnodup (by decide)

theorem oneEntry_noDvrs : OneEntry noDvrs.reg where
  dvrlistHead := .nil
  deviceListHead := .nil
  Dvrlist conf hconf := by
    obtain rfl := Option.some.inj hconf
    exact .nil

/-- The NVRs `A` and `B` are added from two places. A second request for `A` comes from the place of the
    one for `B`, and finds its own variables in the list; then `A` is deleted. -/
def addBoth : List DvrRequest :=
  [.apiInit (oneCamera 0 (letter 65)) (fun _ => emptyArray _) ⟨0, 1⟩,
    .add (some addByAddress) (oneCamera 1 (letter 66)) (fun _ => emptyArray _) ⟨2, 3⟩,
    .add (some addByAddress) (oneCamera 2 (letter 65)) (fun _ => emptyArray _) ⟨2, 3⟩,
    .del (some (.object [("sdvrserialnumber", .string (.ofBuffer [65]))])) fun _ => emptyArray _]

/-- Every request keeps one entry for each of the two, and `B` is left. -/
theorem one_entry_addBoth :
    ∃ s, Run (stepThat KeepsOneEntry requestStep) noDvrs addBoth s ∧
      s.reg.deviceListHead.map Entry.reported = [letter 66] := by
  obtain ⟨s, hrun, hlisted⟩ : ∃ s, Run (stepWhen NoSecondLogin requestStep) noDvrs addBoth s ∧
      s.reg.deviceListHead.map Entry.reported = [letter 66] :=
    Run.exists_of_eval (stepWhen_of_eval requestStep_of_served) (by decide)
  exact ⟨s, (one_entry_iff oneEntry_noDvrs).2 hrun, hlisted⟩

end SmartPlat.HkSdkManage
