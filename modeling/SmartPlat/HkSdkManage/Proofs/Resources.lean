import SmartPlat.HkSdkManage.Proofs.Ownership

set_option autoImplicit false

/-! # What adding and deleting an NVR leaves in use

The lists hold addresses, and what they record is what the storage holds there. `HksdkDeviceAdd` takes
handles one after the other and gives none back, wherever it stops; `HksdkDeviceDel` gives back what the
slots of a record say. -/

namespace SmartPlat.HkSdkManage

open SmartPlat.Lib

variable {re : Replies} {junk : ℕ → DvrString} {μ : Storage} {f : Frame}
  {reg : Registry Address Address} {devInfo : Option HKDVRParam} {lasts : Address → Prop}

/-! ## The properties -/

/-- The record says that a handle is in use. -/
def HkSdkDeviceInfo.Names (d : HkSdkDeviceInfo) : Held → Prop
  | .login u => d.lUserID = u
  | .alarm h _ => d.lhandle = h
  | .realPlay h _ => ∃ i, d.lRealPlayHandle i = h
  | .queue q _ => ∃ i, d.lqueueId i = q

/-- `HksdkDeviceAdd` records all it has acquired when it adds the NVR, in records that last, and leaves
    nothing behind otherwise. Its variables are at `f`, and a record is read when it has returned. -/
def AddAtomic (lasts : Address → Prop) (μ : Storage) (reg : Registry Address Address)
    (devInfo : Option HKDVRParam) (re : Replies) (junk : ℕ → DvrString) (f : Frame) : Prop :=
  let found (d : HKDVRParam) := reg.isAdded (μ.zeroed f).dvrParam d
  match hksdkDeviceAdd (μ.zeroed f).dvrParam (fun _ => (f.dvrInfo, f.HkDvrInfo)) reg devInfo re junk with
  | .error _ => False
  | .ok (code, reg') =>
      if code = keyTrue ∧ devInfo.all (fun d => !found d) then
        ∃ d p held, reg'.dvrlistHead = reg.dvrlistHead ++ [d] ∧
          reg'.deviceListHead = reg.deviceListHead ++ [p] ∧ lasts d ∧ lasts p ∧
          reg'.held = reg.held ++ held ∧
          ∀ h ∈ held, ((μ.returned f found devInfo re).deviceInfo d).Names h
      else
        reg'.held = reg.held ∧ reg'.cameras = reg.cameras ∧
          reg'.dvrlistHead = reg.dvrlistHead ∧ reg'.deviceListHead = reg.deviceListHead

/-- `HksdkDeviceDel` fails without a change to the lists and the configuration, or takes the NVR out
    of all three and releases what was opened on its login and nothing else. -/
def DelAtomic (μ : Storage) (reg : Registry Address Address) (devInfo : Option HKDVRParam)
    (junk : ℕ → DvrString) : Prop :=
  match hksdkDeviceDel μ.deviceInfo μ.dvrParam reg devInfo junk with
  | .error _ => False
  | .ok (code, reg') =>
      if code = keyTrue then
        ∃ p d, devInfo = some p ∧
          lookup (fun a => (μ.deviceInfo a).lDvrSerialNumber) p.serial reg.dvrlistHead = some d ∧
          reg'.held = reg.held.filter (fun h => h.lUserID ≠ (μ.deviceInfo d).lUserID) ∧
          reg'.dvrlistHead =
            reg.dvrlistHead.filter (fun a => (μ.deviceInfo a).lDvrSerialNumber ≠ p.serial) ∧
          reg'.deviceListHead = reg.deviceListHead.filter (fun a => (μ.dvrParam a).serial ≠ p.serial) ∧
          reg'.Dvrlist = reg.Dvrlist.map (List.filter fun c => c.serialnumber ≠ p.serial)
      else
        reg'.dvrlistHead = reg.dvrlistHead ∧ reg'.deviceListHead = reg.deviceListHead ∧
          reg'.Dvrlist = reg.Dvrlist

/-! ## When they hold -/

/-- A list is stored, and no longer than the array it is read into. -/
def DvrlistFits : Option (List DvrConf) → Prop
  | none => False
  | some conf => conf.length ≤ netDvrMaxLen

instance : (conf : Option (List DvrConf)) → Decidable (DvrlistFits conf)
  | none => .isFalse id
  | some conf => inferInstanceAs (Decidable (conf.length ≤ netDvrMaxLen))

theorem dvrlistFits_iff {conf : Option (List DvrConf)} :
    DvrlistFits conf ↔ ∃ l, conf = some l ∧ l.length ≤ netDvrMaxLen := by
  cases conf with
  | none => simp [DvrlistFits]
  | some l => simp [DvrlistFits]

/-- When the login succeeds, the alarm channel has to fail, the NVR must not be in the list as it is read
    once the variables are zero, every queue must be created, the configuration must fit the array it is
    read into, and the variables must last. -/
def AddSafe (lasts : Address → Prop) (μ : Storage) (reg : Registry Address Address)
    (devInfo : Option HKDVRParam) (re : Replies) (f : Frame) : Prop :=
  ∀ d, devInfo = some d → 0 ≤ re.lUserID →
    re.lHandle < 0 ∧ reg.isAdded (μ.zeroed f).dvrParam d = false ∧ re.Queued ∧
      DvrlistFits reg.Dvrlist ∧ lasts f.dvrInfo ∧ lasts f.HkDvrInfo

/-- No alarm channel is open on the login of the record, and its slots name the previews and queues
    of this login and of no other: a slot that was never filled in names preview and queue `0`. -/
structure OwnSlots (held : List Held) (d : HkSdkDeviceInfo) : Prop where
  alarm : ∀ a u, .alarm a u ∈ held → u ≠ d.lUserID
  realPlay : ∀ h u, .realPlay h u ∈ held →
    (u = d.lUserID ↔ 0 ≤ h ∧ ∃ i, d.lRealPlayHandle i = h)
  queue : ∀ q u, .queue q u ∈ held → (u = d.lUserID ↔ 0 ≤ q ∧ ∃ i, d.lqueueId i = q)

/-- An NVR that is in the list of clients is in the list of handles too, no second entry of the lists
    or of the configuration has its serial number, and its record has the slots of its login. -/
def DelSafe (μ : Storage) (reg : Registry Address Address) (devInfo : Option HKDVRParam) : Prop :=
  ∀ p, devInfo = some p → reg.isAdded μ.dvrParam p = true →
    reg.dvrlistHead.countP (fun a => (μ.deviceInfo a).lDvrSerialNumber = p.serial) ≤ 1 ∧
    reg.deviceListHead.countP (fun a => (μ.dvrParam a).serial = p.serial) ≤ 1 ∧
    (∃ conf, reg.Dvrlist = some conf ∧ conf.length ≤ netDvrMaxLen ∧
      conf.countP (fun c => c.serialnumber = p.serial) ≤ 1) ∧
    ∃ d, lookup (fun a => (μ.deviceInfo a).lDvrSerialNumber) p.serial reg.dvrlistHead = some d ∧
      OwnSlots reg.held (μ.deviceInfo d)

/-! ## The configuration -/

/-- The search stops at the first item with the number, or past the items. -/
theorem hkDvrListConfigFind_spec (junk : ℕ → DvrString) (serial : DvrString) {conf : List DvrConf}
    (h : conf.length ≤ netDvrMaxLen) :
    ∃ i, hkDvrListConfigFind junk serial conf = .ok i ∧
      (∀ j (hj : j < conf.length), j < i → conf[j].serialnumber ≠ serial) ∧
      ∀ hi : i < conf.length, conf[i].serialnumber = serial := by
  rw [hkDvrListConfigFind, if_pos h]
  refine ⟨_, rfl, ?_⟩
  dsimp only
  cases hfind : List.find? (fun i => decide ((conf[i]?.map DvrConf.serialnumber).getD (junk i) =
      serial)) (List.range netDvrMaxLen) with
  | none =>
      refine ⟨fun j hj _ => ?_, fun hi => absurd hi (Nat.not_lt.2 h)⟩
      have hnone := List.find?_eq_none.1 hfind j (List.mem_range.2 (Nat.lt_of_lt_of_le hj h))
      simpa [hj] using hnone
  | some i =>
      obtain ⟨hat, -, hbefore⟩ := List.find?_range_eq_some.1 hfind
      refine ⟨fun j hj hji => ?_, fun hi => ?_⟩
      · simpa [hj] using hbefore j hji
      · rw [Option.getD_some] at hi
        simpa [hi] using hat

/-- What lies past the items is not deleted. -/
theorem hkDvrListConfigDel_eq (junk : ℕ → DvrString) (p : HKDVRParam) {conf : List DvrConf}
    (h : conf.length ≤ netDvrMaxLen) :
    hkDvrListConfigDel junk p (some conf) = .ok (eraseFirst DvrConf.serialnumber p.serial conf) := by
  obtain ⟨i, hi, hbefore, hat⟩ := hkDvrListConfigFind_spec junk p.serial h
  rw [hkDvrListConfigDel, editConf, hi]
  refine congrArg Except.ok ?_
  show conf.eraseIdx i = _
  by_cases hlt : i < conf.length
  · have hidx : conf.findIdx? (fun c => decide (c.serialnumber = p.serial)) = some i := by
      rw [List.findIdx?_eq_some_iff_getElem]
      refine ⟨hlt, by simpa using hat hlt, fun j hji => ?_⟩
      simpa using hbefore j (by omega) hji
    rw [eraseFirst, List.eraseP_eq_eraseIdx, hidx]
  · rw [List.eraseIdx_of_length_le (Nat.not_lt.1 hlt), eraseFirst, List.eraseP_of_forall_not]
    intro c hc
    obtain ⟨j, hj, rfl⟩ := List.mem_iff_getElem.1 hc
    simpa using hbefore j hj (by omega)

/-- An edit of the configuration returns when there is a list and it fits. -/
theorem editConf_ok_iff {serial : DvrString} {edit : ℕ → List DvrConf → List DvrConf}
    {conf : Option (List DvrConf)} :
    (∃ conf', editConf junk serial edit conf = .ok conf') ↔ DvrlistFits conf := by
  cases conf with
  | none =>
      refine iff_of_false ?_ id
      rintro ⟨conf', hok⟩
      cases hok
  | some conf =>
      rw [editConf, hkDvrListConfigFind, DvrlistFits]
      split
      · next h => exact ⟨fun _ => h, fun _ => ⟨_, rfl⟩⟩
      · next h =>
          refine ⟨?_, fun h' => absurd h' h⟩
          rintro ⟨conf', hok⟩
          cases hok

theorem editConf_error {serial : DvrString} {edit : ℕ → List DvrConf → List DvrConf} :
    {conf : Option (List DvrConf)} → ¬ DvrlistFits conf → editConf junk serial edit conf = .error .badAccess
  | none, _ => rfl
  | some conf, h => by
      rw [editConf, hkDvrListConfigFind, if_neg (show ¬ conf.length ≤ netDvrMaxLen from h)]
      rfl

/-! ## Adding -/

/-- The record names all that was acquired but the alarm channel. -/
theorem registers_names {devInfo : HKDVRParam} {found : Bool} {l : AddLocals}
    (h : hksdkDeviceAddEnd found devInfo re = .registers l) :
    (∀ held ∈ l.held, l.dvrInfo.Names held) ↔ re.lHandle < 0 := by
  rw [hksdkDeviceAddEnd] at h
  split at h
  · cases h
  split at h
  · cases h
  split at h
  · cases h
  next hadd =>
    cases h
    obtain ⟨huser, hlisten, hheld, hslots⟩ := addChannels_spec hadd
    have hchannel : ∀ held ∈ (channelsOf re.IpcamCfg).flatMap (channelHeld re),
        l.dvrInfo.Names held := by
      intro held hmem
      obtain ⟨i, hi, hmem⟩ := List.mem_flatMap.1 hmem
      have hplay := (hslots i).1
      have hqueue := (hslots i).2.1
      rw [if_pos hi, channelSlot] at hplay hqueue
      rw [channelHeld, acquired] at hmem
      split at hmem
      · cases hmem
      · next hon =>
          rw [if_neg hon] at hplay hqueue
          rcases List.mem_append.1 hmem with hmem | hmem
          · split at hmem
            · cases hmem
            · obtain rfl := List.mem_singleton.1 hmem
              exact ⟨i, hplay⟩
          · obtain rfl := List.mem_singleton.1 hmem
            exact ⟨i, hqueue⟩
    rw [hheld, List.forall_mem_append, addLocals, List.forall_mem_cons, acquired]
    constructor
    · rintro ⟨⟨-, halarm⟩, -⟩
      by_contra hopen
      rw [if_neg hopen, List.forall_mem_singleton, HkSdkDeviceInfo.Names, hlisten] at halarm
      exact hopen (halarm ▸ show (-1 : ℤ) < 0 by decide)
    · intro hclosed
      rw [if_pos hclosed]
      exact ⟨⟨huser, List.forall_mem_nil _⟩, hchannel⟩

/-- Whatever is acquired after a login stays acquired. -/
theorem login_mem_of_returns {devInfo : HKDVRParam} {found : Bool} {code : ℤ} {held : List Held}
    {cameras : List DvrOpt} (hlogin : 0 ≤ re.lUserID)
    (h : hksdkDeviceAddEnd found devInfo re = .returns code held cameras) :
    .login re.lUserID ∈ held := by
  have hfirst : Held.login re.lUserID ∈ (addLocals devInfo re).held := List.mem_cons_self
  rw [hksdkDeviceAddEnd, if_neg (Int.not_lt.2 hlogin)] at h
  split at h
  · cases h
    exact hfirst
  · split at h
    · next hadd =>
        cases h
        have hpre := addChannels_prefix re (channelsOf re.IpcamCfg) (addLocals devInfo re)
        rw [hadd] at hpre
        exact hpre.subset hfirst
    · cases h

/-- What is read at the entry of a call that has linked its records. -/
theorem returned_of_registers {d : HKDVRParam} {found : HKDVRParam → Bool} {l : AddLocals}
    (h : hksdkDeviceAddEnd (found d) d re = .registers l) :
    (μ.returned f found (some d) re).deviceInfo f.dvrInfo = l.dvrInfo := by
  have hlocals : (addEndLocals (μ.deviceInfo f.dvrInfo) found (some d) re).1 = l.dvrInfo := by
    rw [hksdkDeviceAddEnd] at h
    split at h
    · cases h
    next hlogin =>
      split at h
      · cases h
      next hfound =>
        split at h
        · cases h
        next hadd =>
          cases h
          rw [addEndLocals, if_neg hlogin, if_neg hfound, hadd]
  rw [Storage.returned, Storage.setLocals]
  exact (Function.update_self _ _ _).trans hlocals

theorem addAtomic_iff : AddAtomic lasts μ reg devInfo re junk f ↔ AddSafe lasts μ reg devInfo re f := by
  cases devInfo with
  | none =>
      refine iff_of_true ⟨rfl, rfl, rfl, rfl⟩ ?_
      rintro d hd
      cases hd
  | some d =>
      have hsafe : AddSafe lasts μ reg (some d) re f ↔ (0 ≤ re.lUserID → re.lHandle < 0 ∧
          reg.isAdded (μ.zeroed f).dvrParam d = false ∧ re.Queued ∧ DvrlistFits reg.Dvrlist ∧
          lasts f.dvrInfo ∧ lasts f.HkDvrInfo) := by
        simp [AddSafe]
      rw [hsafe, AddAtomic, hksdkDeviceAdd]
      cases hend : hksdkDeviceAddEnd (reg.isAdded (μ.zeroed f).dvrParam d) d re with
      | returns code held cameras =>
          dsimp only
          by_cases hlogin : 0 ≤ re.lUserID
          · -- the login has succeeded and is not given back
            have hmem := login_mem_of_returns hlogin hend
            refine iff_of_false ?_ ?_
            · split
              · rintro ⟨a, -, -, hlist, -⟩
                simp at hlist
              · rintro ⟨hheld, -⟩
                rw [List.append_right_eq_self] at hheld
                rw [hheld] at hmem
                cases hmem
            · intro h
              obtain ⟨-, hfound, hqueued, -⟩ := h hlogin
              have hregisters : ∃ l,
                  hksdkDeviceAddEnd (reg.isAdded (μ.zeroed f).dvrParam d) d re = .registers l :=
                registers_iff.2 ⟨hlogin, hfound, hqueued⟩
              simp [hend] at hregisters
          · rw [hksdkDeviceAddEnd, if_pos (Int.not_le.1 hlogin)] at hend
            cases hend
            refine iff_of_true ?_ (fun h => absurd h hlogin)
            rw [if_neg (fun h => absurd h.1 (by decide))]
            exact ⟨List.append_nil _, List.append_nil _, rfl, rfl⟩
      | registers l =>
          obtain ⟨hlogin, hfound, hqueued⟩ := registers_iff.1 ⟨l, hend⟩
          have hnames := registers_names hend
          have hread := returned_of_registers (μ := μ) (f := f) hend
          dsimp only
          by_cases hfits : DvrlistFits reg.Dvrlist
          · obtain ⟨conf, hconf⟩ := editConf_ok_iff.2 hfits
            rw [hkDvrListConfigAdd, hconf]
            show (if _ then _ else _) ↔ _
            rw [if_pos ⟨rfl, by simp [hfound]⟩]
            constructor
            · rintro ⟨a, b, held, hlist, hdevice, hlasts, hlasts', hheld, hall⟩ -
              obtain rfl := List.append_cancel_left hheld
              obtain rfl : f.dvrInfo = a := by simpa using hlist
              obtain rfl : f.HkDvrInfo = b := by simpa using hdevice
              rw [hread] at hall
              exact ⟨hnames.1 hall, hfound, hqueued, hfits, hlasts, hlasts'⟩
            · intro h
              obtain ⟨halarm, -, -, -, hlasts, hlasts'⟩ := h hlogin
              refine ⟨f.dvrInfo, f.HkDvrInfo, l.held, rfl, rfl, hlasts, hlasts', rfl, ?_⟩
              rw [hread]
              exact hnames.2 halarm
          · -- no list, or more entries than the array of serial numbers has room for
            refine iff_of_false ?_ (fun h => hfits (h hlogin).2.2.2.1)
            rw [hkDvrListConfigAdd, editConf_error hfits]
            exact not_false

/-! ## Deleting -/

/-- What a record releases is what was opened on its login, when it has the slots of its login. -/
theorem filter_releases_iff {held : List Held} {d : HkSdkDeviceInfo} :
    (held.filter fun h => !d.releases h) = held.filter (fun h => h.lUserID ≠ d.lUserID) ↔
      OwnSlots held d := by
  constructor
  · intro heq
    have hmem : ∀ h ∈ held, (h.lUserID = d.lUserID ↔ d.releases h = true) := by
      intro h hh
      have hiff : h ∈ (held.filter fun h => !d.releases h) ↔
          h ∈ held.filter (fun h => h.lUserID ≠ d.lUserID) := by rw [heq]
      simp only [List.mem_filter, hh, true_and, Bool.not_eq_true', decide_eq_true_iff] at hiff
      rw [← not_iff_not, Bool.not_eq_true]
      exact hiff.symm
    refine ⟨fun a u ha hu => ?_, fun h u hh => ?_, fun q u hq => ?_⟩
    · exact absurd ((hmem _ ha).1 hu) Bool.false_ne_true
    · simpa [HkSdkDeviceInfo.releases, Held.lUserID] using hmem _ hh
    · simpa [HkSdkDeviceInfo.releases, Held.lUserID] using hmem _ hq
  · intro hown
    refine List.filter_congr fun h hh => ?_
    rw [eq_comm, Bool.eq_iff_iff, Bool.not_eq_true', decide_eq_true_iff, ← Bool.not_eq_true,
      not_iff_not]
    cases h with
    | login u => simp [HkSdkDeviceInfo.releases, Held.lUserID]
    | alarm a u => exact iff_of_false (hown.alarm a u hh) Bool.false_ne_true
    | realPlay h u => simpa [HkSdkDeviceInfo.releases, Held.lUserID] using hown.realPlay h u hh
    | queue q u => simpa [HkSdkDeviceInfo.releases, Held.lUserID] using hown.queue q u hh

theorem delAtomic_iff : DelAtomic μ reg devInfo junk ↔ DelSafe μ reg devInfo := by
  cases devInfo with
  | none =>
      refine iff_of_true ⟨rfl, rfl, rfl⟩ ?_
      rintro p hp
      cases hp
  | some p =>
      have hsafe : DelSafe μ reg (some p) ↔ (reg.isAdded μ.dvrParam p = true →
          reg.dvrlistHead.countP (fun a => (μ.deviceInfo a).lDvrSerialNumber = p.serial) ≤ 1 ∧
          reg.deviceListHead.countP (fun a => (μ.dvrParam a).serial = p.serial) ≤ 1 ∧
          (∃ conf, reg.Dvrlist = some conf ∧ conf.length ≤ netDvrMaxLen ∧
            conf.countP (fun c => c.serialnumber = p.serial) ≤ 1) ∧
          ∃ d, lookup (fun a => (μ.deviceInfo a).lDvrSerialNumber) p.serial reg.dvrlistHead = some d ∧
            OwnSlots reg.held (μ.deviceInfo d)) := by
        simp [DelSafe]
      rw [hsafe, DelAtomic, hksdkDeviceDel]
      by_cases hadded : reg.isAdded μ.dvrParam p = true
      · rw [if_pos hadded]
        simp only [hadded, forall_const]
        cases hd : lookup (fun a => (μ.deviceInfo a).lDvrSerialNumber) p.serial reg.dvrlistHead with
        | none =>
            -- the NVR is out of the list of clients already
            refine iff_of_false ?_ ?_
            · have hgone := eraseFirst_ne_self hadded
              rintro ⟨-, hsame, -⟩
              exact hgone hsame
            · rintro ⟨-, -, -, d, hsome, -⟩
              cases hsome
        | some d =>
            by_cases hfits : DvrlistFits reg.Dvrlist
            · obtain ⟨conf, hconf, hfits⟩ := dvrlistFits_iff.1 hfits
              rw [hconf]
              rw [hkDvrListConfigDel_eq junk p hfits]
              show (if _ then _ else _) ↔ _
              rw [if_pos rfl]
              constructor
              · rintro ⟨p', d', hp, hd', hheld, hinfo, hparam, hdvr⟩
                cases hp
                cases hd.symm.trans hd'
                exact ⟨eraseFirst_eq_filter_iff.1 hinfo, eraseFirst_eq_filter_iff.1 hparam,
                  ⟨conf, rfl, hfits, eraseFirst_eq_filter_iff.1 (Option.some.inj hdvr)⟩, d, rfl,
                  filter_releases_iff.1 hheld⟩
              · rintro ⟨hinfo, hparam, ⟨conf', hconf', -, hdvr⟩, d', hd', hown⟩
                cases hconf'
                cases hd'
                exact ⟨p, d, rfl, hd, filter_releases_iff.2 hown, eraseFirst_eq_filter_iff.2 hinfo,
                  eraseFirst_eq_filter_iff.2 hparam, congrArg some (eraseFirst_eq_filter_iff.2 hdvr)⟩
            · refine iff_of_false ?_ ?_
              · rw [hkDvrListConfigDel, editConf_error hfits]
                exact not_false
              · rintro ⟨-, -, ⟨conf, hconf, hlength, -⟩, -⟩
                exact hfits (dvrlistFits_iff.2 ⟨conf, hconf, hlength⟩)
      · refine iff_of_true ?_ (fun h => absurd h hadded)
        rw [if_neg hadded]
        exact ⟨rfl, rfl, rfl⟩

/-! ## The two calls -/

/-- Variables are no storage that lasts: records that are linked are not kept. -/
theorem addSafe_live (hf : f.Fits μ) :
    AddSafe (· ∈ μ.live) μ reg devInfo re f ↔ ∀ d, devInfo = some d → re.lUserID < 0 := by
  refine forall₂_congr fun d hd => ⟨fun h => ?_, fun h hlogin => absurd hlogin (Int.not_le.2 h)⟩
  by_contra hlogin
  exact hf.2.1 (h (Int.not_lt.1 hlogin)).2.2.2.2.1

/-- **Adding and deleting are atomic** exactly when nothing is acquired that the records have no place
    for, and a record that is deleted has the slots of its login. As a record is to last, nothing may be
    acquired at all. -/
theorem calls_atomic (μ : Storage) (reg : Registry Address Address) :
    (∀ lasts devInfo re junk f,
      AddAtomic lasts μ reg devInfo re junk f ↔ AddSafe lasts μ reg devInfo re f) ∧
    (∀ devInfo re junk f, f.Fits μ → (AddAtomic (· ∈ μ.live) μ reg devInfo re junk f ↔
      ∀ d, devInfo = some d → re.lUserID < 0)) ∧
    ∀ devInfo junk, DelAtomic μ reg devInfo junk ↔ DelSafe μ reg devInfo :=
  ⟨fun _ _ _ _ _ => addAtomic_iff, fun _ _ _ _ hf => addAtomic_iff.trans (addSafe_live hf),
    fun _ _ => delAtomic_iff⟩

/-! ## Two NVRs -/

/-- The record of an NVR without cameras. -/
def bareRecord (lUserID : ℤ) (serial : DvrString) : HkSdkDeviceInfo :=
  { HkSdkDeviceInfo.zero with lUserID, lhandle := -1, lDvrSerialNumber := serial }

/-- The record of an NVR that shows its first camera by preview `0` and queue `1`. -/
def firstCamera : HkSdkDeviceInfo :=
  { bareRecord 0 (letter 65) with
    lChannel := Function.update (fun _ => 0) 0 1
    lqueueId := Function.update (fun _ => 0) 0 1 }

/-- Two places in the program have added an NVR each. -/
def twoRecords : Storage where
  live := ∅
  deviceInfo := Function.update (fun _ => bareRecord 1 (letter 66)) 0 firstCamera
  dvrParam := Function.update (fun _ => requestOf (letter 66)) 1 (requestOf (letter 65))

/-- NVR `A` shows a camera; NVR `B` has no cameras, and no alarm channel is open on either. -/
def twoNvrs : Registry Address Address where
  dvrlistHead := [0, 2]
  deviceListHead := [1, 3]
  Dvrlist := some [jsonMapDvrInfoMake (requestOf (letter 65)), jsonMapDvrInfoMake (requestOf (letter 66))]
  held := [.login 0, .realPlay 0 0, .queue 1 0, .login 1]
  cameras := []

/-- The alarm channel of the first NVR ever added is in no record, though it be read at once; and
    deleting `B` stops the preview of `A`. -/
theorem alarm_lost_and_preview_stopped :
    ¬ AddAtomic (fun _ => True) blankStorage (.init _ _ (some [])) (some (requestOf (letter 65)))
        (bareNvr 0 (letter 65)) (fun _ => emptyArray _) ⟨0, 1⟩ ∧
      ¬ DelAtomic twoRecords twoNvrs (some (requestOf (letter 66))) (fun _ => emptyArray _) := by
  refine ⟨fun hadd => ?_, fun hdel => ?_⟩
  · have hsafe := addAtomic_iff.1 hadd _ rfl (by decide)
    exact absurd hsafe.1 (by decide)
  · obtain ⟨-, -, -, d, hd, hown⟩ := delAtomic_iff.1 hdel _ rfl (by decide)
    have hlookup : lookup (fun a => (twoRecords.deviceInfo a).lDvrSerialNumber) (letter 66)
        twoNvrs.dvrlistHead = some 2 := by decide
    obtain rfl := Option.some.inj (hd.symm.trans hlookup)
    have hother := (hown.realPlay 0 0 (by decide)).2 ⟨le_rfl, 0, rfl⟩
    exact absurd hother (by decide)

/-- A login that fails leaves nothing behind, and `A` can be deleted beside `B`. -/
theorem calls_atomic_twoNvrs :
    AddAtomic (· ∈ twoRecords.live) twoRecords twoNvrs (some (requestOf (letter 67)))
        (bareNvr (-1) (letter 67)) (fun _ => emptyArray _) ⟨4, 5⟩ ∧
      DelAtomic twoRecords twoNvrs (some (requestOf (letter 65))) (fun _ => emptyArray _) := by
  obtain ⟨-, hadd, hdel⟩ := calls_atomic twoRecords twoNvrs
  refine ⟨(hadd _ _ _ ⟨4, 5⟩ (by decide)).2 fun _ _ => by decide, (hdel _ _).2 fun p hp hadded => ?_⟩
  cases hp
  refine ⟨by decide, by decide, ⟨_, rfl, by decide, by decide⟩, 0, by decide, ?_, ?_, ?_⟩
  · simp [twoNvrs]
  · simp [twoNvrs, twoRecords, firstCamera, bareRecord, HkSdkDeviceInfo.zero]
  · rintro q u hq
    obtain ⟨rfl, rfl⟩ : q = 1 ∧ u = 0 := by simpa [twoNvrs] using hq
    exact iff_of_true rfl ⟨by decide, 0, rfl⟩

end SmartPlat.HkSdkManage
