import SmartPlat.DeviceManage.CameraList
import SmartPlat.Lib.Transition

set_option autoImplicit false

/-! # The list of cameras and the camera table

The table is a map from ids to records, and each callback a write to it that fails or not. The list is
changed before the callback is called and stays changed when it fails; `SetDeviceInfo` takes the id of
the record it is handed for granted, and `DelDevice` accepts fewer ids than `AddDevice`. -/

namespace SmartPlat.DeviceManage

open SmartPlat.Lib

/-! ## The table as a map -/

abbrev DeviceMap := CString → Option DeviceStorageInfo

/-- What a callback does that returns `rc`: a failure leaves the map alone. -/
def mapWrite (rc : ℤ) (f : DeviceMap → DeviceMap) (db : DeviceMap) : ℤ × DeviceMap :=
  (rc, if rc = keyTrue then f db else db)

/-- Callbacks on the map, each of which returns `rc`. -/
def mapHandle (rc : ℤ) : MySqlManage DeviceMap where
  pAddDevice := some fun info => mapWrite rc fun db => Function.update db info.id (some info)
  pDelDevice := some fun deviceID => mapWrite rc fun db => Function.update db deviceID none
  pSetDeviceInfo := some fun info => mapWrite rc fun db => Function.update db info.id (some info)

/-- Ids are distinct, and the list and the map hold the same records. -/
structure Mirrors (s : DeviceListInner DeviceMap) : Prop where
  ids : (s.listHead.map DeviceStorageInfo.id).Nodup
  db : s.db = fun deviceID => getHandleByStr deviceID s.listHead

/-- `DelDevice` removes each camera of the list, when the database lets it. -/
def Removable (s : DeviceListInner DeviceMap) : Prop :=
  ∀ info ∈ s.listHead, ∃ s', delDevice (mapHandle keyTrue) info.id s = (keyTrue, s') ∧
    getHandleByStr info.id s'.listHead = none

/-- A call, with what its callback returns. -/
def DeviceStep (s : DeviceListInner DeviceMap) (l : DeviceCall × ℤ)
    (s' : DeviceListInner DeviceMap) : Prop :=
  (l.1.run (mapHandle l.2) s).2 = s'

/-- The call leaves a list that mirrors the map, and whose cameras can be removed; a call that fails
    leaves both alone. -/
def Consistent (s : DeviceListInner DeviceMap) (l : DeviceCall × ℤ)
    (s' : DeviceListInner DeviceMap) : Prop :=
  Mirrors s' ∧ Removable s' ∧ ((l.1.run (mapHandle l.2) s).1 ≠ keyTrue → s' = s)

/-- When a call comes out so: it is refused before its callback is called, or the callback succeeds; a
    camera that is added has an id of at most 32 bytes, and a record that is set the id it is set
    under. (Setting the record that is there may fail.) -/
def CallSafe (s : DeviceListInner DeviceMap) : DeviceCall × ℤ → Prop
  | (.addDevice info, rc) => ∀ new, info = some new → new.id.strlen ≠ 0 →
      getHandleByStr new.id s.listHead = none → rc = keyTrue ∧ new.id.strlen ≤ 32
  | (.delDevice deviceID, rc) => deviceID.strlen ≤ 32 → deviceID.strlen ≠ 0 →
      (getHandleByStr deviceID s.listHead).isSome → rc = keyTrue
  | (.setDeviceInfo deviceID info, rc) => ∀ new old, info = some new → deviceID.strlen ≠ 0 →
      getHandleByStr deviceID s.listHead = some old →
        new.id = deviceID ∧ (rc = keyTrue ∨ new = old)

variable {s s' s₀ : DeviceListInner DeviceMap} {rc : ℤ}

/-! ## One lemma for each call -/

theorem keyFalse_ne : keyFalse ≠ keyTrue := by decide

theorem keyNotfound_ne : keyNotfound ≠ keyTrue := by decide

/-- The record of an id is read as the map has it. -/
theorem Mirrors.getDeviceInfo (hm : Mirrors s) {deviceID : CString} (h : deviceID.strlen ≠ 0) :
    (DeviceManage.getDeviceInfo deviceID s).2 = s.db deviceID := by
  rw [DeviceManage.getDeviceInfo, if_neg h, hm.db]
  simp only
  cases getHandleByStr deviceID s.listHead <;> rfl

/-- The ids that `DelDevice` takes. -/
theorem removable_iff (hm : Mirrors s) :
    Removable s ↔ ∀ info ∈ s.listHead, info.id.strlen ≤ 32 ∧ info.id.strlen ≠ 0 := by
  constructor
  · intro h info hinfo
    obtain ⟨s', hdel, -⟩ := h info hinfo
    rw [delDevice] at hdel
    split at hdel
    · exact absurd (Prod.mk.inj hdel).1 keyFalse_ne
    · split at hdel
      · exact absurd (Prod.mk.inj hdel).1 keyNotfound_ne
      · next hlong hempty => exact ⟨Nat.le_of_not_lt hlong, hempty⟩
  · intro h info hinfo
    obtain ⟨hlong, hempty⟩ := h info hinfo
    have hfound : getHandleByStr info.id s.listHead = some info := lookup_of_mem hm.ids hinfo
    rw [delDevice, if_neg (Nat.not_lt.2 hlong), if_neg hempty, hfound]
    refine ⟨_, rfl, ?_⟩
    exact (lookup_eraseFirst hm.ids hfound info.id).trans (Function.update_self _ _ _)

theorem consistent_of_refused (hm : Mirrors s) (hr : Removable s) {c : DeviceCall} (code : ℤ)
    (hrun : c.run (mapHandle rc) s = (code, s)) (hs : DeviceStep s (c, rc) s') :
    Consistent s (c, rc) s' := by
  obtain rfl : s = s' := (congrArg Prod.snd hrun).symm.trans hs
  exact ⟨hm, hr, fun _ => rfl⟩

theorem addDevice_iff (hm : Mirrors s) (hr : Removable s) {info : Option DeviceStorageInfo}
    (hs : DeviceStep s (.addDevice info, rc) s') :
    Consistent s (.addDevice info, rc) s' ↔ CallSafe s (.addDevice info, rc) := by
  cases info with
  | none =>
    refine iff_of_true (consistent_of_refused hm hr _ rfl hs) fun new h => absurd h (by simp)
  | some new =>
    by_cases hempty : new.id.strlen = 0
    · refine iff_of_true (consistent_of_refused hm hr keyFalse ?_ hs) ?_
      · rw [DeviceCall.run, addDevice, if_pos hempty]
      · intro new' h hne
        exact absurd (Option.some.inj h ▸ hempty) hne
    cases hfound : getHandleByStr new.id s.listHead with
    | some old =>
      refine iff_of_true (consistent_of_refused hm hr keyForbidden ?_ hs) ?_
      · rw [DeviceCall.run, addDevice, if_neg hempty, hfound]
      · intro new' h _ hnone
        obtain rfl := Option.some.inj h
        exact absurd (hfound.symm.trans hnone) (by simp)
    | none =>
      have hfresh : ∀ b ∈ s.listHead, b.id ≠ new.id := lookup_eq_none.1 hfound
      have hrun : (DeviceCall.addDevice (some new)).run (mapHandle rc) s
          = (rc, ⟨s.listHead ++ [new],
              if rc = keyTrue then Function.update s.db new.id (some new) else s.db⟩) := by
        rw [DeviceCall.run, addDevice, if_neg hempty, hfound]
        rfl
      rw [DeviceStep, hrun] at hs
      subst hs
      have hsafe : CallSafe s (.addDevice (some new), rc) ↔ rc = keyTrue ∧ new.id.strlen ≤ 32 := by
        simp [CallSafe, hempty, hfound]
      rw [hsafe]
      constructor
      · rintro ⟨hm', hr', hfail⟩
        rw [hrun] at hfail
        have hrc : rc = keyTrue := by
          by_contra hrc
          have hlist := congrArg (fun s => s.listHead.length) (hfail hrc)
          simp at hlist
        exact ⟨hrc, ((removable_iff hm').1 hr' new (by simp)).1⟩
      · rintro ⟨rfl, hlong⟩
        have hm' : Mirrors ⟨s.listHead ++ [new], Function.update s.db new.id (some new)⟩ := by
          refine ⟨nodup_map_concat hm.ids hfresh, ?_⟩
          funext k
          rw [hm.db]
          exact (lookup_concat hfresh k).symm
        refine ⟨hm', (removable_iff hm').2 fun info hinfo => ?_, fun h => ?_⟩
        · rcases List.mem_append.1 hinfo with hold | hnew
          · exact (removable_iff hm).1 hr info hold
          · rw [List.mem_singleton.1 hnew]
            exact ⟨hlong, hempty⟩
        · rw [hrun] at h
          exact absurd rfl h

theorem delDevice_iff (hm : Mirrors s) (hr : Removable s) {deviceID : CString}
    (hs : DeviceStep s (.delDevice deviceID, rc) s') :
    Consistent s (.delDevice deviceID, rc) s' ↔ CallSafe s (.delDevice deviceID, rc) := by
  by_cases hlong : 32 < deviceID.strlen
  · refine iff_of_true (consistent_of_refused hm hr keyFalse ?_ hs) ?_
    · rw [DeviceCall.run, delDevice, if_pos hlong]
    · intro hle
      exact absurd hlong (Nat.not_lt.2 hle)
  by_cases hempty : deviceID.strlen = 0
  · refine iff_of_true (consistent_of_refused hm hr keyNotfound ?_ hs) ?_
    · rw [DeviceCall.run, delDevice, if_neg hlong, if_pos hempty]
    · intro _ hne
      exact absurd hempty hne
  cases hfound : getHandleByStr deviceID s.listHead with
  | none =>
    refine iff_of_true (consistent_of_refused hm hr keyNotfound ?_ hs) ?_
    · rw [DeviceCall.run, delDevice, if_neg hlong, if_neg hempty, hfound]
    · intro _ _ h
      rw [hfound] at h
      exact absurd h (by simp)
  | some old =>
    have hrun : (DeviceCall.delDevice deviceID).run (mapHandle rc) s
        = (rc, ⟨eraseFirst DeviceStorageInfo.id deviceID s.listHead,
            if rc = keyTrue then Function.update s.db deviceID none else s.db⟩) := by
      rw [DeviceCall.run, delDevice, if_neg hlong, if_neg hempty, hfound]
      rfl
    rw [DeviceStep, hrun] at hs
    subst hs
    have hsafe : CallSafe s (.delDevice deviceID, rc) ↔ rc = keyTrue := by
      simp [CallSafe, hempty, hfound, Nat.le_of_not_lt hlong]
    rw [hsafe]
    constructor
    · rintro ⟨-, -, hfail⟩
      rw [hrun] at hfail
      by_contra hrc
      have hlist := congrArg DeviceListInner.listHead (hfail hrc)
      exact eraseFirst_ne_self (by rw [← getHandleByStr, hfound]; rfl) hlist
    · rintro rfl
      have hm' : Mirrors ⟨eraseFirst DeviceStorageInfo.id deviceID s.listHead,
          Function.update s.db deviceID none⟩ := by
        refine ⟨nodup_map_eraseFirst hm.ids, ?_⟩
        funext k
        rw [hm.db]
        exact (lookup_eraseFirst hm.ids hfound k).symm
      refine ⟨hm', (removable_iff hm').2 fun info hinfo => ?_, fun h => ?_⟩
      · exact (removable_iff hm).1 hr info (eraseFirst_sublist.mem hinfo)
      · rw [hrun] at h
        exact absurd rfl h

theorem setDeviceInfo_iff (hm : Mirrors s) (hr : Removable s) {deviceID : CString}
    {info : Option DeviceStorageInfo} (hs : DeviceStep s (.setDeviceInfo deviceID info, rc) s') :
    Consistent s (.setDeviceInfo deviceID info, rc) s'
      ↔ CallSafe s (.setDeviceInfo deviceID info, rc) := by
  cases info with
  | none =>
    refine iff_of_true (consistent_of_refused hm hr _ rfl hs) fun new _ h => absurd h (by simp)
  | some new =>
    by_cases hempty : deviceID.strlen = 0
    · refine iff_of_true (consistent_of_refused hm hr keyFalse ?_ hs) ?_
      · rw [DeviceCall.run, setDeviceInfo, if_pos hempty]
      · intro _ _ _ hne
        exact absurd hempty hne
    cases hfound : getHandleByStr deviceID s.listHead with
    | none =>
      refine iff_of_true (consistent_of_refused hm hr keyNotfound ?_ hs) ?_
      · rw [DeviceCall.run, setDeviceInfo, if_neg hempty, hfound]
      · intro _ _ _ _ h
        exact absurd (hfound.symm.trans h) (by simp)
    | some old =>
      have hrun : (DeviceCall.setDeviceInfo deviceID (some new)).run (mapHandle rc) s
          = (rc, ⟨modifyFirst DeviceStorageInfo.id deviceID (fun _ => new) s.listHead,
              if rc = keyTrue then Function.update s.db new.id (some new) else s.db⟩) := by
        rw [DeviceCall.run, setDeviceInfo, if_neg hempty, hfound]
        rfl
      have hid : old.id = deviceID := key_of_lookup hfound
      rw [DeviceStep, hrun] at hs
      subst hs
      have hsafe : CallSafe s (.setDeviceInfo deviceID (some new), rc)
          ↔ new.id = deviceID ∧ (rc = keyTrue ∨ new = old) := by
        simp [CallSafe, hempty, hfound]
      rw [hsafe]
      constructor
      · rintro ⟨hm', -, hfail⟩
        rw [hrun] at hfail
        by_cases hrc : rc = keyTrue
        · refine ⟨?_, Or.inl hrc⟩
          by_contra hne
          -- the old id is still in the map, and no longer in the list
          have hfresh : ∀ b ∈ s.listHead, b.id = new.id → b.id = deviceID :=
            hid ▸ (nodup_map_modifyFirst_iff hm.ids hfound).1 hm'.ids
          have hat := congrFun hm'.db deviceID
          rw [hrc] at hat
          simp only [if_true] at hat
          rw [getHandleByStr, lookup_modifyFirst hm.ids hfound hfresh,
            Function.update_of_ne (Ne.symm hne), Function.update_of_ne (Ne.symm hne),
            Function.update_self, hm.db] at hat
          exact absurd (hfound.symm.trans hat) (by simp)
        · have hlist := congrArg DeviceListInner.listHead (hfail hrc)
          have hsame := (modifyFirst_eq_self_iff hfound).1 hlist
          exact ⟨hsame ▸ hid, Or.inr hsame⟩
      · rintro ⟨hnew, hor⟩
        by_cases hrc : rc = keyTrue
        · subst hrc
          have hids : (modifyFirst DeviceStorageInfo.id deviceID (fun _ => new) s.listHead).map
              DeviceStorageInfo.id = s.listHead.map DeviceStorageInfo.id :=
            map_modifyFirst DeviceStorageInfo.id fun a ha => hnew.trans ha.symm
          have hm' : Mirrors ⟨modifyFirst DeviceStorageInfo.id deviceID (fun _ => new) s.listHead,
              Function.update s.db new.id (some new)⟩ := by
            refine ⟨hids ▸ hm.ids, ?_⟩
            funext k
            have hmap := lookup_modifyFirst (f := fun _ => new) hm.ids hfound
              (fun b _ hb => hb.trans hnew) k
            rw [hnew, Function.update_idem] at hmap
            rw [hm.db, hnew]
            exact hmap.symm
          refine ⟨hm', (removable_iff hm').2 fun info hinfo => ?_, fun h => ?_⟩
          · have hmem : info.id ∈ s.listHead.map DeviceStorageInfo.id :=
              hids ▸ List.mem_map_of_mem hinfo
            obtain ⟨b, hb, hbid⟩ := List.mem_map.1 hmem
            rw [← hbid]
            exact (removable_iff hm).1 hr b hb
          · rw [hrun] at h
            exact absurd rfl h
        · -- the record that is there is written over itself
          have hlist := (modifyFirst_eq_self_iff (f := fun _ => new) hfound).2
            (hor.resolve_left hrc)
          have hsame : (⟨modifyFirst DeviceStorageInfo.id deviceID (fun _ => new) s.listHead,
              if rc = keyTrue then Function.update s.db new.id (some new) else s.db⟩ :
              DeviceListInner DeviceMap) = s := by
            rw [if_neg hrc, hlist]
          refine ⟨?_, ?_, fun _ => hsame⟩
          · simp only [hsame]
            exact hm
          · simp only [hsame]
            exact hr

/-! ## Histories -/

theorem consistent_iff {l : DeviceCall × ℤ} (hm : Mirrors s) (hr : Removable s)
    (hs : DeviceStep s l s') : Consistent s l s' ↔ CallSafe s l := by
  obtain ⟨c, rc⟩ := l
  cases c with
  | addDevice info => exact addDevice_iff hm hr hs
  | delDevice deviceID => exact delDevice_iff hm hr hs
  | setDeviceInfo deviceID info => exact setDeviceInfo_iff hm hr hs

/-- **The list and the table stay one.** In every history of calls, whatever their callbacks return, each
    call comes out as it should exactly if each meets `CallSafe` in the state it is made in. -/
theorem cameras_consistent_iff (h₀ : Mirrors s₀) (hr₀ : Removable s₀)
    {tr : List (DeviceCall × ℤ)} :
    Run (stepThat Consistent DeviceStep) s₀ tr s ↔ Run (stepWhen CallSafe DeviceStep) s₀ tr s := by
  refine Run.each_iff (fun s => Mirrors s ∧ Removable s) ⟨h₀, hr₀⟩ ?_ ?_
  · intro s l s' hI hsafe hs
    have hc := (consistent_iff hI.1 hI.2 hs).2 hsafe
    exact ⟨⟨hc.1, hc.2.1⟩, hc⟩
  · intro s l s' hI hsafe hs hc
    exact hsafe ((consistent_iff hI.1 hI.2 hs).1 hc)

/-- No camera, and an empty table. -/
def noCameras : DeviceListInner DeviceMap where
  listHead := []
  db := fun _ => none

/-- A camera whose id and name are one letter, `n` times. -/
def sampleCamera (c : UInt8) (n : ℕ) : DeviceStorageInfo where
  deviceModel := 0
  onlineStatus := 1
  deviceIpaddr := snprintf _ (.ofBuffer [])
  deviceID := snprintf _ (.ofBuffer (List.replicate n c))
  deviceName := snprintf _ (.ofBuffer [c])
  deviceSoftwareVer := snprintf _ (.ofBuffer [])

theorem mirrors_noCameras : Mirrors noCameras := ⟨List.nodup_nil, rfl⟩

theorem removable_noCameras : Removable noCameras := fun _ h => absurd h List.not_mem_nil

/-- Two cameras are added, one is deleted, and the deletion of a camera that is not there fails. -/
theorem cameras_consistent_four :
    ∃ s tr, tr.length = 4 ∧ s.listHead.length = 1 ∧
      (Run (stepThat Consistent DeviceStep) noCameras tr s
        ↔ Run (stepWhen CallSafe DeviceStep) noCameras tr s) ∧
      Run DeviceStep noCameras tr s := by
  have h := (Run.nil : Run DeviceStep noCameras [] _)
    |>.snoc (a := (.addDevice (some (sampleCamera 97 1)), keyTrue)) rfl
    |>.snoc (a := (.addDevice (some (sampleCamera 98 1)), keyTrue)) rfl
    |>.snoc (a := (.delDevice (sampleCamera 97 1).id, keyTrue)) rfl
    |>.snoc (a := (.delDevice (sampleCamera 99 1).id, keyFalse)) rfl
  exact ⟨_, _, rfl, rfl, cameras_consistent_iff mirrors_noCameras removable_noCameras, h⟩

/-- The database refuses a camera: `AddDevice` fails, and the camera is in the list and not in the
    table. -/
theorem refused_camera_listed :
    ∃ s, DeviceStep noCameras (.addDevice (some (sampleCamera 97 1)), keyFalse) s ∧
      s.listHead = [sampleCamera 97 1] ∧ s.db (sampleCamera 97 1).id = none ∧
      ¬ Consistent noCameras (.addDevice (some (sampleCamera 97 1)), keyFalse) s := by
  refine ⟨_, rfl, by decide, by decide, fun h => ?_⟩
  have hlist := congrArg (fun s => s.listHead.length) (h.2.2 (by decide))
  exact absurd hlist (by decide)

end SmartPlat.DeviceManage
