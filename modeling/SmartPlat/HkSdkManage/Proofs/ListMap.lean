import SmartPlat.HkSdkManage.Proofs.Decoding
import SmartPlat.Lib.Transition

set_option autoImplicit false

/-! # The stored list of NVRs

It is a map from serial numbers: each operation decodes the stored item into an array on its stack,
searches all 64 slots of it for the serial number and edits the list at the position where the search
stops. -/

namespace SmartPlat.HkSdkManage

open SmartPlat.Lib

/-! ## Histories -/

/-- What is stored after a call, or how a call has failed. -/
def listStep (s : Except Fault (Option CJson)) (c : ListCall) (s' : Except Fault (Option CJson)) :
    Prop :=
  s' = s.bind fun HkDvr => (c.run HkDvr).map some

/-- The call on a map: insert or replace, replace what is there, remove. -/
def ListCall.spec (m : DvrString → Option DvrConf) : ListCall → DvrString → Option DvrConf
  | add p _ => Function.update m p.serial (some (jsonMapDvrInfoMake p))
  | set p _ =>
      if (m p.serial).isSome then Function.update m p.serial (some (jsonMapDvrInfoMake p)) else m
  | del p _ => Function.update m p.serial none

/-- A history with the map beside it. -/
def mapStep : Except Fault (Option CJson) × (DvrString → Option DvrConf) → ListCall →
    Except Fault (Option CJson) × (DvrString → Option DvrConf) → Prop :=
  stepWith (fun m _ c => c.spec m) listStep

theorem mapStep_iff {s s' : Except Fault (Option CJson)} {m m' : DvrString → Option DvrConf}
    {c : ListCall} : mapStep (s, m) c (s', m') ↔
      (s' = s.bind fun HkDvr => (c.run HkDvr).map some) ∧ m' = c.spec m := Iff.rfl

theorem exists_mapStep (x : Except Fault (Option CJson) × (DvrString → Option DvrConf)) (c : ListCall) :
    ∃ x', mapStep x c x' := ⟨(_, _), rfl, rfl⟩

/-- What is stored is the map, with one entry for a serial number, and it is read back as it is, also
    when the same records are stored as a new list. -/
def IsMap (x : Except Fault (Option CJson) × (DvrString → Option DvrConf)) : Prop :=
  match x.1 with
  | .error _ => False
  | .ok none => ∀ k, x.2 k = none
  | .ok (some conf) =>
      ∃ l, Represents conf l ∧ (l.map DvrConf.serialnumber).Nodup ∧
        (∀ k, lookup DvrConf.serialnumber k l = x.2 k) ∧ DecodesTo conf l ∧
        ∀ Param, Param.map jsonMapDvrInfoMake = l → DecodesTo (jsonMapDvrListInfoMake Param) l

/-- A list is stored, and an NVR that is added and is not in it finds room in the array and no slot past
    the list that holds its serial number. -/
def ListSafe (s : Except Fault (Option CJson)) (c : ListCall) : Prop :=
  ∃ conf l, s = .ok (some conf) ∧ Represents conf l ∧
    ∀ p stack, c = .add p stack → (∀ d ∈ l, d.serialnumber ≠ p.serial) →
      l.length < netDvrMaxLen ∧
      ∀ i, l.length ≤ i → i < netDvrMaxLen → (stack i).sDvrSerialNumber ≠ p.serial

/-! ## The records -/

section

variable (junk : ℕ → DvrString) (p : HKDVRParam) {l : List DvrConf}

theorem modifyFirst_eq_set {r : DvrConf} {k : DvrString} {i : ℕ}
    (hbefore : ∀ j (hj : j < l.length), j < i → l[j].serialnumber ≠ k)
    (hat : ∀ hi : i < l.length, l[i].serialnumber = k) :
    l.set i r = modifyFirst DvrConf.serialnumber k (fun _ => r) l := by
  induction l generalizing i with
  | nil => rfl
  | cons c l ih =>
      cases i with
      | zero =>
          have hc : c.serialnumber = k := hat (Nat.zero_lt_succ _)
          rw [List.set_cons_zero, modifyFirst, if_pos hc]
      | succ i =>
          have hc : c.serialnumber ≠ k := hbefore 0 (Nat.zero_lt_succ _) i.zero_lt_succ
          rw [List.set_cons_succ, modifyFirst, if_neg hc,
            ih (fun j hj hji => hbefore (j + 1) (Nat.succ_lt_succ hj) (Nat.succ_lt_succ hji))
              fun hi => hat (Nat.succ_lt_succ hi)]

theorem hkDvrListConfigSet_eq (h : l.length ≤ netDvrMaxLen) :
    hkDvrListConfigSet junk p (some l) = .ok
      (modifyFirst DvrConf.serialnumber p.serial (fun _ => jsonMapDvrInfoMake p) l) := by
  obtain ⟨i, hi, hbefore, hat⟩ := hkDvrListConfigFind_spec junk p.serial h
  rw [hkDvrListConfigSet, editConf, hi]
  exact congrArg Except.ok (modifyFirst_eq_set hbefore hat)

/-- An NVR that is in the list is replaced. -/
theorem hkDvrListConfigAdd_present {c : DvrConf} (h : l.length ≤ netDvrMaxLen)
    (hc : lookup DvrConf.serialnumber p.serial l = some c) :
    hkDvrListConfigAdd junk p (some l) = .ok
      (modifyFirst DvrConf.serialnumber p.serial (fun _ => jsonMapDvrInfoMake p) l) := by
  obtain ⟨i, hi, hbefore, hat⟩ := hkDvrListConfigFind_spec junk p.serial h
  have hlt : i < l.length := by
    obtain ⟨j, hj, rfl⟩ := List.mem_iff_getElem.1 (mem_of_lookup hc)
    by_contra hle
    exact hbefore j hj (by omega) (key_of_lookup hc)
  rw [hkDvrListConfigAdd, editConf, hi]
  refine congrArg Except.ok ?_
  dsimp only
  rw [if_neg (by omega)]
  exact modifyFirst_eq_set hbefore hat

/-- The search for an NVR that is not in the list stops in the part of the array that is not
    initialised, or at its end. -/
theorem hkDvrListConfigFind_absent {serial : DvrString} (h : l.length ≤ netDvrMaxLen)
    (habsent : ∀ c ∈ l, c.serialnumber ≠ serial) :
    ∃ i, hkDvrListConfigFind junk serial l = .ok i ∧ l.length ≤ i ∧
      (netDvrMaxLen ≤ i ↔ ∀ j, l.length ≤ j → j < netDvrMaxLen → junk j ≠ serial) := by
  rw [hkDvrListConfigFind, if_pos h]
  refine ⟨_, rfl, ?_⟩
  dsimp only
  cases hfind : List.find? (fun i => decide ((l[i]?.map DvrConf.serialnumber).getD (junk i) =
      serial)) (List.range netDvrMaxLen) with
  | none =>
      refine ⟨h, fun _ j hj hlt => ?_, fun _ => le_rfl⟩
      have hnone := List.find?_eq_none.1 hfind j (List.mem_range.2 hlt)
      simpa [List.getElem?_eq_none hj] using hnone
  | some i =>
      obtain ⟨hat, hlt, -⟩ := List.find?_range_eq_some.1 hfind
      rw [Option.getD_some]
      have hle : l.length ≤ i := by
        by_contra hi
        have hi' : i < l.length := Nat.not_le.1 hi
        exact habsent l[i] (List.getElem_mem hi') (by simpa [hi'] using hat)
      have hjunk : junk i = serial := by simpa [List.getElem?_eq_none hle] using hat
      rw [List.mem_range] at hlt
      exact ⟨hle, fun hmax => absurd hlt (Nat.not_lt.2 hmax), fun hall => absurd hjunk (hall i hle hlt)⟩

/-- An NVR that is not in the list is appended, or lost. -/
theorem hkDvrListConfigAdd_absent (h : l.length ≤ netDvrMaxLen)
    (habsent : ∀ c ∈ l, c.serialnumber ≠ p.serial) :
    hkDvrListConfigAdd junk p (some l) = .ok
      (if ∀ j, l.length ≤ j → j < netDvrMaxLen → junk j ≠ p.serial then l ++ [jsonMapDvrInfoMake p]
        else l) := by
  obtain ⟨i, hi, hle, hmax⟩ := hkDvrListConfigFind_absent junk h habsent
  rw [hkDvrListConfigAdd, editConf, hi]
  refine congrArg Except.ok ?_
  dsimp only
  by_cases hall : netDvrMaxLen ≤ i
  · rw [if_pos hall, if_pos (hmax.1 hall)]
  · rw [if_neg hall, if_neg (fun h => hall (hmax.2 h)), List.set_eq_of_length_le hle]

end

/-! ## The stored item follows the records -/

variable {conf : CJson} {l : List DvrConf} {stack : ℕ → DvrSlot}

/-- The search in the decoded array is the search in the records. -/
theorem hkDvrListConfigFind_decoded {slots : ℕ → DvrSlot} (hdecoded : Decoded stack slots l)
    (h : l.length ≤ netDvrMaxLen) (serial : DvrString) :
    hkDvrListConfigFind (fun i => (stack i).sDvrSerialNumber) serial l =
      .ok (findSlot slots serial) := by
  rw [hkDvrListConfigFind, if_pos h, findSlot]
  have hslot (i : ℕ) : (l[i]?.map DvrConf.serialnumber).getD (stack i).sDvrSerialNumber =
      (slots i).sDvrSerialNumber := by
    by_cases hi : i < l.length
    · rw [List.getElem?_eq_getElem hi]
      exact (hdecoded.inside i hi).sDvrSerialNumber.symm
    · rw [List.getElem?_eq_none (Nat.not_lt.1 hi), hdecoded.outside i (Nat.not_lt.1 hi)]
      rfl
  simp only [hslot]

/-- An edit of the stored list at a position is the same edit of the records. -/
theorem editDvrlist_represents (hconf : Represents conf l) (h : l.length ≤ netDvrMaxLen)
    (stack : ℕ → DvrSlot) (serial : DvrString) (edit : ℕ → List CJson → List CJson)
    (editRecords : ℕ → List DvrConf → List DvrConf)
    (hedit : ∀ i items, List.Forall₂ DvrItem items l →
      List.Forall₂ DvrItem (edit i items) (editRecords i l)) :
    ∃ conf' i, editDvrlist stack serial edit (some conf) = .ok conf' ∧
      hkDvrListConfigFind (fun i => (stack i).sDvrSerialNumber) serial l = .ok i ∧
      Represents conf' (editRecords i l) := by
  obtain ⟨slots, hpares, hdecoded⟩ := hconf.decodesTo h stack
  obtain ⟨a, ha, hitems⟩ := hconf
  refine ⟨conf.editObjectItem (ascii "Dvrlist") (.editItems (edit (findSlot slots serial))), _, ?_,
    hkDvrListConfigFind_decoded hdecoded h serial, _, CJson.getObjectItem_editObjectItem ha, ?_⟩
  · rw [editDvrlist]
    simp only [ha, Option.isSome_some, if_true, hpares, Except.map]
  · rw [CJson.arrayItems_editItems]
    exact hedit _ _ hitems

theorem forall₂_set {items : List CJson} {item : CJson} {c : DvrConf}
    (h : List.Forall₂ DvrItem items l) (hitem : DvrItem item c) (i : ℕ) :
    List.Forall₂ DvrItem (items.set i item) (l.set i c) := by
  induction h generalizing i with
  | nil => exact .nil
  | cons hhead htail ih =>
      cases i with
      | zero => exact .cons hitem htail
      | succ i => exact .cons hhead (ih i)

theorem forall₂_eraseIdx {items : List CJson} (h : List.Forall₂ DvrItem items l) (i : ℕ) :
    List.Forall₂ DvrItem (items.eraseIdx i) (l.eraseIdx i) := by
  rw [List.eraseIdx_eq_take_drop_succ, List.eraseIdx_eq_take_drop_succ]
  exact List.rel_append (List.forall₂_take i h) (List.forall₂_drop (i + 1) h)

/-- The edit of `HkDvrListConfigAdd`. -/
def putAt {α : Type} (size : ℕ) (a : α) (i : ℕ) (l : List α) : List α :=
  if i ≥ size then l ++ [a] else l.set i a

/-- The call on the records. -/
def ListCall.records : ListCall → List DvrConf → Except Fault (List DvrConf)
  | add p stack, l => hkDvrListConfigAdd (fun i => (stack i).sDvrSerialNumber) p (some l)
  | set p stack, l => hkDvrListConfigSet (fun i => (stack i).sDvrSerialNumber) p (some l)
  | del p stack, l => hkDvrListConfigDel (fun i => (stack i).sDvrSerialNumber) p (some l)

theorem ListCall.run_represents (c : ListCall) (hconf : Represents conf l)
    (h : l.length ≤ netDvrMaxLen) :
    ∃ conf' l', c.run (some conf) = .ok conf' ∧ c.records l = .ok l' ∧ Represents conf' l' := by
  cases c with
  | add p stack =>
      have hitem := dvrItem_toJson _ (IPClist_length_le p)
      obtain ⟨conf', i, hrun, hfind, hconf'⟩ := editDvrlist_represents hconf h stack p.serial
        (putAt netDvrMaxLen (Stored.jsonMapDvrInfoMake p)) (putAt netDvrMaxLen (jsonMapDvrInfoMake p))
        fun i items hitems => by
          rw [putAt, putAt]
          split
          · exact List.rel_append hitems (.cons hitem .nil)
          · exact forall₂_set hitems hitem i
      exact ⟨conf', _, hrun, by rw [records, hkDvrListConfigAdd, editConf, hfind]; rfl, hconf'⟩
  | set p stack =>
      have hitem := dvrItem_toJson _ (IPClist_length_le p)
      obtain ⟨conf', i, hrun, hfind, hconf'⟩ := editDvrlist_represents hconf h stack p.serial
        (fun i items => items.set i (Stored.jsonMapDvrInfoMake p))
        (fun i l => l.set i (jsonMapDvrInfoMake p))
        fun i items hitems => forall₂_set hitems hitem i
      exact ⟨conf', _, hrun, by rw [records, hkDvrListConfigSet, editConf, hfind]; rfl, hconf'⟩
  | del p stack =>
      obtain ⟨conf', i, hrun, hfind, hconf'⟩ := editDvrlist_represents hconf h stack p.serial
        (fun i items => items.eraseIdx i) (fun i l => l.eraseIdx i)
        fun i items hitems => forall₂_eraseIdx hitems i
      exact ⟨conf', _, hrun, by rw [records, hkDvrListConfigDel, editConf, hfind]; rfl, hconf'⟩

/-! ## The map -/

/-- The call as far as the stored records go: the map of the list is the map after the call. -/
theorem ListCall.records_spec (c : ListCall) (h : l.length ≤ netDvrMaxLen)
    (hnodup : (l.map DvrConf.serialnumber).Nodup)
    (hroom : ∀ p stack, c = .add p stack → (∀ d ∈ l, d.serialnumber ≠ p.serial) →
      l.length < netDvrMaxLen ∧
      ∀ i, l.length ≤ i → i < netDvrMaxLen → (stack i).sDvrSerialNumber ≠ p.serial) :
    ∃ l', c.records l = .ok l' ∧ l'.length ≤ netDvrMaxLen ∧ (l'.map DvrConf.serialnumber).Nodup ∧
      ∀ k, lookup DvrConf.serialnumber k l' =
        c.spec (fun k => lookup DvrConf.serialnumber k l) k := by
  have hreplace (p : HKDVRParam) {d : DvrConf}
      (hd : lookup DvrConf.serialnumber p.serial l = some d) :
      let l' := modifyFirst DvrConf.serialnumber p.serial (fun _ => jsonMapDvrInfoMake p) l
      l'.length ≤ netDvrMaxLen ∧ (l'.map DvrConf.serialnumber).Nodup ∧
        ∀ k, lookup DvrConf.serialnumber k l' = Function.update
          (fun k => lookup DvrConf.serialnumber k l) p.serial (some (jsonMapDvrInfoMake p)) k := by
    -- the record that takes the place of `d` has the serial number of `d`
    refine ⟨by rwa [length_modifyFirst], nodup_map_modifyFirst hnodup hd fun b _ hb => ?_, fun k => ?_⟩
    · exact hb.trans (key_of_lookup hd).symm
    · rw [lookup_modifyFirst hnodup hd (fun b _ hb => hb) k]
      exact congrFun (Function.update_idem _ _ _) k
  cases c with
  | add p stack =>
      cases hd : lookup DvrConf.serialnumber p.serial l with
      | some d => exact ⟨_, hkDvrListConfigAdd_present _ p h hd, hreplace p hd⟩
      | none =>
          have habsent := lookup_eq_none.1 hd
          obtain ⟨hlt, hjunk⟩ := hroom p stack rfl habsent
          refine ⟨_, (hkDvrListConfigAdd_absent _ p h habsent).trans (by rw [if_pos hjunk]), ?_,
            nodup_map_concat hnodup habsent, lookup_concat habsent⟩
          rw [List.length_append]
          exact hlt
  | set p stack =>
      refine ⟨_, hkDvrListConfigSet_eq _ p h, ?_⟩
      cases hd : lookup DvrConf.serialnumber p.serial l with
      | some d =>
          simp only [spec, hd, Option.isSome_some, if_true]
          exact hreplace p hd
      | none =>
          simp only [spec, hd, Option.isSome_none, modifyFirst_of_absent hd]
          exact ⟨h, hnodup, fun _ => rfl⟩
  | del p stack =>
      refine ⟨_, hkDvrListConfigDel_eq _ p h, eraseFirst_sublist.length_le.trans h,
        nodup_map_eraseFirst hnodup, fun k => ?_⟩
      cases hd : lookup DvrConf.serialnumber p.serial l with
      | some d => exact lookup_eraseFirst hnodup hd k
      | none =>
          rw [eraseFirst_of_absent hd, spec, Function.update_eq_self_iff.2 hd.symm]

/-! ## Histories that keep the map -/

theorem isMap_of_represents {l : List DvrConf} {m : DvrString → Option DvrConf}
    (hconf : Represents conf l) (h : l.length ≤ netDvrMaxLen)
    (hnodup : (l.map DvrConf.serialnumber).Nodup)
    (hm : ∀ k, lookup DvrConf.serialnumber k l = m k) : IsMap (.ok (some conf), m) :=
  ⟨l, hconf, hnodup, hm, hconf.decodesTo h, fun Param hParam =>
    (hParam ▸ represents_jsonMapDvrListInfoMake Param : Represents _ l).decodesTo h⟩

/-- A list that is read back as it is fits the array. -/
theorem length_le_of_decodesTo (hconf : Represents conf l) (hdecodes : DecodesTo conf l) :
    l.length ≤ netDvrMaxLen := by
  by_contra h
  obtain ⟨slots, hpares, -⟩ := hdecodes fun _ => .zero
  rw [hconf.pares_error (Nat.not_le.1 h)] at hpares
  cases hpares

variable {x x' : Except Fault (Option CJson) × (DvrString → Option DvrConf)} {c : ListCall}

theorem isMap_step (hx : IsMap x) (hsafe : ListSafe x.1 c) (hstep : mapStep x c x') :
    IsMap x' := by
  obtain ⟨s, m⟩ := x
  obtain ⟨s', m'⟩ := x'
  obtain ⟨hs', hm'⟩ := mapStep_iff.1 hstep
  obtain ⟨conf, l, rfl, hconf, hroom⟩ := hsafe
  obtain ⟨l₁, hconf₁, hnodup, hm, hdecodes, -⟩ := hx
  obtain rfl := hconf.unique hconf₁
  have hlength := length_le_of_decodesTo hconf hdecodes
  obtain ⟨conf', l', hrun, hrecords, hconf'⟩ := c.run_represents hconf hlength
  obtain ⟨l₂, hrecords₂, hlength', hnodup', hspec⟩ := c.records_spec hlength hnodup hroom
  obtain rfl := Except.ok.inj (hrecords.symm.trans hrecords₂)
  obtain rfl : (fun k => lookup DvrConf.serialnumber k l) = m := funext hm
  have hs : s' = .ok (some conf') := by rw [hs', Except.bind, hrun]; rfl
  rw [hs, hm']
  exact isMap_of_represents hconf' hlength' hnodup' hspec

theorem not_isMap_step (hx : IsMap x) (hnot : ¬ ListSafe x.1 c) (hstep : mapStep x c x') :
    ¬ IsMap x' := by
  obtain ⟨s, m⟩ := x
  obtain ⟨s', m'⟩ := x'
  obtain ⟨hs', hm'⟩ := mapStep_iff.1 hstep
  cases s with
  | error e => exact hx.elim
  | ok HkDvr =>
      cases HkDvr with
      | none =>
          -- the operations follow the null pointer
          have hnull : c.run none = .error .badAccess := by cases c <;> rfl
          have hs : s' = .error .badAccess := by rw [hs', Except.bind, hnull]; rfl
          rw [hs]
          exact id
      | some conf =>
          obtain ⟨l, hconf, hnodup, hm, hdecodes, -⟩ := hx
          have hlength := length_le_of_decodesTo hconf hdecodes
          obtain ⟨p, stack, rfl, habsent, hroom⟩ : ∃ p stack, c = .add p stack ∧
              (∀ d ∈ l, d.serialnumber ≠ p.serial) ∧ ¬ (l.length < netDvrMaxLen ∧
                ∀ i, l.length ≤ i → i < netDvrMaxLen → (stack i).sDvrSerialNumber ≠ p.serial) := by
            by_contra hall
            refine hnot ⟨conf, l, rfl, hconf, fun p stack hc habsent => ?_⟩
            by_contra hroom
            exact hall ⟨p, stack, hc, habsent, hroom⟩
          obtain ⟨conf', l', hrun, hrecords, hconf'⟩ :=
            (ListCall.add p stack).run_represents hconf hlength
          obtain rfl := Except.ok.inj
            (hrecords.symm.trans (hkDvrListConfigAdd_absent _ p hlength habsent))
          have hs : s' = .ok (some conf') := by rw [hs', Except.bind, hrun]; rfl
          rw [hs]
          rintro ⟨l₂, hconf₂, -, hm₂, hdecodes₂, -⟩
          obtain rfl := hconf'.unique hconf₂
          split at hconf'
          · next hjunk =>
              -- a list of 65 NVRs does not fit the array
              rw [if_pos hjunk] at hdecodes₂
              have hlength₂ := length_le_of_decodesTo hconf' hdecodes₂
              rw [List.length_append, List.length_singleton] at hlength₂
              exact hroom ⟨hlength₂, hjunk⟩
          · next hjunk =>
              -- the NVR is not in the list after the call
              have hlost := hm₂ p.serial
              rw [if_neg hjunk, lookup_eq_none.2 habsent] at hlost
              simp only [hm', ListCall.spec, Function.update_self, reduceCtorEq] at hlost

/-- **The stored list is a map exactly in the histories in which a list is stored at every call and
    every NVR that is added for the first time finds room.** The list has 64 entries at most, and the
    slots past it are whatever the stack holds: one of them with the serial number of the new NVR takes
    the place of the missing entry, and the NVR is not stored. -/
theorem isMap_iff {tr : List ListCall} (hx : IsMap x) (hrun : Run mapStep x tr x') :
    (∀ pre x₁, pre <+: tr → Run mapStep x pre x₁ → IsMap x₁) ↔
      Run (stepWhen (fun x c => ListSafe x.1 c) mapStep) x tr x' := by
  refine Run.always_iff IsMap ?_ hx (fun _ h => h) (fun _ _ _ => isMap_step)
    (fun _ _ _ => not_isMap_step) hrun
  rintro ⟨s, m⟩ c ⟨s', m'⟩ ⟨s'', m''⟩ ⟨h₁, h₂⟩ ⟨h₁', h₂'⟩
  exact Prod.ext (h₁.trans h₁'.symm) (h₂.trans h₂'.symm)

/-! ## An NVR that is lost -/

/-- The NVR with serial number `N1`. -/
def nvrN1 : HKDVRParam :=
  { HKDVRParam.zero with
    HkDvrInfo := { HkDeviceInfo.zero with sDvrSerialNumber := ⟨⟨[78, 49], by decide⟩, by decide⟩ } }

/-- The NVR with serial number `N2`. -/
def nvrN2 : HKDVRParam :=
  { HKDVRParam.zero with
    HkDvrInfo := { HkDeviceInfo.zero with sDvrSerialNumber := ⟨⟨[78, 50], by decide⟩, by decide⟩ } }

/-- A stack on which a call for `N1` has run before. -/
def usedStack (_ : ℕ) : DvrSlot := { DvrSlot.zero with sDvrSerialNumber := nvrN1.serial }

theorem isMap_empty : IsMap (.ok (some (jsonMapDvrListInfoMake [])), fun _ => none) :=
  isMap_of_represents (represents_jsonMapDvrListInfoMake []) (by decide) (by decide) fun _ => rfl

/-- A new NVR with nothing stored is a null pointer; with an empty list and its serial number left on
    the stack it is not stored. -/
theorem new_nvr_lost :
    (∃ x, Run mapStep (.ok none, fun _ => none) [.add nvrN1 fun _ => .zero] x ∧ ¬ IsMap x) ∧
      ∃ x, Run mapStep (.ok (some (jsonMapDvrListInfoMake [])), fun _ => none)
        [.add nvrN1 usedStack] x ∧ ¬ IsMap x := by
  constructor
  · obtain ⟨x, hx⟩ := exists_mapStep (.ok none, fun _ => none) (.add nvrN1 fun _ => .zero)
    have hinit : IsMap (.ok none, fun _ => none) := fun _ => rfl
    refine ⟨x, Run.nil.snoc hx, not_isMap_step hinit ?_ hx⟩
    rintro ⟨conf, l, hs, -⟩
    cases hs
  · obtain ⟨x, hx⟩ := exists_mapStep (.ok (some (jsonMapDvrListInfoMake [])), fun _ => none)
      (.add nvrN1 usedStack)
    refine ⟨x, Run.nil.snoc hx, not_isMap_step isMap_empty ?_ hx⟩
    rintro ⟨conf, l, hs, hconf, hroom⟩
    cases hs
    obtain rfl := hconf.unique (represents_jsonMapDvrListInfoMake [])
    exact (hroom nvrN1 usedStack rfl fun d hd => absurd hd List.not_mem_nil).2 0 le_rfl (by decide) rfl

section

variable {conf conf' : CJson} {l : List DvrConf} {m : DvrString → Option DvrConf} {c : ListCall}
  {p : HKDVRParam}

/-- A new NVR is appended when the stack is clean. -/
theorem add_stored (hconf : Represents conf l) (hlength : l.length ≤ netDvrMaxLen)
    (habsent : ∀ d ∈ l, d.serialnumber ≠ p.serial)
    (hclean : DvrSlot.zero.sDvrSerialNumber ≠ p.serial) :
    ∃ conf', (ListCall.add p fun _ => .zero).run (some conf) = .ok conf' ∧
      Represents conf' (l ++ [jsonMapDvrInfoMake p]) := by
  obtain ⟨conf', l', hrun, hrecords, hconf'⟩ :=
    (ListCall.add p fun _ => .zero).run_represents hconf hlength
  have hadd := hkDvrListConfigAdd_absent (fun _ => DvrSlot.zero.sDvrSerialNumber) p hlength habsent
  rw [if_pos fun _ _ _ => hclean] at hadd
  obtain rfl := Except.ok.inj (hrecords.symm.trans hadd)
  exact ⟨conf', hrun, hconf'⟩

theorem mapStep_of_run (hrun : c.run (some conf) = .ok conf') :
    mapStep (.ok (some conf), m) c (.ok (some conf'), c.spec m) := by
  refine mapStep_iff.2 ⟨?_, rfl⟩
  rw [Except.bind, hrun]
  rfl

theorem exists_mapStep_add (hconf : Represents conf l) (h : l.length < netDvrMaxLen)
    (habsent : ∀ d ∈ l, d.serialnumber ≠ p.serial) (hclean : DvrSlot.zero.sDvrSerialNumber ≠ p.serial) :
    ∃ conf', stepWhen (fun x c => ListSafe x.1 c) mapStep (.ok (some conf), m) (.add p fun _ => .zero)
        (.ok (some conf'), (ListCall.add p fun _ => .zero).spec m) ∧
      Represents conf' (l ++ [jsonMapDvrInfoMake p]) := by
  obtain ⟨conf', hrun, hconf'⟩ := add_stored hconf h.le habsent hclean
  refine ⟨conf', ⟨⟨conf, l, rfl, hconf, fun p' stack heq _ => ?_⟩, mapStep_of_run hrun⟩, hconf'⟩
  cases heq
  exact ⟨h, fun _ _ _ => hclean⟩

/-- An NVR is deleted, whatever the stack holds. -/
theorem exists_mapStep_del (stack : ℕ → DvrSlot) (hconf : Represents conf l)
    (h : l.length ≤ netDvrMaxLen) :
    ∃ conf', stepWhen (fun x c => ListSafe x.1 c) mapStep (.ok (some conf), m) (.del p stack)
        (.ok (some conf'), (ListCall.del p stack).spec m) ∧
      Represents conf' (eraseFirst DvrConf.serialnumber p.serial l) := by
  obtain ⟨conf', l', hrun, hrecords, hconf'⟩ := (ListCall.del p stack).run_represents hconf h
  obtain rfl := Except.ok.inj (hrecords.symm.trans (hkDvrListConfigDel_eq _ p h))
  exact ⟨conf', ⟨⟨conf, l, rfl, hconf, nofun⟩, mapStep_of_run hrun⟩, hconf'⟩

end

/-- Two NVRs are added, and the first is deleted on a stack that still holds its serial number. -/
def addAddDel : List ListCall :=
  [.add nvrN1 fun _ => .zero, .add nvrN2 fun _ => .zero, .del nvrN1 usedStack]

theorem new_nvrs_stored :
    ∃ conf m, Run mapStep (.ok (some (jsonMapDvrListInfoMake [])), fun _ => none) addAddDel
        (.ok (some conf), m) ∧
      m nvrN1.serial = none ∧ m nvrN2.serial = some (jsonMapDvrInfoMake nvrN2) ∧
      Represents conf [jsonMapDvrInfoMake nvrN2] ∧ ∀ pre x₁, pre <+: addAddDel →
        Run mapStep (.ok (some (jsonMapDvrListInfoMake [])), fun _ => none) pre x₁ → IsMap x₁ := by
  have hne : nvrN1.serial ≠ nvrN2.serial := by decide
  obtain ⟨conf₁, hstep₁, hconf₁⟩ := exists_mapStep_add (p := nvrN1) (m := fun _ => none)
    (represents_jsonMapDvrListInfoMake []) (by decide) (fun _ hd => nomatch hd) (by decide)
  obtain ⟨conf₂, hstep₂, hconf₂⟩ := exists_mapStep_add (p := nvrN2)
    (m := (ListCall.add nvrN1 fun _ => .zero).spec fun _ => none) hconf₁ (by decide)
    (fun d hd => by obtain rfl := List.mem_singleton.1 hd; exact hne) (by decide)
  obtain ⟨conf₃, hstep₃, hconf₃⟩ := exists_mapStep_del (p := nvrN1)
    (m := (ListCall.add nvrN2 fun _ => .zero).spec
      ((ListCall.add nvrN1 fun _ => .zero).spec fun _ => none)) usedStack hconf₂ (by decide)
  have hsafe := ((Run.nil.snoc hstep₁).snoc hstep₂).snoc hstep₃
  have hrun : Run mapStep _ addAddDel _ := hsafe.mono fun _ _ _ hs => hs.2
  refine ⟨conf₃, _, hrun, ?_, ?_, hconf₃, (isMap_iff isMap_empty hrun).2 hsafe⟩
  · simp [ListCall.spec]
  · simp [ListCall.spec, hne.symm]

/-! ## Concurrent updates

`ConfigManageGet` and `ConfigManageSet` each hold `confMutex`, the operations between them hold nothing.
A call that gets to `ConfigManageSet` reports success. -/

variable {ι : Type} (call : ι → ListCall)

/-- What call `i` stores, of what it has read. -/
def storedBy (i : ι) (HkDvr : Option CJson) : Option (Option CJson) :=
  ((call i).run HkDvr).toOption.map some

variable [DecidableEq ι]

/-- The steps of the calls: `ConfigManageGet`, and `ConfigManageSet` of what the call makes of the item. A
    call that faults takes no second step. -/
abbrev configStep : UpdateState (Option CJson) ι → UpdateEvent ι → UpdateState (Option CJson) ι → Prop :=
  updateStep (storedBy call)

/-- **No update of the list is lost as long as no call stores a list that it has made of an outdated
    one.** The list is then the one that the calls leave in the order in which they have stored it. -/
theorem updates_kept {HkDvr : Option CJson} {tr : List (UpdateEvent ι)}
    {s : UpdateState (Option CJson) ι}
    (h : Run (stepWhen UpToDate (configStep call)) (.init HkDvr) tr s) :
    Serialisable (storedBy call) HkDvr tr s.store :=
  .of_upToDate h

/-! ## Two NVRs that are added at the same time -/

def newNvr (i : Fin 2) : HKDVRParam := if i.val = 0 then nvrN1 else nvrN2

def bothAdds (i : Fin 2) : ListCall := .add (newNvr i) fun _ => .zero

/-- What one of the two calls leaves. -/
theorem storedBy_bothAdds {conf : CJson} {l : List DvrConf} (i : Fin 2) (hconf : Represents conf l)
    (hlength : l.length ≤ netDvrMaxLen)
    (habsent : ∀ d ∈ l, d.serialnumber ≠ (newNvr i).serial) :
    ∃ conf', storedBy bothAdds i (some conf) = some (some conf') ∧
      Represents conf' (l ++ [jsonMapDvrInfoMake (newNvr i)]) := by
  have hclean : ∀ i, DvrSlot.zero.sDvrSerialNumber ≠ (newNvr i).serial := by decide
  obtain ⟨conf', hrun, hconf'⟩ := add_stored hconf hlength habsent (hclean i)
  exact ⟨conf', by rw [storedBy, bothAdds, hrun]; rfl, hconf'⟩

/-- One call after the other. -/
theorem evalRun_bothAdds {conf : CJson} (hconf : Represents conf []) {i j : Fin 2} (hij : i ≠ j) :
    ∃ conf', evalRun (fun v i => storedBy bothAdds i v) (some conf) [i, j] = some (some conf') ∧
      Represents conf' [jsonMapDvrInfoMake (newNvr i), jsonMapDvrInfoMake (newNvr j)] := by
  have hserial : ∀ i j : Fin 2, i ≠ j → (newNvr i).serial ≠ (newNvr j).serial := by decide
  obtain ⟨conf₁, h₁, hconf₁⟩ := storedBy_bothAdds i hconf (by decide) fun d hd => by cases hd
  obtain ⟨conf₂, h₂, hconf₂⟩ := storedBy_bothAdds j hconf₁ (by simp) fun d hd => by
    obtain rfl := List.mem_singleton.1 hd
    exact hserial i j hij
  refine ⟨conf₂, ?_, hconf₂⟩
  rw [evalRun, h₁, Option.bind_some, evalRun, h₂]
  rfl

/-- Two NVRs are added at the same time, and one of them is not in the list that is left. -/
theorem added_nvr_overwritten :
    ∃ s, Run (configStep bothAdds) (.init (some (jsonMapDvrListInfoMake [])))
      [.read 0, .read 1, .write 0, .write 1] s ∧
      ¬ Serialisable (storedBy bothAdds) (some (jsonMapDvrListInfoMake []))
        [.read 0, .read 1, .write 0, .write 1] s.store := by
  have hempty := represents_jsonMapDvrListInfoMake []
  obtain ⟨conf₀, h₀, -⟩ := storedBy_bothAdds 0 hempty (by decide) fun d hd => by cases hd
  obtain ⟨conf₁, h₁, hconf₁⟩ := storedBy_bothAdds 1 hempty (by decide) fun d hd => by cases hd
  refine ⟨⟨some conf₁, _⟩, ((Run.nil.snoc ⟨rfl, rfl⟩).snoc ⟨rfl, rfl⟩).snoc ⟨_, _, rfl, h₀, rfl⟩
    |>.snoc ⟨_, _, rfl, h₁, rfl⟩, ?_⟩
  rintro ⟨order, hperm, heval⟩
  -- one call after the other leaves both NVRs, and the list that is stored has one
  obtain ⟨i, j, hij, rfl⟩ : ∃ i j : Fin 2, i ≠ j ∧ order = [i, j] := by
    obtain ⟨i, j, rfl⟩ := List.length_eq_two.1 hperm.length_eq
    refine ⟨i, j, ?_, rfl⟩
    have hnodup : [i, j].Nodup := hperm.nodup_iff.2 (by decide)
    simpa using hnodup
  obtain ⟨conf₂, h₂, hconf₂⟩ := evalRun_bothAdds hempty hij
  obtain rfl := Option.some.inj (Option.some.inj (h₂.symm.trans heval))
  have hlength := congrArg List.length (hconf₁.unique hconf₂)
  simp at hlength

/-- The same calls one after the other. -/
theorem added_nvrs_kept :
    ∃ s, Run (configStep bothAdds) (.init (some (jsonMapDvrListInfoMake [])))
      [.read 0, .write 0, .read 1, .write 1] s ∧
      Serialisable (storedBy bothAdds) (some (jsonMapDvrListInfoMake []))
        [.read 0, .write 0, .read 1, .write 1] s.store := by
  have hempty := represents_jsonMapDvrListInfoMake []
  obtain ⟨conf₀, h₀, hconf₀⟩ := storedBy_bothAdds 0 hempty (by decide) fun d hd => by cases hd
  obtain ⟨conf₁, h₁, -⟩ := storedBy_bothAdds 1 hconf₀ (by simp) fun d hd => by
    obtain rfl := List.mem_singleton.1 hd
    decide
  have hrun := (run_alone (s := .init (some (jsonMapDvrListInfoMake []))) rfl h₀).append
    (run_alone rfl h₁)
  exact ⟨_, hrun.mono fun _ _ _ hs => hs.2, updates_kept bothAdds hrun⟩

end SmartPlat.HkSdkManage
