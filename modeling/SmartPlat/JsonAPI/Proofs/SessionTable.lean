import SmartPlat.JsonAPI.Switch
import SmartPlat.Adp.Proofs.SessionIds

set_option autoImplicit false

/-! # The table of sessions

A session id is given out a second time after 10000 logins: a login then gets an id that finds another
handle, and a logout removes another record. Besides, `JsonSwitch` would free the handle of any command
whose result is that of a refused login, and leave it in the list; no other handler returns this. -/

namespace SmartPlat.JsonAPI

open SmartPlat.Lib SmartPlat.UsrManage SmartPlat.Adp SmartPlat.Adp.AdpState

/-! ## What was answered -/

/-- A session as its client knows it, and the handle it is meant to be on. -/
structure Session where
  handle : HandlePtr
  ssionID : ℕ
  deriving DecidableEq, Repr

/-- The sessions that a login answered with success opened and that were not logged out, and the
    handles on which other modules are logged in. -/
structure Issued where
  sessions : List Session
  inner : List HandlePtr

def Issued.none : Issued := ⟨[], []⟩

def Issued.handles (g : Issued) : List HandlePtr := g.sessions.map Session.handle ++ g.inner

def Issued.tick (g : Issued) (_ : JsonState) (e : JsonEvent × JsonAnswer) : Issued :=
  if e.2.statuscode = some 200 then
    match e.1 with
    | .loginmainserver h _ _ => { g with sessions := g.sessions ++ [⟨h, e.2.sessionid.getD 0⟩] }
    | .loginoutmainserver ssionID =>
        { g with sessions := g.sessions.filter fun x => (x.ssionID : ℤ) ≠ ssionID }
    | .inner h _ _ => { g with inner := g.inner ++ [h] }
    | .command .. => g
    | .unknown => g
  else g

/-- A request with its answer, and what was answered so far. -/
abbrev IssuedStep : JsonState × Issued → JsonEvent × JsonAnswer → JsonState × Issued → Prop :=
  stepWith Issued.tick JsonStep

/-! ## The property and its condition -/

/-- The list holds the sessions that are open; each is found by its id; what is allocated, and what
    the adapter has records of, are their handles and those of other modules. -/
structure Consistent (x : JsonState × Issued) : Prop where
  listed : ∀ h, h ∈ x.1.adp.jsonListHead ↔ h ∈ x.2.sessions.map Session.handle
  found : ∀ y ∈ x.2.sessions, x.1.handleOf y.ssionID = some y.handle
  allocated : ∀ h, h ∈ x.1.allocated ↔ h ∈ x.2.handles
  registered : ∀ h, h ∈ x.1.adp.listUsrRegistHead.map AdpUsrRegistInfo.apiHandle ↔ h ∈ x.2.handles

/-- A login does not compose the id of an open session; the record that a logout finds by its id is
    its own; and no other command returns what a refused login returns. -/
def Regular (x : JsonState × Issued) (e : JsonEvent × JsonAnswer) : Prop :=
  let s := x.1.adp
  match e.1 with
  | .loginmainserver _ usrName password =>
      let level := authentication usrName.str password.str s.usrs
      level ≠ .invalid → ∀ h ∈ s.jsonListHead,
        (s.handles h).usrID ≠ composeID level ((s.usrID + 1) % 10000)
  | .loginoutmainserver ssionID =>
      ∀ h ∈ x.1.handleOf ssionID, ∀ usr ∈ s.getUsrRegistInfo (s.handles h).usrID,
        usr.apiHandle = h
  | .command ssionID iret _ =>
      x.1.handleOf ssionID ≠ none → iret ≠ keyUnauthorized ∧ iret ≠ keyUserrepeatlogin
  | .unknown => True
  | .inner .. => True

/-! ## The adapter -/

section Adapter

variable {s s' : AdpState} {h : HandlePtr} {usrName passwd : CString} {rc : ℤ}

/-- No value of the counter is a session id. -/
theorem makeUsrID_eq (hlarge : ∀ usr ∈ s.listUsrRegistHead, 10000 ≤ s.sessionID usr) (fuel n : ℕ) :
    s.makeUsrID (fuel + 1) n = some ((n + 1) % 10000) := by
  have hnone : s.getUsrRegistInfo ((n + 1) % 10000) = none := by
    rw [AdpState.getUsrRegistInfo, lookup_eq_none]
    intro usr hu
    have := hlarge usr hu
    omega
  rw [AdpState.makeUsrID]
  simp only [hnone]

/-- **What a login does** on a handle that has no record, while all session ids are large. -/
theorem registHandle_cases (hs : s.registHandle h usrName passwd = some (rc, s'))
    (hother : ∀ usr ∈ s.listUsrRegistHead, usr.apiHandle ≠ h ∧ 2 ^ 16 ≤ s.sessionID usr) :
    (rc = keyUnauthorized ∧ authentication usrName passwd s.usrs = .invalid ∧
        s' = s.initNoAuthor h) ∨
      (rc = keyTrue ∧ authentication usrName passwd s.usrs ≠ .invalid ∧ ∃ info handle,
        handle.usrID =
          composeID (authentication usrName passwd s.usrs) ((s.usrID + 1) % 10000) ∧
        s' = { s.setHandle h handle with
          usrID := (s.usrID + 1) % 10000
          listUsrRegistHead := s.listUsrRegistHead ++ [⟨h, info⟩] }) := by
  unfold AdpState.registHandle at hs
  simp only at hs
  split at hs
  · next hauth =>
      obtain ⟨rfl, rfl⟩ := Prod.mk.inj (Option.some.inj hs)
      exact Or.inl ⟨rfl, hauth, rfl⟩
  · next hauth =>
      obtain ⟨info, hfound, hs⟩ := Option.bind_eq_some_iff.1 hs
      obtain ⟨n, hn, heq⟩ := Option.map_eq_some_iff.1 hs
      obtain ⟨rfl, rfl⟩ := Prod.mk.inj heq
      rw [makeUsrID_eq, Option.some.injEq] at hn
      · subst hn
        refine Or.inr ⟨rfl, hauth, info, _, ?_, rfl⟩
        rw [(authenticated_info hauth hfound).2]
      · intro usr hu
        obtain ⟨hne, hlarge⟩ := hother usr hu
        rw [AdpState.sessionID, AdpState.setHandle_of_ne _ _ hne]
        exact Nat.le_trans (by decide) hlarge

/-- A logout that finds a record on some handle removes one record of that handle. -/
theorem unRegistHandle_records {usr : AdpUsrRegistInfo}
    (hfound : s.getUsrRegistInfo (s.handles h).usrID = some usr) :
    (s.unRegistHandle h).listUsrRegistHead = s.listUsrRegistHead.erase usr ∧
      (s.unRegistHandle h).jsonListHead = s.jsonListHead ∧
      ∀ h' ≠ h, (s.unRegistHandle h).handles h' = s.handles h' := by
  rw [AdpState.unRegistHandle, hfound]
  exact ⟨rfl, rfl, fun h' hne => AdpState.setHandle_of_ne _ _ hne⟩

end Adapter

/-! ## The same in steps

A login and a logout that run alone are runs of one thread of the adapter. -/

section Alone

variable {s s' : AdpState} {h : HandlePtr} {n m usrID fuel : ℕ} {usr : AdpUsrRegistInfo}

theorem getUsrRegistInfo_midLogin (stage stage' : LoginStage) (m n usrID : ℕ) :
    (s.midLogin usr stage m usrID).getUsrRegistInfo =
      (s.midLogin usr stage' n usrID).getUsrRegistInfo := rfl

/-- The search of `MakeUsrID` reads neither the counter nor the threads. -/
theorem makeUsrID_congr (hsame : s.getUsrRegistInfo = s'.getUsrRegistInfo) (fuel n : ℕ) :
    s.makeUsrID fuel n = s'.makeUsrID fuel n := by
  induction fuel generalizing n with
  | zero => rfl
  | succ fuel ih =>
      rw [AdpState.makeUsrID, AdpState.makeUsrID]
      simp only [hsame, ih]

theorem makeUsrID_run
    (hm : (s.midLogin usr .registered 0 usrID).makeUsrID fuel n = some m) : ∃ tr,
      Run AdpStep (s.midLogin usr .registered n usrID) tr (s.midLogin usr .searched m usrID) := by
  induction fuel generalizing n with
  | zero => cases hm
  | succ fuel ih =>
      have hround : Run AdpStep (s.midLogin usr .registered n usrID) [.increment 0, .wrap 0]
          (s.midLogin usr .wrapped ((n + 1) % 10000) usrID) :=
        (Run.nil.snoc step_increment).snoc step_wrap
      rw [AdpState.makeUsrID, getUsrRegistInfo_midLogin _ .wrapped _ ((n + 1) % 10000)] at hm
      split at hm
      · next found hfound =>
          have hsearch : AdpStep (s.midLogin usr .wrapped ((n + 1) % 10000) usrID) (.search 0)
              (s.midLogin usr .registered ((n + 1) % 10000) usrID) := by
            have hcounter : (s.midLogin usr .wrapped ((n + 1) % 10000) usrID).usrID =
                (n + 1) % 10000 := rfl
            simp only [AdpStep, adpStep, midLogin_self, hcounter, hfound]
            simp [AdpState.midLogin, AdpState.setThread]
          obtain ⟨tr, hrun⟩ := ih hm
          exact ⟨_, (hround.snoc hsearch).append hrun⟩
      · next hnone =>
          obtain rfl := Option.some.inj hm
          exact ⟨_, hround.snoc (step_search hnone)⟩

/-- A login that returns is a run of the adapter. -/
theorem registHandle_run {usrName : CharArray dfMaxlenUsrname} {passwd : CString} {rc : ℤ}
    (hidle : s.threads 0 = .idle) (hs : s.registHandle h usrName.str passwd = some (rc, s')) :
    ∃ tr, Run AdpStep s tr s' := by
  unfold AdpState.registHandle at hs
  simp only at hs
  split at hs
  · next hauth =>
      obtain ⟨rfl, rfl⟩ := Prod.mk.inj (Option.some.inj hs)
      refine ⟨_, Run.nil.snoc (a := .regist 0 h usrName.str passwd) ?_⟩
      simp only [AdpStep, adpStep, hidle, adpRegistHandle, if_pos hauth]
  · next hauth =>
      obtain ⟨info, hfound, hs⟩ := Option.bind_eq_some_iff.1 hs
      obtain ⟨n, hn, heq⟩ := Option.map_eq_some_iff.1 hs
      obtain ⟨rfl, rfl⟩ := Prod.mk.inj heq
      obtain ⟨hname, hlevel⟩ := authenticated_info hauth hfound
      rw [snprintf_str] at hname hfound hn ⊢
      obtain rfl : info.usrname = usrName := CharArray.ext_str hname
      have hregist : AdpStep s (.regist 0 h info.usrname.str passwd)
          (s.midLogin ⟨h, info⟩ .registered s.usrID 0) :=
        @step_regist s ⟨h, info⟩ passwd hidle hlevel.symm (hlevel.trans_ne hauth) hfound
      rw [← hlevel] at hn ⊢
      -- the number of rounds plays no role
      generalize 10000 = fuel at hn
      have hsame : (s.midLogin ⟨h, info⟩ .registered 0 0).getUsrRegistInfo =
          (s.setHandle h ⟨0, info.usrname, installFunctions info.userLevel
            (initNoAuthorFunctions (s.handles h).functions)⟩).getUsrRegistInfo := rfl
      obtain ⟨tr, hloop⟩ := makeUsrID_run ((makeUsrID_congr hsame fuel s.usrID).trans hn)
      exact ⟨_, (((Run.nil.snoc hregist).append hloop).snoc step_compose).snoc
        (step_addHandle hidle)⟩

/-- A logout is one, if it finds a record. -/
theorem unRegistHandle_run (hidle : s.threads 0 = .idle)
    (hfound : s.getUsrRegistInfo (s.handles h).usrID = some usr) :
    Run AdpStep s [.unRegist 0 h, .delHandle 0] (s.unRegistHandle h) := by
  have hfind : AdpStep s (.unRegist 0 h) (s.setThread 0 (.logout h usr)) := by
    simp only [AdpStep, adpStep, hidle, hfound]
  have hback : Function.update s.threads 0 .idle = s.threads := by
    rw [← hidle, Function.update_eq_self]
  refine (Run.nil.snoc hfind).snoc ?_
  have hmem : usr ∈ s.listUsrRegistHead := mem_of_lookup hfound
  simp [AdpStep, adpStep, AdpState.setThread, AdpState.initNoAuthor, AdpState.setHandle,
    AdpState.unRegistHandle, hfound, hmem, hback]

end Alone

/-! ## The invariant -/

structure TableInv (x : JsonState × Issued) : Prop where
  listed : x.1.adp.jsonListHead = x.2.sessions.map Session.handle
  ids : ∀ y ∈ x.2.sessions, (x.1.adp.handles y.handle).usrID = y.ssionID
  distinct : (x.2.sessions.map Session.ssionID).Nodup
  handles : x.2.handles.Nodup
  records : (x.1.adp.listUsrRegistHead.map AdpUsrRegistInfo.apiHandle).Perm x.2.handles
  allocated : ∀ h, h ∈ x.1.allocated ↔ h ∈ x.2.handles
  large : ∀ h ∈ x.2.handles, 2 ^ 16 ≤ (x.1.adp.handles h).usrID

section Invariant

variable {x : JsonState × Issued} {s s' : JsonState} {g : Issued} {h : HandlePtr} {y : Session}

theorem mem_handles (hy : y ∈ g.sessions) : y.handle ∈ g.handles :=
  List.mem_append_left _ (List.mem_map.2 ⟨y, hy, rfl⟩)

theorem TableInv.found (hI : TableInv (s, g)) (hy : y ∈ g.sessions) :
    s.handleOf y.ssionID = some y.handle := by
  have hkeys : (s.adp.jsonListHead.map fun h => (s.adp.handles h).usrID).Nodup := by
    rw [hI.listed, List.map_map, List.map_congr_left (g := Session.ssionID)]
    · exact hI.distinct
    · exact fun z hz => hI.ids z hz
  have hmem : y.handle ∈ s.adp.jsonListHead := by
    rw [hI.listed]
    exact List.mem_map.2 ⟨y, hy, rfl⟩
  rw [JsonState.handleOf, if_pos (Int.natCast_nonneg _), Int.toNat_natCast, ← hI.ids y hy]
  exact lookup_of_mem hkeys hmem

theorem TableInv.consistent (hI : TableInv x) : Consistent x where
  listed h := by rw [hI.listed]
  found _ hy := hI.found hy
  allocated := hI.allocated
  registered _ := hI.records.mem_iff

/-- The session of the handle that a request finds. -/
theorem TableInv.session (hI : TableInv (s, g)) {ssionID : ℤ} (hh : s.handleOf ssionID = some h) :
    ∃ y ∈ g.sessions, y.handle = h ∧ (y.ssionID : ℤ) = ssionID := by
  unfold JsonState.handleOf at hh
  split at hh
  · next hpos =>
      have hmem := mem_of_lookup hh
      have hkey : (s.adp.handles h).usrID = ssionID.toNat :=
        @key_of_lookup _ _ _ (fun h => (s.adp.handles h).usrID) _ _ _ hh
      rw [hI.listed] at hmem
      obtain ⟨y, hy, rfl⟩ := List.mem_map.1 hmem
      refine ⟨y, hy, rfl, ?_⟩
      rw [← hI.ids y hy, hkey, Int.toNat_of_nonneg hpos]
  · cases hh

theorem TableInv.other (hI : TableInv (s, g)) (hh : h ∉ s.allocated) :
    ∀ usr ∈ s.adp.listUsrRegistHead, usr.apiHandle ≠ h ∧ 2 ^ 16 ≤ s.adp.sessionID usr := by
  intro usr hu
  have hmem : usr.apiHandle ∈ g.handles :=
    hI.records.mem_iff.1 (List.mem_map.2 ⟨usr, hu, rfl⟩)
  refine ⟨?_, hI.large _ hmem⟩
  rintro rfl
  exact hh ((hI.allocated _).2 hmem)

/-- A handle that is not in use is written. -/
theorem TableInv.setHandle (hI : TableInv (s, g)) (hh : h ∉ s.allocated) (handle : AdpAPIHandle) :
    TableInv (⟨s.adp.setHandle h handle, s.allocated⟩, g) := by
  have hkeep : ∀ h' ∈ g.handles, (s.adp.setHandle h handle).handles h' = s.adp.handles h' := by
    intro h' hh'
    refine AdpState.setHandle_of_ne _ _ ?_
    rintro rfl
    exact hh ((hI.allocated _).2 hh')
  refine ⟨hI.listed, fun y hy => ?_, hI.distinct, hI.handles, hI.records, hI.allocated,
    fun h' hh' => ?_⟩
  · rw [hkeep _ (mem_handles hy)]
    exact hI.ids y hy
  · rw [hkeep _ hh']
    exact hI.large _ hh'

/-- A handle comes into use, for a session or for another module. -/
theorem TableInv.enter (hI : TableInv (s, g)) (hh : h ∉ s.allocated) {handle : AdpAPIHandle}
    {info : UsrInfo} {n : ℕ} {json : List HandlePtr} {g' : Issued}
    (hlarge : 2 ^ 16 ≤ handle.usrID) (hperm : g'.handles.Perm (h :: g.handles))
    (hlisted : json = g'.sessions.map Session.handle)
    (hsessions : ∀ y ∈ g'.sessions, y ∈ g.sessions ∨ y = ⟨h, handle.usrID⟩)
    (hdistinct : (g'.sessions.map Session.ssionID).Nodup) :
    TableInv (⟨{ s.adp.setHandle h handle with
        usrID := n
        listUsrRegistHead := s.adp.listUsrRegistHead ++ [⟨h, info⟩]
        jsonListHead := json }, insert h s.allocated⟩, g') := by
  have hnew : h ∉ g.handles := fun hmem => hh ((hI.allocated h).2 hmem)
  have hkeep : ∀ h' ∈ g.handles, (s.adp.setHandle h handle).handles h' = s.adp.handles h' := by
    intro h' hh'
    refine AdpState.setHandle_of_ne _ _ ?_
    rintro rfl
    exact hnew hh'
  refine ⟨hlisted, fun y hy => ?_, hdistinct, ?_, ?_, fun h' => ?_, fun h' hh' => ?_⟩
  · rcases hsessions y hy with hold | rfl
    · have hsame := hkeep _ (mem_handles hold)
      exact (congrArg AdpAPIHandle.usrID hsame).trans (hI.ids y hold)
    · exact congrArg AdpAPIHandle.usrID (AdpState.setHandle_self _ _ _)
  · exact hperm.nodup_iff.2 (List.nodup_cons.2 ⟨hnew, hI.handles⟩)
  · rw [List.map_append]
    refine List.Perm.trans ?_ hperm.symm
    exact (List.perm_append_singleton _ _).trans (hI.records.cons h)
  · rw [Finset.mem_insert, hperm.mem_iff, List.mem_cons, hI.allocated]
  · rcases List.mem_cons.1 (hperm.mem_iff.1 hh') with rfl | hold
    · exact hlarge.trans_eq (congrArg AdpAPIHandle.usrID (AdpState.setHandle_self s.adp h' handle)).symm
    · exact (hI.large h' hold).trans_eq (congrArg AdpAPIHandle.usrID (hkeep h' hold)).symm

theorem erase_map_handle {l : List Session} (hl : (l.map Session.handle).Nodup) (hy : y ∈ l) :
    (l.map Session.handle).erase y.handle = (l.erase y).map Session.handle := by
  rw [hl.erase_eq_filter, (List.Nodup.of_map _ hl).erase_eq_filter, List.filter_map]
  refine congrArg _ (List.filter_congr fun z hz => ?_)
  rw [Bool.eq_iff_iff, Function.comp_apply, bne_iff_ne, bne_iff_ne]
  exact not_congr ⟨fun h => List.inj_on_of_nodup_map hl hz hy h, fun h => congrArg _ h⟩

/-- A handle goes out of use. -/
theorem TableInv.leave (hI : TableInv (s, g)) (hy : y ∈ g.sessions) {s' : JsonState} {g' : Issued}
    (hg : g' = { g with sessions := g.sessions.erase y })
    (hlist : s'.adp.jsonListHead = s.adp.jsonListHead.erase y.handle)
    (hrecords : (s.adp.listUsrRegistHead.map AdpUsrRegistInfo.apiHandle).Perm
      (y.handle :: s'.adp.listUsrRegistHead.map AdpUsrRegistInfo.apiHandle))
    (hallocated : s'.allocated = s.allocated.erase y.handle)
    (hkeep : ∀ h' ≠ y.handle, s'.adp.handles h' = s.adp.handles h') : TableInv (s', g') := by
  subst hg
  have hnodup : (g.sessions.map Session.handle).Nodup := (List.nodup_append.1 hI.handles).1
  have herase := erase_map_handle hnodup hy
  have hperm : g.handles.Perm
      (y.handle :: ({ g with sessions := g.sessions.erase y } : Issued).handles) :=
    ((List.perm_cons_erase hy).map Session.handle).append_right g.inner
  have hcons := List.nodup_cons.1 (hperm.nodup_iff.1 hI.handles)
  have hne : ∀ h' ∈ ({ g with sessions := g.sessions.erase y } : Issued).handles,
      h' ≠ y.handle ∧ h' ∈ g.handles := by
    intro h' hh'
    refine ⟨?_, hperm.mem_iff.2 (List.mem_cons_of_mem _ hh')⟩
    rintro rfl
    exact hcons.1 hh'
  refine ⟨?_, fun z hz => ?_, ?_, hcons.2, ?_, fun h' => ?_, fun h' hh' => ?_⟩
  · rw [hlist, hI.listed, herase]
  · rw [hkeep _ (hne _ (mem_handles hz)).1]
    exact hI.ids z (List.mem_of_mem_erase hz)
  · exact hI.distinct.sublist (List.erase_sublist.map _)
  · exact (hrecords.symm.trans (hI.records.trans hperm)).cons_inv
  · rw [hallocated, Finset.mem_erase, hI.allocated, hperm.mem_iff, List.mem_cons]
    constructor
    · intro ⟨hneq, hmem⟩
      exact hmem.resolve_left hneq
    · intro hmem
      exact ⟨(hne h' hmem).1, .inr hmem⟩
  · rw [hkeep _ (hne _ hh').1]
    exact hI.large _ (hne _ hh').2

end Invariant

/-! ## Requests -/

section Requests

variable {s s' : JsonState} {g : Issued} {answer : JsonAnswer} {h : HandlePtr} {ssionID : ℤ}
  {usrName : CharArray dfMaxlenUsrname} {password : CharArray dfMaxlenPasswd}

/-- The code of a refused login frees the handle. -/
theorem respond_state (iret : ℤ) (sessionid : Option ℕ) : (respond h iret sessionid s).2 =
    ⟨s.adp, if iret = keyUnauthorized ∨ iret = keyUserrepeatlogin then s.allocated.erase h
      else s.allocated⟩ := by
  rw [respond]
  split
  · next htrue =>
      rw [if_neg (by rw [htrue]; decide)]
  · split
    · next hno =>
        rw [if_neg (by rw [hno]; decide)]
    · dsimp only
      split
      · rfl
      · rfl

theorem setHandle_setHandle (a : AdpState) (handle handle' : AdpAPIHandle) :
    (a.setHandle h handle).setHandle h handle' = a.setHandle h handle' := by
  rw [AdpState.setHandle, AdpState.setHandle, AdpState.setHandle]
  simp only [Function.update_idem]

theorem initNoAuthor_setHandle (h : HandlePtr) (a : AdpState) (handle : AdpAPIHandle) :
    ∃ handle', (a.setHandle h handle).initNoAuthor h = a.setHandle h handle' :=
  ⟨_, setHandle_setHandle a handle _⟩

theorem funLogin_cases {iret : ℤ} {sessionid : Option ℕ}
    (hs : funLogin h usrName password s = some (iret, sessionid, s'))
    (hother : ∀ usr ∈ s.adp.listUsrRegistHead, usr.apiHandle ≠ h ∧ 2 ^ 16 ≤ s.adp.sessionID usr) :
    (iret = keyUnauthorized ∧ authentication usrName.str password.str s.adp.usrs = .invalid ∧
        sessionid = none ∧ s' = { s with adp := s.adp.initNoAuthor h }) ∨
      (iret = keyTrue ∧ authentication usrName.str password.str s.adp.usrs ≠ .invalid ∧
        ∃ info handle, handle.usrID = composeID (authentication usrName.str password.str s.adp.usrs)
            ((s.adp.usrID + 1) % 10000) ∧
          sessionid = some handle.usrID ∧
          s' = { s with adp := { s.adp.setHandle h handle with
            usrID := (s.adp.usrID + 1) % 10000
            listUsrRegistHead := s.adp.listUsrRegistHead ++ [⟨h, info⟩]
            jsonListHead := s.adp.jsonListHead ++ [h] } }) := by
  obtain ⟨⟨rc, adp⟩, hregist, heq⟩ := Option.map_eq_some_iff.1 hs
  rcases registHandle_cases hregist hother with
    ⟨rfl, hauth, rfl⟩ | ⟨rfl, hauth, info, handle, hid, rfl⟩
  · have hrefused : keyUnauthorized ≠ keyTrue := by decide
    simp only [if_pos (Or.inl hrefused), Prod.mk.injEq] at heq
    obtain ⟨rfl, rfl, rfl⟩ := heq
    exact Or.inl ⟨rfl, hauth, rfl, rfl⟩
  · have hpos : ¬ (keyTrue ≠ keyTrue ∨ handle.usrID = 0) := by
      have hlarge := composeID_large hauth (Nat.mod_lt (s.adp.usrID + 1) (by decide : 10000 > 0))
      rw [hid]
      omega
    simp only [AdpState.setHandle_self, if_neg hpos, Prod.mk.injEq] at heq
    obtain ⟨rfl, rfl, rfl⟩ := heq
    exact Or.inr ⟨rfl, hauth, info, handle, hid, rfl, rfl⟩

/-- **A login.** It is refused and leaves nothing behind, or it opens a session under the id that the
    level of the user and the counter make. -/
theorem login_cases (hI : TableInv (s, g))
    (hs : jsonSwitch s (.loginmainserver h usrName password) = some (answer, s')) :
    h ∉ s.allocated ∧
    ((authentication usrName.str password.str s.adp.usrs = .invalid ∧
        answer = ⟨some keyUnauthorized, none⟩ ∧
        ∃ handle, s' = ⟨s.adp.setHandle h handle, s.allocated⟩) ∨
      (authentication usrName.str password.str s.adp.usrs ≠ .invalid ∧ ∃ info handle,
        handle.usrID = composeID (authentication usrName.str password.str s.adp.usrs)
          ((s.adp.usrID + 1) % 10000) ∧
        answer = ⟨some 200, some handle.usrID⟩ ∧
        s' = ⟨{ s.adp.setHandle h handle with
            usrID := (s.adp.usrID + 1) % 10000
            listUsrRegistHead := s.adp.listUsrRegistHead ++ [⟨h, info⟩]
            jsonListHead := s.adp.jsonListHead ++ [h] }, insert h s.allocated⟩)) := by
  rw [jsonSwitch] at hs
  split at hs
  · cases hs
  · next hh =>
      refine ⟨hh, ?_⟩
      obtain ⟨⟨iret, sessionid, s₁⟩, hlogin, hrespond⟩ := Option.map_eq_some_iff.1 hs
      rcases funLogin_cases hlogin ((hI.setHandle hh clearHandle).other hh) with
        ⟨rfl, hauth, rfl, rfl⟩ | ⟨rfl, hauth, info, handle, hid, rfl, rfl⟩
      · obtain ⟨rfl, rfl⟩ := Prod.mk.inj hrespond
        obtain ⟨handle, hclear⟩ := initNoAuthor_setHandle h s.adp clearHandle
        refine Or.inl ⟨hauth, rfl, handle, ?_⟩
        dsimp only
        rw [if_pos (Or.inl rfl), Finset.erase_insert hh, hclear]
      · obtain ⟨rfl, rfl⟩ := Prod.mk.inj hrespond
        refine Or.inr ⟨hauth, info, handle, hid, rfl, ?_⟩
        simp only [setHandle_setHandle]
        rfl

/-- **A logout** of a session that is found. -/
theorem logout_cases (hI : TableInv (s, g))
    (hs : jsonSwitch s (.loginoutmainserver ssionID) = some (answer, s')) :
    (s.handleOf ssionID = none ∧ answer = ⟨some keyUnauthorized, none⟩ ∧ s' = s) ∨
      ∃ y ∈ g.sessions, ∃ usr, s.handleOf ssionID = some y.handle ∧ (y.ssionID : ℤ) = ssionID ∧
        s.adp.getUsrRegistInfo (s.adp.handles y.handle).usrID = some usr ∧
        answer = ⟨some 200, none⟩ ∧
        s'.adp.listUsrRegistHead = s.adp.listUsrRegistHead.erase usr ∧
        s'.adp.jsonListHead = s.adp.jsonListHead.erase y.handle ∧
        s'.allocated = s.allocated.erase y.handle ∧
        ∀ h' ≠ y.handle, s'.adp.handles h' = s.adp.handles h' := by
  rw [jsonSwitch] at hs
  split at hs
  · next hnone =>
      obtain ⟨rfl, rfl⟩ := Prod.mk.inj (Option.some.inj hs)
      exact Or.inl ⟨hnone, rfl, rfl⟩
  · next h hh =>
      obtain ⟨y, hy, rfl, hid⟩ := hI.session hh
      obtain ⟨r, hr, hrh⟩ := List.mem_map.1 (hI.records.mem_iff.2 (mem_handles hy))
      -- the search finds a record, since the own one has the id
      have hsome : s.adp.getUsrRegistInfo (s.adp.handles y.handle).usrID ≠ none := by
        rw [AdpState.getUsrRegistInfo, Ne, lookup_eq_none]
        intro hall
        exact hall r hr (by rw [AdpState.sessionID, hrh])
      obtain ⟨usr, husr⟩ := Option.ne_none_iff_exists'.1 hsome
      obtain ⟨hlist, hjson, hkeep⟩ := unRegistHandle_records husr
      have hmem : y.handle ∈ (s.adp.unRegistHandle y.handle).jsonListHead := by
        rw [hjson, hI.listed]
        exact List.mem_map.2 ⟨y, hy, rfl⟩
      rw [funLoginOut, if_pos hmem] at hs
      obtain ⟨rfl, rfl⟩ := Prod.mk.inj (Option.some.inj hs)
      exact Or.inr ⟨y, hy, usr, hh, hid, husr, rfl, hlist, congrArg (List.erase · _) hjson, rfl, hkeep⟩

/-- Another module logs in. -/
theorem inner_cases (hI : TableInv (s, g)) {usrName passwd : CString}
    (hs : jsonSwitch s (.inner h usrName passwd) = some (answer, s')) :
    h ∉ s.allocated ∧
    ((answer = ⟨some keyUnauthorized, none⟩ ∧ ∃ handle, s' = ⟨s.adp.setHandle h handle, s.allocated⟩) ∨
      ∃ info handle, 2 ^ 16 ≤ handle.usrID ∧ answer = ⟨some 200, none⟩ ∧
        s' = ⟨{ s.adp.setHandle h handle with
            usrID := (s.adp.usrID + 1) % 10000
            listUsrRegistHead := s.adp.listUsrRegistHead ++ [⟨h, info⟩]
            jsonListHead := s.adp.jsonListHead }, insert h s.allocated⟩) := by
  rw [jsonSwitch] at hs
  split at hs
  · cases hs
  · next hh =>
      refine ⟨hh, ?_⟩
      obtain ⟨⟨rc, adp⟩, hregist, heq⟩ := Option.map_eq_some_iff.1 hs
      rcases registHandle_cases hregist (hI.other hh) with
        ⟨rfl, -, rfl⟩ | ⟨rfl, hauth, info, handle, hid, rfl⟩
      · have hrefused : ¬ keyUnauthorized = keyTrue := by decide
        rw [if_neg hrefused] at heq
        obtain ⟨rfl, rfl⟩ := Prod.mk.inj heq
        exact Or.inl ⟨rfl, _, rfl⟩
      · obtain ⟨rfl, rfl⟩ := Prod.mk.inj heq
        have hlarge := composeID_large hauth (Nat.mod_lt (s.adp.usrID + 1) (by decide))
        exact Or.inr ⟨info, handle, hid ▸ hlarge, rfl, rfl⟩

/-- **Any other command.** -/
theorem command_cases {iret : ℤ} {usrs : List UsrInfo}
    (hs : jsonSwitch s (.command ssionID iret usrs) = some (answer, s')) :
    (s.handleOf ssionID = none ∧ s' = s) ∨ ∃ h, s.handleOf ssionID = some h ∧
      s' = ⟨{ s.adp with usrs }, if iret = keyUnauthorized ∨ iret = keyUserrepeatlogin then
        s.allocated.erase h else s.allocated⟩ := by
  rw [jsonSwitch] at hs
  split at hs
  · next hnone =>
      obtain ⟨-, rfl⟩ := Prod.mk.inj (Option.some.inj hs)
      exact Or.inl ⟨hnone, rfl⟩
  · next h hh =>
      refine Or.inr ⟨h, hh, ?_⟩
      have hstate := congrArg Prod.snd (Option.some.inj hs)
      rw [respond_state] at hstate
      exact hstate.symm

end Requests

/-! ## Steps -/

section Steps

variable {x x' : JsonState × Issued} {e : JsonEvent × JsonAnswer}

/-- A session is named by its id. -/
theorem sessions_logout {g : Issued} (hdistinct : (g.sessions.map Session.ssionID).Nodup)
    {y : Session} (hy : y ∈ g.sessions) {ssionID : ℤ} (hid : (y.ssionID : ℤ) = ssionID) :
    (g.sessions.filter fun x => (x.ssionID : ℤ) ≠ ssionID) = g.sessions.erase y := by
  subst hid
  rw [(List.Nodup.of_map _ hdistinct).erase_eq_filter]
  refine List.filter_congr fun z hz => ?_
  rw [Bool.eq_iff_iff, bne_iff_ne, decide_eq_true_iff]
  refine not_congr ⟨fun h => ?_, fun h => congrArg _ (congrArg _ h)⟩
  exact List.inj_on_of_nodup_map hdistinct hz hy (Int.natCast_inj.1 h)

/-- **A regular request keeps the table.** -/
theorem TableInv.step (hI : TableInv x) (hreg : Regular x e) (hs : IssuedStep x e x') :
    TableInv x' := by
  obtain ⟨s, g⟩ := x
  obtain ⟨s', g'⟩ := x'
  obtain ⟨event, answer⟩ := e
  obtain ⟨hs, hg⟩ := hs
  simp only at hs hg
  cases event with
  | loginmainserver h usrName password =>
      obtain ⟨hh, ⟨-, rfl, handle, rfl⟩ | ⟨hauth, info, handle, hid, rfl, rfl⟩⟩ := login_cases hI hs
      · obtain rfl : g' = g := hg
        exact hI.setHandle hh handle
      · obtain rfl : g' = { g with sessions := g.sessions ++ [⟨h, handle.usrID⟩] } := hg
        -- no handle of the list has this id, and every session has its handle there
        have hfresh : handle.usrID ∉ g.sessions.map Session.ssionID := by
          intro hmem
          obtain ⟨y, hy, hyid⟩ := List.mem_map.1 hmem
          refine hreg hauth y.handle ?_ ?_
          · rw [hI.listed]
            exact List.mem_map.2 ⟨y, hy, rfl⟩
          · rw [← hid, ← hyid]
            exact hI.ids y hy
        refine hI.enter hh ?_ ?_ ?_ (fun y hy => ?_) ?_
        · rw [hid]
          exact composeID_large hauth (Nat.mod_lt _ (by decide))
        · rw [Issued.handles, List.map_append, List.append_assoc]
          exact List.perm_middle
        · rw [hI.listed, List.map_append]
          rfl
        · exact (List.mem_append.1 hy).imp_right List.mem_singleton.1
        · rw [List.map_append]
          exact List.nodup_append'.2 ⟨hI.distinct, List.nodup_singleton _,
            List.disjoint_singleton.2 hfresh⟩
  | loginoutmainserver ssionID =>
      rcases logout_cases hI hs with ⟨-, rfl, rfl⟩ |
        ⟨y, hy, usr, hfound, hid, husr, rfl, hrecords, hjson, hfree, hkeep⟩
      · obtain rfl : g' = g := hg
        exact hI
      · -- the two lists are searched with the same number; here they find the same session
        have hown : usr.apiHandle = y.handle := hreg _ hfound usr husr
        have hg' : g' = { g with sessions := g.sessions.erase y } := by
          rw [← sessions_logout hI.distinct hy hid]
          exact hg
        refine hI.leave hy hg' hjson ?_ hfree hkeep
        rw [hrecords, ← hown]
        exact (List.perm_cons_erase (mem_of_lookup husr)).map AdpUsrRegistInfo.apiHandle
  | command ssionID iret usrs =>
      obtain rfl : g' = g := by
        rw [hg, Issued.tick]
        exact ite_self g
      rcases command_cases hs with ⟨-, rfl⟩ | ⟨h, hfound, rfl⟩
      · exact hI
      · have hcode := hreg (by rw [hfound]; exact Option.some_ne_none h)
        have hkept : ¬ (iret = keyUnauthorized ∨ iret = keyUserrepeatlogin) :=
          not_or.2 hcode
        rw [if_neg hkept]
        exact ⟨hI.listed, hI.ids, hI.distinct, hI.handles, hI.records, hI.allocated, hI.large⟩
  | unknown =>
      obtain ⟨rfl, rfl⟩ := Prod.mk.inj (Option.some.inj hs)
      obtain rfl : g' = g := hg
      exact hI
  | inner h usrName passwd =>
      obtain ⟨hh, ⟨rfl, handle, rfl⟩ | ⟨info, handle, hlarge, rfl, rfl⟩⟩ := inner_cases hI hs
      · obtain rfl : g' = g := hg
        exact hI.setHandle hh handle
      · obtain rfl : g' = { g with inner := g.inner ++ [h] } := hg
        refine hI.enter hh hlarge ?_ hI.listed (fun y hy => Or.inl hy) hI.distinct
        rw [Issued.handles, ← List.append_assoc]
        exact List.perm_append_singleton _ _

/-- **Any other request breaks it.** -/
theorem TableInv.not_consistent (hI : TableInv x) (hreg : ¬ Regular x e) (hs : IssuedStep x e x') :
    ¬ Consistent x' := by
  obtain ⟨s, g⟩ := x
  obtain ⟨s', g'⟩ := x'
  obtain ⟨event, answer⟩ := e
  obtain ⟨hs, hg⟩ := hs
  simp only at hs hg
  intro hc
  cases event with
  | loginmainserver h usrName password =>
      simp only [Regular, not_forall, not_not] at hreg
      obtain ⟨hauth, h', hmem, hsame⟩ := hreg
      obtain ⟨hh, ⟨hrefused, -⟩ | ⟨-, info, handle, hid, rfl, rfl⟩⟩ := login_cases hI hs
      · exact hauth hrefused
      · obtain rfl : g' = { g with sessions := g.sessions ++ [⟨h, handle.usrID⟩] } := hg
        have hne : h' ≠ h := by
          rintro rfl
          rw [hI.listed] at hmem
          exact hh ((hI.allocated h').2 (List.mem_append_left _ hmem))
        have hfound := hc.found ⟨h, handle.usrID⟩ (List.mem_append_right _ (List.mem_singleton_self _))
        rw [JsonState.handleOf, if_pos (Int.natCast_nonneg _), Int.toNat_natCast] at hfound
        -- the search stops at the older handle, or before it
        have hlisted : h ∈ s.adp.jsonListHead := by
          refine mem_of_lookup_append hfound hmem ?_
          rw [hid, ← hsame]
          exact congrArg AdpAPIHandle.usrID (AdpState.setHandle_of_ne s.adp handle hne)
        rw [hI.listed] at hlisted
        exact hh ((hI.allocated h).2 (List.mem_append_left _ hlisted))
  | loginoutmainserver ssionID =>
      simp only [Regular, not_forall] at hreg
      obtain ⟨h, hfound, usr, husr, hne⟩ := hreg
      rcases logout_cases hI hs with ⟨hnone, -⟩ |
        ⟨y, hy, usr', hfound', hid, husr', rfl, hrecords, -⟩
      · rw [hnone] at hfound
        cases hfound
      · obtain rfl : h = y.handle := Option.some.inj (hfound.symm.trans hfound')
        obtain rfl : usr = usr' := Option.some.inj (husr.symm.trans husr')
        have hg' : g' = { g with sessions := g.sessions.erase y } := by
          rw [← sessions_logout hI.distinct hy hid]
          exact hg
        have hperm := (List.perm_cons_erase (mem_of_lookup husr)).map AdpUsrRegistInfo.apiHandle
        have hin : usr.apiHandle ∈ g.handles :=
          hI.records.mem_iff.1 (List.mem_map.2 ⟨usr, mem_of_lookup husr, rfl⟩)
        have hkept : usr.apiHandle ∈ g'.handles := by
          have hsplit : g.handles.Perm
              (y.handle :: ({ g with sessions := g.sessions.erase y } : Issued).handles) :=
            ((List.perm_cons_erase hy).map Session.handle).append_right g.inner
          rw [hg']
          exact (List.mem_cons.1 (hsplit.mem_iff.1 hin)).resolve_left hne
        have hgone := (hc.registered usr.apiHandle).2 hkept
        simp only [hrecords] at hgone
        have hnodup := hperm.nodup_iff.1 (hI.records.nodup_iff.2 hI.handles)
        exact (List.nodup_cons.1 hnodup).1 hgone
  | command ssionID iret usrs =>
      simp only [Regular, not_forall] at hreg
      obtain ⟨hfound, hcode⟩ := hreg
      rw [← not_or, not_not] at hcode
      rcases command_cases hs with ⟨hnone, -⟩ | ⟨h, hh, rfl⟩
      · exact hfound hnone
      · obtain ⟨y, hy, rfl, -⟩ := hI.session hh
        obtain rfl : g' = g := by
          rw [hg, Issued.tick]
          exact ite_self g
        have hfreed := (hc.allocated y.handle).2 (mem_handles hy)
        simp only [if_pos hcode, Finset.mem_erase, ne_eq, not_true, false_and] at hfreed
  | unknown => exact hreg trivial
  | inner h usrName passwd => exact hreg trivial

end Steps

/-! ## Runs -/

theorem issuedStep_deterministic (x : JsonState × Issued) (e : JsonEvent × JsonAnswer)
    (y z : JsonState × Issued) (hy : IssuedStep x e y) (hz : IssuedStep x e z) : y = z := by
  have hstate := (Prod.mk.inj (Option.some.inj (hy.1.symm.trans hz.1))).2
  exact Prod.ext hstate (hy.2.trans hz.2.symm)

theorem tableInv_init (usrs : List UsrInfo) : TableInv (.init usrs, .none) :=
  ⟨rfl, fun _ hy => (nomatch hy), List.nodup_nil, List.nodup_nil, List.Perm.nil,
    fun h => by simp [JsonState.init, Issued.handles, Issued.none], fun _ hh => (nomatch hh)⟩

/-- **The table of sessions** is consistent with what was answered, in every state of a run, exactly
    when every request of the run is regular. -/
theorem sessionTable_iff {usrs : List UsrInfo} {tr : List (JsonEvent × JsonAnswer)}
    {x : JsonState × Issued} (h : Run IssuedStep (.init usrs, .none) tr x) :
    (∀ pre x₁, pre <+: tr → Run IssuedStep (.init usrs, .none) pre x₁ → Consistent x₁) ↔
      Run (stepWhen Regular IssuedStep) (.init usrs, .none) tr x :=
  Run.always_iff TableInv issuedStep_deterministic (tableInv_init usrs)
    (fun _ hI => hI.consistent) (fun _ _ _ hI hreg hs => hI.step hreg hs)
    (fun _ _ _ hI hreg hs => hI.not_consistent hreg hs) h

/-- A request with the answer it should get, evaluated. -/
def evalIssued (x : JsonState × Issued) (e : JsonEvent × JsonAnswer) : Option (JsonState × Issued) :=
  (jsonSwitch x.1 e.1).bind fun r => if r.1 = e.2 then some (r.2, x.2.tick x.1 e) else none

theorem issuedStep_of_eval {x y : JsonState × Issued} {e : JsonEvent × JsonAnswer}
    (h : evalIssued x e = some y) : IssuedStep x e y := by
  obtain ⟨⟨answer, s'⟩, hs, hr⟩ := Option.bind_eq_some_iff.1 h
  obtain ⟨rfl, heq⟩ := Option.ite_none_right_eq_some.1 hr
  obtain rfl := Option.some.inj heq
  exact ⟨hs, rfl⟩

instance (x : JsonState × Issued) : (e : JsonEvent × JsonAnswer) → Decidable (Regular x e)
  | (.loginmainserver _ usrName password, _) => inferInstanceAs (Decidable
      (authentication usrName.str password.str x.1.adp.usrs ≠ .invalid →
        ∀ h ∈ x.1.adp.jsonListHead, (x.1.adp.handles h).usrID ≠
          composeID (authentication usrName.str password.str x.1.adp.usrs)
            ((x.1.adp.usrID + 1) % 10000)))
  | (.loginoutmainserver ssionID, _) => inferInstanceAs (Decidable
      (∀ h ∈ x.1.handleOf ssionID,
        ∀ usr ∈ x.1.adp.getUsrRegistInfo (x.1.adp.handles h).usrID, usr.apiHandle = h))
  | (.command ssionID iret _, _) => inferInstanceAs (Decidable
      (x.1.handleOf ssionID ≠ none → iret ≠ keyUnauthorized ∧ iret ≠ keyUserrepeatlogin))
  | (.unknown, _) => .isTrue trivial
  | (.inner .., _) => .isTrue trivial

/-- A login of `alice`, who gets the first id of her level. -/
def sampleLogin (h : HandlePtr) : JsonEvent × JsonAnswer :=
  (.loginmainserver h alice.usrname alice.passWord, ⟨some 200, some (composeID alice.userLevel 1)⟩)

/-- She and `bob` are logged in at the same time, and he stays when she logs out; her id is refused then. -/
def twoSessions : List (JsonEvent × JsonAnswer) :=
  [sampleLogin 7,
    (.loginmainserver 8 bob.usrname bob.passWord, ⟨some 200, some (composeID bob.userLevel 2)⟩),
    (.command (composeID alice.userLevel 1) keyTrue [alice, bob], ⟨some 200, none⟩),
    (.loginoutmainserver (composeID alice.userLevel 1), ⟨some 200, none⟩),
    (.command (composeID alice.userLevel 1) keyTrue [alice, bob], ⟨some keyUnauthorized, none⟩),
    (.command (composeID bob.userLevel 2) keyTrue [alice, bob], ⟨some 200, none⟩)]

theorem sessionTable_two :
    ∃ x, Run IssuedStep (.init [alice, bob], .none) twoSessions x ∧
      x.2.sessions = [⟨8, composeID bob.userLevel 2⟩] ∧ ∀ pre x₁, pre <+: twoSessions →
        Run IssuedStep (.init [alice, bob], .none) pre x₁ → Consistent x₁ := by
  obtain ⟨x, hrun, hsessions⟩ : ∃ x, Run (stepWhen Regular IssuedStep) (.init [alice, bob], .none)
      twoSessions x ∧ x.2.sessions = [⟨8, composeID bob.userLevel 2⟩] :=
    Run.exists_of_eval (stepWhen_of_eval fun _ _ _ h => issuedStep_of_eval h) (by decide)
  have hrun' : Run IssuedStep (.init [alice, bob], .none) twoSessions x :=
    hrun.mono fun _ _ _ hs => hs.2
  exact ⟨x, hrun', hsessions, (sessionTable_iff hrun').2 hrun⟩

/-! ## Ten thousand logins -/

/-- The handle of `alice`, logged in with the counter at `n`. -/
def aliceHandle (n : ℕ) (functions : Finset AdpFunction) : AdpAPIHandle :=
  ⟨composeID alice.userLevel n, alice.usrname, functions⟩

/-- She is logged in on handle 7; handle 8 is not in use, and the counter is `n`. -/
def aliceState (n : ℕ) (handle7 handle8 : AdpAPIHandle) : JsonState where
  adp :=
    { usrs := [alice]
      usrID := n
      handles := Function.update (Function.update (AdpState.init []).handles 7 handle7) 8 handle8
      listUsrRegistHead := [⟨7, alice⟩]
      jsonListHead := [7]
      threads := fun _ => .idle }
  allocated := {7}

/-- She logs in on handle 8 and out again. -/
def relogin (n : ℕ) : List (JsonEvent × JsonAnswer) :=
  [(.loginmainserver 8 alice.usrname alice.passWord,
      ⟨some 200, some (composeID alice.userLevel n)⟩),
    (.loginoutmainserver (composeID alice.userLevel n), ⟨some 200, none⟩)]

/-- `k` times. -/
def relogins : ℕ → List (JsonEvent × JsonAnswer)
  | 0 => []
  | k + 1 => relogins k ++ relogin ((k + 2) % 10000)

theorem registHandle_alice {s : AdpState} {h : HandlePtr} (husrs : s.usrs = [alice])
    (hother : ∀ usr ∈ s.listUsrRegistHead, usr.apiHandle ≠ h ∧ 2 ^ 16 ≤ s.sessionID usr) :
    ∃ functions, s.registHandle h alice.usrname.str alice.passWord.str = some (keyTrue,
      { s.setHandle h (aliceHandle ((s.usrID + 1) % 10000) functions) with
        usrID := (s.usrID + 1) % 10000
        listUsrRegistHead := s.listUsrRegistHead ++ [⟨h, alice⟩] }) := by
  have hauth : authentication alice.usrname.str alice.passWord.str s.usrs = alice.userLevel := by
    rw [husrs]
    decide
  have hfound : findByName (snprintf dfMaxlenUsrname alice.usrname.str).str s.usrs = some alice := by
    rw [husrs]
    decide
  have hlevel : alice.userLevel ≠ .invalid := by decide
  refine ⟨installFunctions alice.userLevel (initNoAuthorFunctions (s.handles h).functions), ?_⟩
  rw [AdpState.registHandle, hauth]
  simp only [if_neg hlevel, hfound, Option.bind_some]
  rw [makeUsrID_eq]
  · simp only [Option.map_some, AdpState.setHandle, snprintf_str]
    rfl
  · intro usr hu
    obtain ⟨hne, hlarge⟩ := hother usr hu
    rw [AdpState.sessionID, AdpState.setHandle_of_ne _ _ hne]
    exact Nat.le_trans (by decide) hlarge

/-- After a login of hers on handle 8. -/
def aliceTwice (n : ℕ) (handle7 : AdpAPIHandle) (functions : Finset AdpFunction) : JsonState where
  adp :=
    { (aliceState n handle7 (aliceHandle n functions)).adp with
      listUsrRegistHead := [⟨7, alice⟩, ⟨8, alice⟩]
      jsonListHead := [7, 8] }
  allocated := {8, 7}

theorem aliceState_handle7 (n : ℕ) (handle7 handle8 : AdpAPIHandle) :
    (aliceState n handle7 handle8).adp.handles 7 = handle7 := by
  simp [aliceState]

theorem login_alice {n : ℕ} {handle7 handle8 : AdpAPIHandle}
    (h7 : handle7.usrID = composeID alice.userLevel 1) :
    ∃ functions, jsonSwitch (aliceState n handle7 handle8)
        (.loginmainserver 8 alice.usrname alice.passWord) =
      some (⟨some 200, some (composeID alice.userLevel ((n + 1) % 10000))⟩,
        aliceTwice ((n + 1) % 10000) handle7 functions) := by
  have hclear : (aliceState n handle7 handle8).adp.setHandle 8 clearHandle =
      (aliceState n handle7 clearHandle).adp := by
    simp [aliceState, AdpState.setHandle]
  have hother : ∀ usr ∈ (aliceState n handle7 clearHandle).adp.listUsrRegistHead,
      usr.apiHandle ≠ 8 ∧ 2 ^ 16 ≤ (aliceState n handle7 clearHandle).adp.sessionID usr := by
    intro usr hu
    obtain rfl := List.mem_singleton.1 hu
    rw [AdpState.sessionID, aliceState_handle7, h7]
    decide
  obtain ⟨functions, hregist⟩ := registHandle_alice (h := 8) rfl hother
  have hpos : composeID alice.userLevel ((n + 1) % 10000) ≠ 0 := by
    have := @composeID_large alice.userLevel _ (by decide) (Nat.mod_lt (n + 1) (by decide))
    omega
  refine ⟨functions, ?_⟩
  have hnot : (8 : HandlePtr) ∉ (aliceState n handle7 handle8).allocated := by
    simp [aliceState]
  simp only [jsonSwitch, if_neg hnot, funLogin, hclear, hregist, Option.map_some]
  have hcount : (aliceState n handle7 clearHandle).adp.usrID = n := rfl
  simp only [AdpState.setHandle_self, hcount]
  rw [if_neg (by simpa [aliceHandle] using hpos)]
  simp only [respond, if_pos, aliceHandle]
  simp [aliceTwice, aliceState, AdpState.setHandle, aliceHandle]

theorem logout_alice {n : ℕ} {handle7 : AdpAPIHandle} (functions : Finset AdpFunction)
    (h7 : handle7.usrID = composeID alice.userLevel 1) (hn : n < 10000) (hne : n ≠ 1) :
    ∃ handle8, jsonSwitch (aliceTwice n handle7 functions)
        (.loginoutmainserver (composeID alice.userLevel n)) =
      some (⟨some 200, none⟩, aliceState n handle7 handle8) := by
  have hid : composeID alice.userLevel 1 ≠ composeID alice.userLevel n := fun heq =>
    hne (composeID_inj (by decide) hn heq).2.symm
  have hkey7 : ((aliceTwice n handle7 functions).adp.handles 7).usrID = composeID alice.userLevel 1 := by
    simp [aliceTwice, aliceState, h7]
  have hkey8 : ((aliceTwice n handle7 functions).adp.handles 8).usrID = composeID alice.userLevel n := by
    simp [aliceTwice, aliceState, aliceHandle]
  have hhandle : (aliceTwice n handle7 functions).handleOf (composeID alice.userLevel n) = some 8 := by
    rw [JsonState.handleOf, if_pos (Int.natCast_nonneg _), Int.toNat_natCast]
    have hlist : (aliceTwice n handle7 functions).adp.jsonListHead = [7, 8] := rfl
    rw [AdpState.jsonSwitchHandle, hlist]
    simp [lookup_cons, hkey7, hkey8, hid]
  have hrecord : (aliceTwice n handle7 functions).adp.getUsrRegistInfo (composeID alice.userLevel n) = some ⟨8, alice⟩ := by
    have hlist : (aliceTwice n handle7 functions).adp.listUsrRegistHead = [⟨7, alice⟩, ⟨8, alice⟩] := rfl
    rw [AdpState.getUsrRegistInfo, hlist]
    simp [lookup_cons, AdpState.sessionID, hkey7, hkey8, hid]
  refine ⟨⟨0, alice.usrname, initNoAuthorFunctions functions⟩, ?_⟩
  simp only [jsonSwitch, hhandle, funLoginOut, AdpState.unRegistHandle, hkey8, hrecord]
  simp [aliceTwice, aliceState, AdpState.initNoAuthor, AdpState.setHandle, respond, aliceHandle]

/-- What was answered while she stays logged in on handle 7. -/
def aliceIssued : Issued := ⟨[⟨7, composeID alice.userLevel 1⟩], []⟩

theorem relogin_run {n : ℕ} {handle7 handle8 : AdpAPIHandle}
    (h7 : handle7.usrID = composeID alice.userLevel 1) (hne : (n + 1) % 10000 ≠ 1) :
    ∃ handle8', Run IssuedStep (aliceState n handle7 handle8, aliceIssued)
      (relogin ((n + 1) % 10000)) (aliceState ((n + 1) % 10000) handle7 handle8', aliceIssued) := by
  obtain ⟨functions, hlogin⟩ := @login_alice n handle7 handle8 h7
  have hlt : (n + 1) % 10000 < 10000 := Nat.mod_lt _ (by decide)
  generalize (n + 1) % 10000 = m at hlogin hne hlt ⊢
  obtain ⟨handle8', hlogout⟩ := logout_alice functions h7 hlt hne
  have hid : composeID alice.userLevel 1 ≠ composeID alice.userLevel m := fun heq =>
    hne (composeID_inj (by decide) hlt heq).2.symm
  refine ⟨handle8', .of_eval (f := evalIssued) (fun _ _ _ h => issuedStep_of_eval h) ?_⟩
  simp [evalRun, relogin, evalIssued, hlogin, hlogout, Issued.tick, aliceIssued, hid]

theorem relogins_run {handle7 handle8 : AdpAPIHandle}
    (h7 : handle7.usrID = composeID alice.userLevel 1) (k : ℕ) (hk : k < 10000) :
    ∃ handle8', Run IssuedStep (aliceState 1 handle7 handle8, aliceIssued) (relogins k)
      (aliceState ((k + 1) % 10000) handle7 handle8', aliceIssued) := by
  induction k with
  | zero => exact ⟨handle8, .nil⟩
  | succ k ih =>
      obtain ⟨handle8', hrun⟩ := ih (by omega)
      have hnext : ((k + 1) % 10000 + 1) % 10000 = (k + 2) % 10000 := by omega
      obtain ⟨handle8'', hlast⟩ :=
        @relogin_run ((k + 1) % 10000) handle7 handle8' h7 (by omega)
      rw [hnext] at hlast
      exact ⟨handle8'', hrun.append hlast⟩

theorem login_first : ∃ handle7 handle8, handle7.usrID = composeID alice.userLevel 1 ∧
    JsonStep (.init [alice]) (sampleLogin 7) (aliceState 1 handle7 handle8) := by
  obtain ⟨functions, hregist⟩ := @registHandle_alice
    ((JsonState.init [alice]).adp.setHandle 7 clearHandle) 7 rfl (fun _ hu => nomatch hu)
  refine ⟨aliceHandle 1 functions,
    Function.update (AdpState.init []).handles 7 (aliceHandle 1 functions) 8, rfl, ?_⟩
  have hcount : (((JsonState.init [alice]).adp.setHandle 7 clearHandle).usrID + 1) % 10000 = 1 := rfl
  have hid : (aliceHandle 1 functions).usrID ≠ 0 := by
    simp only [aliceHandle]
    decide
  have hnot : (7 : HandlePtr) ∉ (JsonState.init [alice]).allocated := Finset.notMem_empty 7
  simp only [JsonStep, sampleLogin, jsonSwitch, if_neg hnot, funLogin, hregist, Option.map_some,
    AdpState.setHandle_self, hcount]
  rw [if_neg (by simpa using hid)]
  simp [respond, aliceState, AdpState.setHandle, JsonState.init, AdpState.init, aliceHandle]

/-- She stays logged in on handle 7. After 9999 logins and logouts on handle 8 the next login gets the
    id of her first session, and the id finds the first handle only. -/
theorem session_not_found :
    ∃ x, Run IssuedStep (.init [alice], .none) (sampleLogin 7 :: relogins 9999 ++ [sampleLogin 8]) x ∧
      ⟨8, composeID alice.userLevel 1⟩ ∈ x.2.sessions ∧
      x.1.handleOf (composeID alice.userLevel 1) = some 7 ∧ ¬ Consistent x := by
  obtain ⟨handle7, handle8, h7, hfirst⟩ := login_first
  obtain ⟨handle8', hrun⟩ : ∃ handle8', Run IssuedStep (aliceState 1 handle7 handle8, aliceIssued)
      (relogins 9999) (aliceState 0 handle7 handle8', aliceIssued) :=
    relogins_run h7 9999 (by decide)
  -- the labels in between need not be unfolded
  generalize relogins 9999 = tr at hrun ⊢
  obtain ⟨functions, hlast⟩ := @login_alice 0 handle7 handle8' h7
  have hsession : (⟨8, composeID alice.userLevel 1⟩ : Session) ∈
      (aliceIssued.tick (aliceState 0 handle7 handle8') (sampleLogin 8)).sessions :=
    List.mem_append_right _ (List.mem_singleton_self _)
  have hfound : (aliceTwice 1 handle7 functions).handleOf (composeID alice.userLevel 1) = some 7 := by
    have hlist : (aliceTwice 1 handle7 functions).adp.jsonListHead = [7, 8] := rfl
    have hkey : ((aliceTwice 1 handle7 functions).adp.handles 7).usrID =
        composeID alice.userLevel 1 := by
      simp [aliceTwice, aliceState, h7]
    rw [JsonState.handleOf, if_pos (Int.natCast_nonneg _), Int.toNat_natCast,
      AdpState.jsonSwitchHandle, hlist]
    simp [lookup_cons, hkey]
  refine ⟨(aliceTwice 1 handle7 functions, _), ?_, hsession, hfound, fun hc => ?_⟩
  · have hstart : IssuedStep (.init [alice], .none) (sampleLogin 7)
        (aliceState 1 handle7 handle8, aliceIssued) := ⟨hfirst, rfl⟩
    exact ((Run.nil.snoc hstart).append hrun).snoc ⟨hlast, rfl⟩
  · have := (hc.found _ hsession).symm.trans hfound
    cases this

end SmartPlat.JsonAPI
