import Mathlib.Data.List.Perm.Subperm
import SmartPlat.UsrManage.Operations
import SmartPlat.UsrManage.Proofs.Change

set_option autoImplicit false

/-! # Accounts: unique keys, deletions and passwords

Adding a user checks the name and searches a free id. The two writes that replace a name or an id,
`ModifyUsrBindInfo` and `ModifyUsrInfo`, check neither; `KeepsKeys` says when they leave the columns
distinct all the same, and with it every history does. -/

namespace SmartPlat.UsrManage

open SmartPlat.Lib

variable {δ : Type*} {cb : UsrManageHandle δ} {s s' s₀ : UsrManageInner δ}

/-- No two users share a name, and no two an id. -/
structure UniqueUsrs (users : List UsrInfo) : Prop where
  names : (users.map UserRegistInfo.name).Nodup
  ids : (users.map UserRegistInfo.usrID).Nodup

instance (users : List UsrInfo) : Decidable (UniqueUsrs users) :=
  decidable_of_iff ((users.map UserRegistInfo.name).Nodup ∧ (users.map UserRegistInfo.usrID).Nodup)
    ⟨fun h => ⟨h.1, h.2⟩, fun h => ⟨h.1, h.2⟩⟩

/-! ## A free id is always found -/

theorem createUsridLoop_timeout {users : List UsrInfo} {fuel : ℕ} {i : UInt32} {e : Fault}
    (h : createUsridLoop users fuel i = .error e) {j : ℕ} (hj : j < fuel) :
    1000000 + (i + UInt32.ofNat j) ∈ users.map UserRegistInfo.usrID := by
  induction fuel generalizing i j with
  | zero => omega
  | succ fuel ih =>
      rw [createUsridLoop] at h
      split at h
      · simp at h
      · next u hu =>
          cases j with
          | zero =>
              rw [List.mem_map]
              refine ⟨u, mem_of_lookup hu, ?_⟩
              rw [key_of_lookup hu]
              simp
          | succ j =>
              have hnext := ih h (j := j) (by omega)
              rwa [UInt32.add_assoc, UInt32.add_comm 1, ← UInt32.ofNat_one, ← UInt32.ofNat_add]
                at hnext

/-- The search of `CreateUsrid` ends as long as not every id is taken. -/
theorem createUsrid_returns (s : UsrManageInner δ) (h : s.listHead.length < 2 ^ 32) :
    ∃ r, createUsrid s = .ok r := by
  cases hr : createUsrid s with
  | ok r => exact ⟨r, rfl⟩
  | error e =>
      exfalso
      -- one candidate more than there are users, and all of them taken
      let tried := (List.range (s.listHead.length + 1)).map fun j =>
        1000000 + (s.i + UInt32.ofNat j)
      have hnodup : tried.Nodup := by
        refine List.Nodup.map_on ?_ List.nodup_range
        intro j hj k hk heq
        rw [List.mem_range] at hj hk
        have := congrArg UInt32.toNat (UInt32.add_right_inj _ |>.1 (UInt32.add_right_inj _ |>.1 heq))
        rw [UInt32.toNat_ofNat', UInt32.toNat_ofNat'] at this
        omega
      have hsub : tried ⊆ s.listHead.map UserRegistInfo.usrID := by
        intro id hid
        obtain ⟨j, hj, rfl⟩ := List.mem_map.1 hid
        exact createUsridLoop_timeout hr (List.mem_range.1 hj)
      have hlen := (List.subperm_of_subset hnodup hsub).length_le
      simp only [tried, List.length_map, List.length_range] at hlen
      omega

theorem createUsridLoop_error {users : List UsrInfo} {fuel : ℕ} {i : UInt32} {e : Fault}
    (h : createUsridLoop users fuel i = .error e) : e = .timeout := by
  induction fuel generalizing i with
  | zero => exact (Except.error.inj h).symm
  | succ fuel ih =>
      rw [createUsridLoop] at h
      split at h
      · simp at h
      · exact ih h

/-- It ends as long as some id is free, however long the list is. -/
theorem createUsrid_of_free {s : UsrManageInner δ} {id : UInt32} (h : ∀ u ∈ s.listHead, u.usrID ≠ id) :
    ∃ r, createUsrid s = .ok r := by
  by_cases hlen : s.listHead.length < 2 ^ 32
  · exact createUsrid_returns s hlen
  · cases hr : createUsrid s with
    | ok r => exact ⟨r, rfl⟩
    | error e =>
        -- the loop has tried all numbers there are
        have hlt := (id - 1000000 - s.i).toNat_lt
        have htried := createUsridLoop_timeout hr (j := (id - 1000000 - s.i).toNat) (by omega)
        have hcand : 1000000 + (s.i + (id - 1000000 - s.i)) = id := by
          rw [UInt32.add_comm s.i, UInt32.sub_add_cancel, UInt32.add_comm, UInt32.sub_add_cancel]
        rw [UInt32.ofNat_toNat, hcand, List.mem_map] at htried
        obtain ⟨u, hu, hid⟩ := htried
        exact absurd hid (h u hu)

/-! ## What one call keeps -/

/-- The calls after which names are as distinct as before: a renamed user keeps their name or takes
    one nobody has, and loaded rows bring distinct names nobody has. -/
def KeepsNames (cb : UsrManageHandle δ) (s : UsrManageInner δ) : UsrCall → Prop
  | .initUsrList => ∀ rows, LoadsRows cb s rows →
      ((loadedUsrs rows).map UserRegistInfo.name).Nodup ∧
        ∀ u ∈ loadedUsrs rows, ∀ v ∈ s.listHead, v.name ≠ u.name
  | .modifyUsrBindInfo info old => info.name ≠ old → (findByName old s.listHead).isSome →
      ∀ u ∈ s.listHead, u.name ≠ info.name
  | _ => True

/-- The calls after which ids are as distinct as before: an edited record brings an id no other user
    has, and loaded rows bring distinct ids nobody has. -/
def KeepsIds (cb : UsrManageHandle δ) (s : UsrManageInner δ) : UsrCall → Prop
  | .initUsrList => ∀ rows, LoadsRows cb s rows →
      ((loadedUsrs rows).map UserRegistInfo.usrID).Nodup ∧
        ∀ u ∈ loadedUsrs rows, ∀ v ∈ s.listHead, v.usrID ≠ u.usrID
  | .modifyUsrInfo cur usrInfo => checkUsrInfoValidity usrInfo ≠ keyFalse →
      cur.name = usrInfo.name → usrInfo.userLevel ≤ cur.userLevel →
      (findByName usrInfo.name s.listHead).isSome →
      ∀ u ∈ s.listHead, u.usrID = usrInfo.usrID → u.name = usrInfo.name
  | _ => True

def KeepsKeys (cb : UsrManageHandle δ) (s : UsrManageInner δ) (c : UsrCall) : Prop :=
  KeepsNames cb s c ∧ KeepsIds cb s c

/-- A write that leaves a column alone. -/
theorem nodup_map_writeByName {β : Type*} {g : UsrInfo → β} {name : CString}
    {f : UsrInfo → UsrInfo} (h : (s.listHead.map g).Nodup)
    (hf : ∀ u, u.name = name → g (f u) = g u) : ((writeByName name f s).listHead.map g).Nodup := by
  rw [writeByName, map_modifyFirst g hf]
  exact h

theorem names_nodup_change {c : UsrCall} {users : List UsrInfo}
    (hn : (s.listHead.map UserRegistInfo.name).Nodup) (hk : KeepsNames cb s c)
    (h : UsrChange cb s c users) : (users.map UserRegistInfo.name).Nodup := by
  cases h with
  | initUsrList loads =>
      obtain ⟨hrows, hne⟩ := hk _ loads
      exact nodup_map_append hn hrows hne
  | addUsr _ newName _ => exact nodup_map_concat hn (lookup_eq_none.1 newName)
  | delUsr => exact nodup_map_eraseFirst hn
  | modifyUsrInfo => exact nodup_map_writeByName hn fun _ hu => hu.symm
  | @modifyUsrBindInfo info _ old found =>
      refine nodup_map_modifyFirst hn found fun u hmem hname => ?_
      simp only [rebind, UserRegistInfo.name, snprintf_str] at hname
      by_cases hold : info.name = old
      · exact (hname.trans hold).trans (key_of_lookup found).symm
      · exact absurd hname (hk hold (by rw [found]; rfl) u hmem)
  | modifyPassword => exact nodup_map_writeByName hn fun _ _ => rfl
  | resetPassword => exact nodup_map_writeByName hn fun _ _ => rfl

theorem ids_nodup_change {c : UsrCall} {users : List UsrInfo}
    (hn : (s.listHead.map UserRegistInfo.name).Nodup)
    (hi : (s.listHead.map UserRegistInfo.usrID).Nodup) (hk : KeepsIds cb s c)
    (h : UsrChange cb s c users) : (users.map UserRegistInfo.usrID).Nodup := by
  cases h with
  | initUsrList loads =>
      obtain ⟨hrows, hne⟩ := hk _ loads
      exact nodup_map_append hi hrows hne
  | addUsr _ _ newID => exact nodup_map_concat hi newID
  | delUsr => exact nodup_map_eraseFirst hi
  | modifyUsrInfo valid own level found =>
      refine nodup_map_modifyFirst hi found fun u hmem hid => ?_
      -- the only user with the new id is the one found: names are unique
      have hown := hk valid own level (by rw [found]; rfl) u hmem hid
      have hname := hown.trans (key_of_lookup found).symm
      rw [List.inj_on_of_nodup_map hn hmem (mem_of_lookup found) hname]
  | modifyUsrBindInfo => exact nodup_map_writeByName hi fun _ _ => rfl
  | modifyPassword => exact nodup_map_writeByName hi fun _ _ => rfl
  | resetPassword => exact nodup_map_writeByName hi fun _ _ => rfl

theorem UniqueUsrs.step {c : UsrCall} (hu : UniqueUsrs s.listHead) (hk : KeepsKeys cb s c)
    (h : UsrStep cb s c s') : UniqueUsrs s'.listHead := by
  rcases h.change with hsame | hchange
  · rw [hsame]
    exact hu
  · exact ⟨names_nodup_change hu.names hk.1 hchange,
      ids_nodup_change hu.names hu.ids hk.2 hchange⟩

/-- **Names and ids stay unique** over every history of calls that each meet `KeepsKeys`, whatever
    the database answers. -/
theorem usersUnique (h₀ : UniqueUsrs s₀.listHead) {tr : List UsrCall}
    (h : Run (stepWhen (KeepsKeys cb) (UsrStep cb)) s₀ tr s) : UniqueUsrs s.listHead :=
  h.stateInvariant (fun s => UniqueUsrs s.listHead) h₀ fun _ _ _ hu hs => hu.step hs.1 hs.2

/-! ## Concrete histories -/

def alice : UsrInfo := sampleUsr 97 .operator 1000000

def bob : UsrInfo := sampleUsr 98 .operator 1000001

def carol : UsrInfo := sampleUsr 99 .operator 0

/-- Alice adds Carol, who gets the next free id, and Bob takes a name nobody has. -/
theorem usersUnique_add_rename :
    ∃ s tr, Run (stepWhen (KeepsKeys defaultHandle) (UsrStep defaultHandle)) (sampleState [alice, bob])
      tr s ∧ tr.length = 2 ∧ s.listHead.length = 3 ∧ UniqueUsrs s.listHead := by
  have h := (Run.nil : Run (stepWhen (KeepsKeys defaultHandle) (UsrStep defaultHandle))
      (sampleState [alice, bob]) [] _)
    |>.snoc (a := UsrCall.addUsr alice carol) ⟨⟨trivial, trivial⟩, keyTrue, rfl⟩
    |>.snoc (a := UsrCall.modifyUsrBindInfo (sampleUsr 100 .operator 0) (letter 98))
      ⟨⟨fun _ _ => by decide, trivial⟩, keyTrue, rfl⟩
  exact ⟨_, _, h, rfl, rfl, usersUnique (by decide) h⟩

/-- Bob is renamed to Alice: the list then has two users of one name. -/
theorem renamed_to_taken_name :
    ∃ s tr, Run (UsrStep defaultHandle) (sampleState [alice, bob]) tr s ∧
      UniqueUsrs (sampleState [alice, bob]).listHead ∧ ¬ UniqueUsrs s.listHead := by
  have h := (Run.nil : Run (UsrStep defaultHandle) (sampleState [alice, bob]) [] _)
    |>.snoc (a := UsrCall.modifyUsrBindInfo alice (letter 98)) ⟨keyFalse, rfl⟩
  exact ⟨_, _, h, by decide, by decide⟩

/-! ## What a deletion reports

`DelUsr` unlinks the record it found, frees it with a macro that also clears the pointer, and hands the
database the address of a member behind that pointer. The list comes out right; the callback never sees
the record. To say so, the callbacks are run on a database that also keeps what `delUsrcb` is called
with. -/

variable {δ : Type*} {cb : UsrManageHandle δ} {s : UsrManageInner δ} {cur usrInfo info : UsrInfo}

/-! ## Recording -/

/-- A database, and what `delUsrcb` has been called with. -/
abbrev Recorded (δ : Type*) := δ × List (Option UsrInfo)

/-- Run a callback on the database alone. -/
def onDatabase (f : δ → Except Fault (ℤ × δ)) (db : Recorded δ) : Except Fault (ℤ × Recorded δ) :=
  (f db.1).map fun r => (r.1, r.2, db.2)

/-- The same callbacks, of which `delUsrcb` leaves its argument behind. -/
def UsrManageHandle.recording (cb : UsrManageHandle δ) : UsrManageHandle (Recorded δ) where
  addUsrcb := cb.addUsrcb.map fun f info => onDatabase (f info)
  delUsrcb := cb.delUsrcb.map fun f info db => onDatabase (f info) (db.1, db.2 ++ [info])
  setUsrInfocb := cb.setUsrInfocb.map fun f info => onDatabase (f info)
  getUsrInfoListcb := cb.getUsrInfoListcb.map fun f db => f db.1
  getUsrInfoListNumcb := cb.getUsrInfoListNumcb.map fun f db => f db.1
  modifyUsrBindInfocb := cb.modifyUsrBindInfocb.map fun f info name => onDatabase (f info name)

def UsrManageInner.recording (s : UsrManageInner δ) : UsrManageInner (Recorded δ) where
  listHead := s.listHead
  i := s.i
  db := (s.db, [])

/-! ## The property -/

/-- **Removes and reports the same record.** If the call may delete the user it finds, it returns with that
    user gone from the list and everybody else as before, and the callback, if there is one, has been
    given the record. -/
def RemovesAndReports (cb : UsrManageHandle δ) (cur usrInfo : UsrInfo) (s : UsrManageInner δ) : Prop :=
  ∀ info, findByName usrInfo.name s.listHead = some info → info.userLevel ≤ cur.userLevel →
    ∃ front back rc s', s.listHead = front ++ info :: back ∧ (∀ u ∈ front, u.name ≠ usrInfo.name) ∧
      delUsr cb.recording cur usrInfo s.recording = .ok (rc, s') ∧ s'.listHead = front ++ back ∧
      ((s.listHead.map UserRegistInfo.name).Nodup → ∀ u ∈ s'.listHead, u.name ≠ usrInfo.name) ∧
      s'.db.2 = (cb.delUsrcb.map fun _ => some info).toList

/-! ## What happens -/

/-- An authorised deletion: the list loses the record, and the callback gets a pointer to nothing. -/
theorem delUsr_of_found (cb : UsrManageHandle δ) (found : findByName usrInfo.name s.listHead = some info)
    (level : info.userLevel ≤ cur.userLevel) :
    delUsr cb cur usrInfo s = callback (cb.delUsrcb.map (· none)) keyTrue
      { s with listHead := eraseFirst UserRegistInfo.name usrInfo.name s.listHead } := by
  rw [delUsr, found]
  simp only [if_neg (not_lt.2 level)]

theorem name_notMem_eraseFirst (hn : (s.listHead.map UserRegistInfo.name).Nodup)
    (found : findByName usrInfo.name s.listHead = some info) :
    ∀ u ∈ eraseFirst UserRegistInfo.name usrInfo.name s.listHead, u.name ≠ usrInfo.name := by
  have hgone := lookup_eraseFirst hn found usrInfo.name
  rw [Function.update_self] at hgone
  exact lookup_eq_none.1 hgone

/-- **The callback gets the record exactly when there is no callback**: for every list and callback, an
    authorised deletion removes the right user, but reports the record only to nobody. -/
theorem removesAndReports_iff (cb : UsrManageHandle δ) (cur usrInfo : UsrInfo) (s : UsrManageInner δ) :
    RemovesAndReports cb cur usrInfo s ↔ cb.delUsrcb = none ∨
      ∀ info, findByName usrInfo.name s.listHead = some info → cur.userLevel < info.userLevel := by
  cases hfound : findByName usrInfo.name s.listHead with
  | none =>
      refine iff_of_true ?_ (.inr fun info h => nomatch h)
      exact fun info h => nomatch hfound.symm.trans h
  | some info =>
      simp only [Option.some.injEq, forall_eq']
      by_cases level : info.userLevel ≤ cur.userLevel
      · rw [or_iff_left (not_lt.2 level)]
        have hrun := delUsr_of_found (s := s.recording) cb.recording hfound level
        constructor
        · intro h
          obtain ⟨front, back, rc, s', -, -, hdel, -, -, hreport⟩ := h info hfound level
          rw [hrun] at hdel
          cases hcb : cb.delUsrcb with
          | none => rfl
          | some f =>
              -- what was recorded is the cleared pointer
              simp only [UsrManageHandle.recording, UsrManageInner.recording, hcb, Option.map_some,
                callback, onDatabase] at hdel
              cases hf : f none s.db with
              | error e => simp [hf, Except.map] at hdel
              | ok r =>
                  simp only [hf, Except.map, List.nil_append, Except.ok.injEq, Prod.mk.injEq] at hdel
                  rw [← hdel.2] at hreport
                  simp [hcb] at hreport
        · intro hcb info' found' level'
          obtain rfl := Option.some.inj (hfound.symm.trans found')
          obtain ⟨front, back, hlist, hfront, -, herase⟩ := exists_of_lookup hfound
          refine ⟨front, back, keyTrue,
            { s.recording with listHead := eraseFirst UserRegistInfo.name usrInfo.name s.listHead },
            hlist, hfront, ?_, herase, ?_, ?_⟩
          · rw [hrun, UsrManageHandle.recording, hcb]
            rfl
          · exact fun hn => name_notMem_eraseFirst hn hfound
          · rw [hcb]
            rfl
      · refine iff_of_true ?_ (.inr (not_le.1 level))
        intro info' found' level'
        obtain rfl := Option.some.inj (hfound.symm.trans found')
        exact absurd level' level

/-- Alice deletes Bob, and the callback accepts whatever it gets: Bob is gone, and what it got is a pointer
    to no record. The callback of the server reads through it. -/
theorem deleted_user_not_reported :
    ¬ RemovesAndReports { defaultHandle with delUsrcb := some fun _ db => .ok (keyTrue, db) } alice bob
        (sampleState [alice, bob]) ∧
      delUsr defaultHandle alice bob (sampleState [alice, bob]) = .error .badAccess := by
  refine ⟨fun h => ?_, rfl⟩
  obtain ⟨front, back, rc, s', -, -, hdel, -, -, hreport⟩ := h bob rfl (le_refl _)
  have hrun : delUsr (UsrManageHandle.recording
        { defaultHandle with delUsrcb := some fun _ db => .ok (keyTrue, db) }) alice bob
      (sampleState [alice, bob]).recording =
      .ok (keyTrue, ⟨[alice], 0, (sampleState [alice, bob]).db, [none]⟩) := rfl
  rw [hrun, Except.ok.injEq, Prod.mk.injEq] at hdel
  rw [← hdel.2] at hreport
  exact nomatch hreport

/-! ## Authentication and the current password

What the module is for: a map from names to accounts, each with the password last set for it and its
level. `UsrCall.effect` says what a successful call means for this map, without mentioning the list;
`change_refines` connects the two, and the result on histories is its fold. -/

variable {δ : Type*} {cb : UsrManageHandle δ} {s s' s₀ : UsrManageInner δ}

/-! ## Accounts -/

structure Account where
  passWord : CString
  userLevel : UsrLevel
  deriving DecidableEq, Repr

/-- The users there are, by name. -/
abbrev Accounts := CString → Option Account

/-- The level a name and password are good for. -/
def Accounts.authenticate (accounts : Accounts) (usrname password : CString) : UsrLevel :=
  match accounts usrname with
  | none => .invalid
  | some a => if a.passWord = password then a.userLevel else .invalid

/-- Set the password of an account, if there is one. -/
def Accounts.setPassword (accounts : Accounts) (username password : CString) : Accounts :=
  Function.update accounts username
    ((accounts username).map fun a => { a with passWord := password })

/-- What a successful call means. Three calls set a password; a renamed user takes theirs along, and
    an edited record leaves it. -/
def UsrCall.effect (accounts : Accounts) : UsrCall → Accounts
  | .initUsrList => accounts
  | .addUsr _ info =>
      Function.update accounts info.name (some ⟨info.passWord.str, info.userLevel⟩)
  | .delUsr _ usrInfo => Function.update accounts usrInfo.name none
  | .modifyUsrInfo _ _ => accounts
  | .modifyUsrBindInfo info old =>
      Function.update (Function.update accounts old none) info.name (accounts old)
  | .modifyPassword username _ newPassword => accounts.setPassword username newPassword
  | .resetPassword username _ password => accounts.setPassword username password

/-! ## The accounts of a list -/

def UserRegistInfo.account (u : UsrInfo) : Account := ⟨u.passWord.str, u.userLevel⟩

/-- A name is the account of the first user who has it. -/
def accountsOf (users : List UsrInfo) : Accounts :=
  fun name => (findByName name users).map UserRegistInfo.account

theorem authentication_eq (usrname password : CString) (users : List UsrInfo) :
    authentication usrname password users = (accountsOf users).authenticate usrname password := by
  unfold authentication Accounts.authenticate accountsOf
  cases findByName usrname users <;> rfl

theorem accountsOf_of_found {name : CString} {users : List UsrInfo} {u : UsrInfo}
    (found : findByName name users = some u) : accountsOf users name = some u.account := by
  rw [accountsOf, found]
  rfl

theorem map_update (m : CString → Option UsrInfo) (name : CString) (o : Option UsrInfo) :
    (fun k => (Function.update m name o k).map UserRegistInfo.account) =
      Function.update (fun k => (m k).map UserRegistInfo.account) name
        (o.map UserRegistInfo.account) := by
  funext k
  by_cases hk : k = name
  · rw [hk, Function.update_self, Function.update_self]
  · rw [Function.update_of_ne hk, Function.update_of_ne hk]

theorem accountsOf_concat {users : List UsrInfo} {u : UsrInfo}
    (newName : findByName u.name users = none) :
    accountsOf (users ++ [u]) = Function.update (accountsOf users) u.name (some u.account) := by
  have hmap : (fun k => findByName k (users ++ [u])) =
      Function.update (fun k => findByName k users) u.name (some u) :=
    funext fun k => lookup_concat (lookup_eq_none.1 newName) k
  have := map_update (fun k => findByName k users) u.name (some u)
  rw [← hmap] at this
  exact this

theorem accountsOf_eraseFirst {users : List UsrInfo} {name : CString} {u : UsrInfo}
    (hn : (users.map UserRegistInfo.name).Nodup) (found : findByName name users = some u) :
    accountsOf (eraseFirst UserRegistInfo.name name users) =
      Function.update (accountsOf users) name none := by
  have hmap : (fun k => findByName k (eraseFirst UserRegistInfo.name name users)) =
      Function.update (fun k => findByName k users) name none :=
    funext fun k => lookup_eraseFirst hn found k
  have := map_update (fun k => findByName k users) name none
  rw [← hmap] at this
  exact this

/-- A write moves the account to the name written and sets it to what was written. -/
theorem accountsOf_write {name : CString} {f : UsrInfo → UsrInfo} {u : UsrInfo}
    (hn : (s.listHead.map UserRegistInfo.name).Nodup)
    (found : findByName name s.listHead = some u)
    (hfresh : ∀ v ∈ s.listHead, v.name = (f u).name → v.name = name) :
    accountsOf (writeByName name f s).listHead =
      Function.update (Function.update (accountsOf s.listHead) name none) (f u).name
        (some (f u).account) := by
  have hmap : (fun k => findByName k (writeByName name f s).listHead) =
      Function.update (Function.update (fun k => findByName k s.listHead) name none) (f u).name
        (some (f u)) :=
    funext fun k => lookup_modifyFirst hn found hfresh k
  have := map_update (Function.update (fun k => findByName k s.listHead) name none) (f u).name
    (some (f u))
  rw [← hmap, map_update] at this
  exact this

theorem accountsOf_write_same {name : CString} {f : UsrInfo → UsrInfo} {u : UsrInfo}
    (hn : (s.listHead.map UserRegistInfo.name).Nodup)
    (found : findByName name s.listHead = some u) (hname : (f u).name = name) :
    accountsOf (writeByName name f s).listHead =
      Function.update (accountsOf s.listHead) name (some (f u).account) := by
  rw [accountsOf_write hn found fun v _ hv => hv.trans hname, hname, Function.update_idem]

theorem accountsOf_setPassword {name : CString} {u : UsrInfo} {passWord : CharArray dfMaxlenPasswd}
    (hn : (s.listHead.map UserRegistInfo.name).Nodup)
    (found : findByName name s.listHead = some u) :
    accountsOf (writeByName name (fun info => { info with passWord }) s).listHead =
      (accountsOf s.listHead).setPassword name passWord.str := by
  have hname : u.name = name := key_of_lookup found
  rw [accountsOf_write_same (f := fun info => { info with passWord }) hn found hname,
    Accounts.setPassword, accountsOf_of_found found]
  rfl

/-! ## Refinement -/

/-- The calls a history of operations may make: no list is loaded, and nobody is renamed to a name
    another user has. -/
def RenamesToFree (s : UsrManageInner δ) : UsrCall → Prop
  | .initUsrList => False
  | .modifyUsrBindInfo info old => info.name ≠ old → (findByName old s.listHead).isSome →
      ∀ u ∈ s.listHead, u.name ≠ info.name
  | _ => True

theorem RenamesToFree.keepsNames {c : UsrCall} (h : RenamesToFree s c) : KeepsNames cb s c := by
  cases c with
  | initUsrList => exact h.elim
  | modifyUsrBindInfo => exact h
  | _ => trivial

/-- Every change to the list is the one its call means. -/
theorem change_refines {c : UsrCall} {users : List UsrInfo}
    (hn : (s.listHead.map UserRegistInfo.name).Nodup) (hr : RenamesToFree s c)
    (h : UsrChange cb s c users) : accountsOf users = c.effect (accountsOf s.listHead) := by
  cases h with
  | initUsrList => exact hr.elim
  | addUsr _ newName _ => exact accountsOf_concat newName
  | delUsr found _ => exact accountsOf_eraseFirst hn found
  | @modifyUsrInfo _ usrInfo info _ _ _ found =>
      -- the record is replaced, its level and password are put back
      have hsame : (keepLevelAndPassword usrInfo info).account = info.account := by
        simp only [keepLevelAndPassword, UserRegistInfo.account, snprintf_str]
      rw [accountsOf_write_same hn found rfl, hsame, ← accountsOf_of_found found,
        Function.update_eq_self]
      rfl
  | @modifyUsrBindInfo info usrinfo old found =>
      have hname : (rebind info usrinfo).name = info.name := by
        simp only [rebind, UserRegistInfo.name, snprintf_str]
      have hfresh : ∀ v ∈ s.listHead, v.name = (rebind info usrinfo).name → v.name = old := by
        intro v hv hvname
        rw [hname] at hvname
        by_cases hold : info.name = old
        · exact hvname.trans hold
        · exact absurd hvname (hr hold (by rw [found]; rfl) v hv)
      rw [accountsOf_write hn found hfresh, hname, UsrCall.effect, accountsOf_of_found found]
      rfl
  | modifyPassword found _ newPassword =>
      rw [accountsOf_setPassword hn found, newPassword]
      rfl
  | resetPassword found newPassword =>
      rw [accountsOf_setPassword hn found, newPassword]
      rfl

/-- The list stands for the accounts its history means. -/
theorem accountsOf_run (h₀ : (s₀.listHead.map UserRegistInfo.name).Nodup) {tr : List UsrCall}
    (h : Run (stepWhen RenamesToFree (UsrSuccess cb)) s₀ tr s) :
    (s.listHead.map UserRegistInfo.name).Nodup ∧
      accountsOf s.listHead = tr.foldl UsrCall.effect (accountsOf s₀.listHead) := by
  refine h.invariant (fun tr s => (s.listHead.map UserRegistInfo.name).Nodup ∧
    accountsOf s.listHead = tr.foldl UsrCall.effect (accountsOf s₀.listHead)) ⟨h₀, rfl⟩ ?_
  intro tr s c s' ⟨hn, hacc⟩ ⟨hr, hs⟩
  refine ⟨names_nodup_change hn hr.keepsNames hs.change, ?_⟩
  rw [change_refines hn hr hs.change, List.foldl_append, hacc]
  rfl

/-- **Authentication means the current password**: after every history of successful operations that
    rename nobody to another user's name, `Authentication` answers from the accounts the history
    means. -/
theorem authentication_current (h₀ : (s₀.listHead.map UserRegistInfo.name).Nodup)
    {tr : List UsrCall} (h : Run (stepWhen RenamesToFree (UsrSuccess cb)) s₀ tr s)
    (usrname password : CString) :
    authentication usrname password s.listHead =
      (tr.foldl UsrCall.effect (accountsOf s₀.listHead)).authenticate usrname password := by
  rw [authentication_eq, (accountsOf_run h₀ h).2]

/-- Bob changes his password and takes a new name; both together are good for his level. -/
theorem authentication_current_rename :
    ∃ s tr, Run (stepWhen RenamesToFree (UsrSuccess defaultHandle)) (sampleState [alice, bob]) tr s ∧
      tr.length = 2 ∧ authentication (letter 100) (letter 120) s.listHead = .operator ∧
      ∀ usrname password, authentication usrname password s.listHead =
        (tr.foldl UsrCall.effect (accountsOf [alice, bob])).authenticate usrname password := by
  have h := (Run.nil : Run (stepWhen RenamesToFree (UsrSuccess defaultHandle))
      (sampleState [alice, bob]) [] _)
    |>.snoc (a := UsrCall.modifyPassword (letter 98) (letter 98) (letter 120)) ⟨trivial, rfl⟩
    |>.snoc (a := UsrCall.modifyUsrBindInfo (sampleUsr 100 .operator 0) (letter 98))
      ⟨fun _ _ => by decide, rfl⟩
  exact ⟨_, _, h, rfl, rfl, authentication_current (by decide) h⟩

/-- Bob edits his record, which gives him an id no row of the database has, and is then renamed to
    Alice. Both calls succeed, but his own password no longer authenticates him: the search stops at
    the other Alice. -/
theorem renamed_user_locked_out :
    ∃ s tr, Run (UsrSuccess defaultHandle) (sampleState [alice, bob]) tr s ∧
      (∀ c ∈ tr, c ≠ .initUsrList) ∧
      ([alice, bob].map UserRegistInfo.name).Nodup ∧
      authentication (letter 97) (letter 98) s.listHead = .invalid ∧
      (tr.foldl UsrCall.effect (accountsOf [alice, bob])).authenticate (letter 97) (letter 98)
        = .operator := by
  have h := (Run.nil : Run (UsrSuccess defaultHandle) (sampleState [alice, bob]) [] _)
    |>.snoc (a := UsrCall.modifyUsrInfo bob { bob with usrID := 7 }) rfl
    |>.snoc (a := UsrCall.modifyUsrBindInfo alice (letter 98)) rfl
  exact ⟨_, _, h, by simp, by decide, rfl, rfl⟩

end SmartPlat.UsrManage
