import SmartPlat.FuelQuantityAnalysis.Upload

set_option autoImplicit false

/-! # Uploading a batch again

An upload that gets to its end has replaced the month of the first row by what the insertions added, and
is answered with success whatever the statements returned. So it replaces the months of the batch, all
or nothing, only if there is one month, and no statement fails. -/

namespace SmartPlat.FuelQuantityAnalysis

open SmartPlat.Lib

variable {F : Type} {env : FloatColumn F} {server server' : FuelServer F} {data : CJson}
  {infos : List (StuckPipeInfo F)} {values : List (FuelRow F)} {first : FuelRow F}
  {t t' : FuelTable F} {i : ℕ} {r : ℤ}

/-! ## The property and its condition -/

/-- The rows of a request that uploads pipe data. -/
def pipeData (env : FloatColumn F) (data : CJson) : Option (List (StuckPipeInfo F)) :=
  if (data.getObjectItemValueInt (ascii "uploadtype")).bmod 256 = fuelQuantityTypeStuckPipe then
    (data.getObjectItem (ascii "datalist")).map fun l => l.arrayItems.map (stuckPipeOf env)
  else none

/-- The rows that a batch means to store. -/
def batchRows (env : FloatColumn F) (infos : List (StuckPipeInfo F)) : FuelTable F :=
  (infos.filterMap StuckPipeInfo.values).map env.stored

/-- A statement that the upload executes fails. -/
def StatementFails (server : FuelServer F) (infos : List (StuckPipeInfo F)) : Prop :=
  server.deletes = false ∨ ∃ (i : ℕ) (info : StuckPipeInfo F) (values : FuelRow F),
    infos[i]? = some info ∧ info.values = some values ∧ server.insert i values = none

/-- One upload: after an answer of success the months of the batch are those of the batch and all
    others are as before; a statement that fails is reported, and nothing has changed then. -/
def UploadOk (env : FloatColumn F) (server : FuelServer F) (data : CJson)
    (infos : List (StuckPipeInfo F)) (t : FuelTable F) : Prop :=
  ∃ r t', funUploadOilStationData env server data t = .ok (r, t') ∧
    (r = keyTrue → ReplacesGroups FuelRow.yearMonth (batchRows env infos) t t') ∧
    (StatementFails server infos → r ≠ keyTrue ∧ t' = t)

/-- Two uploads of one request, to a server that may treat the second differently: both are as they
    should be on every table, and after two that succeed the table is as after the first. -/
def ReUploadOk (env : FloatColumn F) (server server' : FuelServer F) (data : CJson) : Prop :=
  ∀ infos ∈ pipeData env data,
    (∀ t, UploadOk env server data infos t) ∧ (∀ t, UploadOk env server' data infos t) ∧
    ∀ t t₁ t₂, funUploadOilStationData env server data t = .ok (keyTrue, t₁) →
      funUploadOilStationData env server' data t₁ = .ok (keyTrue, t₂) → t₂.Perm t₁

/-- The rows that insertions from the `i`-th on add. -/
def addedRows (server : FuelServer F) (i : ℕ) (values : List (FuelRow F)) : FuelTable F :=
  (values.zipIdx i).flatMap fun v => (server.insert v.2 v.1).getD []

/-- All statements are executed, and the insertions add the rows they are made of. -/
structure Executes (env : FloatColumn F) (server : FuelServer F) (values : List (FuelRow F)) :
    Prop where
  deletes : server.deletes = true
  inserts : ∀ i v, values[i]? = some v → server.insert i v ≠ none
  stores : (addedRows server 0 values).Perm (values.map env.stored)

/-- Every row has a name and a full date, all dates lie in the month of the first, and both servers
    execute the statements. -/
def UploadSafe (env : FloatColumn F) (server server' : FuelServer F) (data : CJson) : Prop :=
  ∀ infos ∈ pipeData env data, ∃ first values,
    infos.map StuckPipeInfo.values = (first :: values).map some ∧
    (∀ v ∈ values, v.yearMonth = first.yearMonth) ∧
    Executes env server (first :: values) ∧ Executes env server' (first :: values)

/-! ## One upload -/

theorem StuckPipeInfo.date_of_values {info : StuckPipeInfo F} (h : info.values = some first) :
    ∃ rest, info.date = first.year :: first.month :: rest := by
  unfold values at h
  split at h
  · next heq =>
      obtain rfl := Option.some.inj h
      exact ⟨_, heq⟩
  · cases h

theorem addRows_eq_ok_iff : addRows server i infos t = .ok t' ↔
    ∃ values, infos.map StuckPipeInfo.values = values.map some ∧
      t' = t ++ addedRows server i values := by
  induction infos generalizing i t with
  | nil =>
      rw [addRows, Except.ok.injEq]
      constructor
      · intro ht
        exact ⟨[], rfl, ht ▸ (List.append_nil t).symm⟩
      · intro ⟨values, hvalues, ht⟩
        obtain rfl : values = [] := by simpa using hvalues.symm
        exact ht.symm ▸ (List.append_nil t).symm
  | cons info infos ih =>
      rw [addRows, mySqlCtrlAddStuckPipeData, List.map_cons]
      constructor
      · intro h
        split at h
        · cases h
        · next v hv =>
            have hadd : addRows server (i + 1) infos (t ++ (server.insert i v).getD []) = .ok t' := by
              cases hins : server.insert i v with
              | none => simpa [hins, Except.bind] using h
              | some rows => simpa [hins, Except.bind] using h
            obtain ⟨values, hvalues, rfl⟩ := ih.1 hadd
            refine ⟨v :: values, by rw [hv, hvalues, List.map_cons], ?_⟩
            simp [addedRows]
      · intro ⟨values, hvalues, ht⟩
        cases values with
        | nil => cases hvalues
        | cons v values =>
            obtain ⟨hv, hrest⟩ := List.cons_eq_cons.1 hvalues
            have hadd : addRows server (i + 1) infos (t ++ (server.insert i v).getD []) = .ok t' :=
              ih.2 ⟨values, hrest, by simpa [addedRows] using ht⟩
            cases hins : server.insert i v with
            | none => simpa [hv, hins, Except.bind] using hadd
            | some rows => simpa [hv, hins, Except.bind] using hadd

theorem upload_pipeData (h : infos ∈ pipeData env data) (t : FuelTable F) :
    funUploadOilStationData env server data t =
      (addStuckPipeData server infos t).map fun r => (keyTrue, r.2) := by
  rw [pipeData, Option.mem_def] at h
  split at h
  · next htype =>
      obtain ⟨l, hl, rfl⟩ := Option.map_eq_some_iff.1 h
      simp only [funUploadOilStationData, hl, if_pos htype]
  · cases h

/-- **What an upload does**, where all members are written and the deletion is executed. -/
theorem upload_eq (h : infos ∈ pipeData env data)
    (hvalues : infos.map StuckPipeInfo.values = (first :: values).map some)
    (hdel : server.deletes = true) (t : FuelTable F) :
    funUploadOilStationData env server data t = .ok (keyTrue,
      replaceGroup FuelRow.yearMonth first.yearMonth (addedRows server 0 (first :: values)) t) := by
  rw [upload_pipeData h]
  cases infos with
  | nil => cases hvalues
  | cons info infos =>
      obtain ⟨hfirst, -⟩ := List.cons_eq_cons.1 hvalues
      obtain ⟨rest, hdate⟩ := StuckPipeInfo.date_of_values hfirst
      have hadd : addRows server 0 (info :: infos) (t.filter fun r => r.yearMonth ≠ first.yearMonth) =
          .ok (replaceGroup FuelRow.yearMonth first.yearMonth
            (addedRows server 0 (first :: values)) t) :=
        addRows_eq_ok_iff.2 ⟨_, hvalues, rfl⟩
      have hdelete : mysqlDelStuckPipeDataByDate server info.date t =
          .ok (keyTrue, t.filter fun r => r.yearMonth ≠ first.yearMonth) := by
        rw [hdate]
        exact if_pos hdel
      have htrue : ¬ keyTrue = keyFalse := by decide
      rw [addStuckPipeData, hdelete]
      simp only [Except.bind, if_neg htrue, hadd]
      rfl

/-- An upload that ends is answered with success; so no statement may fail, and then every member was
    written. -/
theorem UploadOk.executed (h : infos ∈ pipeData env data) (hok : UploadOk env server data infos t) :
    ¬ StatementFails server infos ∧ ∃ first values,
      infos.map StuckPipeInfo.values = (first :: values).map some := by
  obtain ⟨r, t', hup, -, hfail⟩ := hok
  rw [upload_pipeData h, map_eq_ok_iff] at hup
  obtain ⟨⟨r', t''⟩, hadd, heq⟩ := hup
  obtain ⟨rfl, rfl⟩ := Prod.mk.inj heq
  have hnofail : ¬ StatementFails server infos := fun hf => (hfail hf).1 rfl
  refine ⟨hnofail, ?_⟩
  have hdel : server.deletes = true := by
    rw [← Bool.not_eq_false]
    exact fun hf => hnofail (.inl hf)
  cases infos with
  | nil => cases hadd
  | cons info infos =>
      rw [addStuckPipeData, bind_eq_ok_iff] at hadd
      obtain ⟨⟨iret, t₁⟩, hdate, hrest⟩ := hadd
      unfold mysqlDelStuckPipeDataByDate at hdate
      split at hdate
      · rw [hdel, if_pos rfl] at hdate
        obtain ⟨rfl, rfl⟩ := Prod.mk.inj (Except.ok.inj hdate)
        have htrue : ¬ keyTrue = keyFalse := by decide
        simp only [if_neg htrue, map_eq_ok_iff] at hrest
        obtain ⟨t₂, hrows, -⟩ := hrest
        obtain ⟨values, hvalues, -⟩ := addRows_eq_ok_iff.1 hrows
        cases values with
        | nil => cases hvalues
        | cons first values => exact ⟨first, values, hvalues⟩
      · cases hdate

theorem not_statementFails_iff
    (hvalues : infos.map StuckPipeInfo.values = values.map some) :
    ¬ StatementFails server infos ↔
      server.deletes = true ∧ ∀ i v, values[i]? = some v → server.insert i v ≠ none := by
  have hget : ∀ (i : ℕ) (v : FuelRow F), values[i]? = some v ↔
      ∃ info, infos[i]? = some info ∧ info.values = some v := by
    intro i v
    have hi : infos[i]?.map StuckPipeInfo.values = values[i]?.map some := by
      rw [← List.getElem?_map, ← List.getElem?_map, hvalues]
    cases hinfo : infos[i]? with
    | none => cases hv : values[i]? <;> simp_all
    | some info => cases hv : values[i]? <;> simp_all
  simp only [StatementFails, not_or, not_exists, not_and, Bool.not_eq_false, hget]
  refine and_congr_right fun _ => ⟨fun h i v hv => ?_, fun h i info v hinfo hv => ?_⟩
  · obtain ⟨info, hinfo, hval⟩ := hv
    exact h i info v hinfo hval
  · exact h i v ⟨info, hinfo, hv⟩

theorem batchRows_eq (env : FloatColumn F)
    (hvalues : infos.map StuckPipeInfo.values = values.map some) :
    batchRows env infos = values.map env.stored := by
  have hfilter : infos.filterMap StuckPipeInfo.values = values := by
    have hid := List.filterMap_map (f := StuckPipeInfo.values) (g := id) (l := infos)
    rw [hvalues, List.filterMap_map] at hid
    simpa using hid.symm
  rw [batchRows, hfilter]

/-! ## Two uploads -/

/-- **Uploading again.** Two uploads of a request replace the months of its batch, all or nothing, and
    the second changes nothing, on every table, exactly if every row has a name and a full date, all
    rows are of one month, and all statements are executed and store the rows they are made of. -/
theorem reUpload_iff (env : FloatColumn F) (server server' : FuelServer F) (data : CJson) :
    ReUploadOk env server server' data ↔ UploadSafe env server server' data := by
  refine forall_congr' fun infos => forall_congr' fun hin => ?_
  constructor
  · intro ⟨h, h', htwice⟩
    obtain ⟨hnofail, first, values, hvalues⟩ := (h []).executed hin
    obtain ⟨hdel, hins⟩ := (not_statementFails_iff hvalues).1 hnofail
    obtain ⟨hdel', hins'⟩ := (not_statementFails_iff hvalues).1 ((h' []).executed hin).1
    have hup := upload_eq hin hvalues hdel
    have hup' := upload_eq hin hvalues hdel'
    have hbatch := batchRows_eq env hvalues
    have hk : first.yearMonth ∈ (batchRows env infos).map FuelRow.yearMonth := by
      rw [hbatch]
      exact List.mem_map.2 ⟨env.stored first, by simp, rfl⟩
    obtain ⟨hrows, hrows', hsame⟩ := (replaceGroup_idempotent_iff hk).1
      ⟨fun t => by
          obtain ⟨r, t', hr, hgroups, -⟩ := h t
          obtain ⟨rfl, rfl⟩ := Prod.mk.inj (Except.ok.inj ((hup t).symm.trans hr))
          exact hgroups rfl,
        fun t => by
          obtain ⟨r, t', hr, hgroups, -⟩ := h' t
          obtain ⟨rfl, rfl⟩ := Prod.mk.inj (Except.ok.inj ((hup' t).symm.trans hr))
          exact hgroups rfl,
        fun t => htwice t _ _ (hup t) (hup' _)⟩
    rw [hbatch] at hrows hrows' hsame
    refine ⟨first, values, hvalues, fun v hv => ?_, ⟨hdel, hins, hrows⟩, ⟨hdel', hins', hrows'⟩⟩
    exact hsame (env.stored v) (List.mem_map.2 ⟨v, List.mem_cons_of_mem _ hv, rfl⟩)
  · intro ⟨first, values, hvalues, hmonth, hex, hex'⟩
    have hup := upload_eq hin hvalues hex.deletes
    have hup' := upload_eq hin hvalues hex'.deletes
    have hbatch := batchRows_eq env hvalues
    have hk : first.yearMonth ∈ (batchRows env infos).map FuelRow.yearMonth := by
      rw [hbatch]
      exact List.mem_map.2 ⟨env.stored first, by simp, rfl⟩
    have hsame : ∀ r ∈ batchRows env infos, r.yearMonth = first.yearMonth := by
      intro r hr
      rw [hbatch] at hr
      obtain ⟨v, hv, rfl⟩ := List.mem_map.1 hr
      rcases List.mem_cons.1 hv with rfl | hv
      · rfl
      · exact hmonth v hv
    obtain ⟨h, h', htwice⟩ := (replaceGroup_idempotent_iff hk).2
      ⟨hbatch ▸ hex.stores, hbatch ▸ hex'.stores, hsame⟩
    refine ⟨fun t => ⟨_, _, hup t, fun _ => h t, fun hf => ?_⟩,
      fun t => ⟨_, _, hup' t, fun _ => h' t, fun hf => ?_⟩, fun t t₁ t₂ h₁ h₂ => ?_⟩
    · exact absurd hf ((not_statementFails_iff hvalues).2 ⟨hex.deletes, hex.inserts⟩)
    · exact absurd hf ((not_statementFails_iff hvalues).2 ⟨hex'.deletes, hex'.inserts⟩)
    · obtain ⟨-, rfl⟩ := Prod.mk.inj (Except.ok.inj ((hup t).symm.trans h₁))
      obtain ⟨-, rfl⟩ := Prod.mk.inj (Except.ok.inj ((hup' _).symm.trans h₂))
      exact htwice t

/-- A request with one row for each date, all of one station. -/
def sampleUpload (dates : List String) : CJson :=
  let str (s : String) : CJson := .item (some (.ofBuffer (ascii s))) 0 []
  let row (date : String) : Option CString × CJson :=
    (none, .item none 0 [(some (.ofBuffer (ascii "name")), str "A"),
      (some (.ofBuffer (ascii "LPM")), str "30"), (some (.ofBuffer (ascii "date")), str date)])
  .item none 0 [(some (.ofBuffer (ascii "uploadtype")), .item none 2 []),
    (some (.ofBuffer (ascii "datalist")), .item none 0 (dates.map row))]

/-- A batch of two months is uploaded twice to a server that executes everything: its August is stored
    twice. -/
theorem august_stored_twice :
    ∃ t₁ t₂ : FuelTable ℤ,
      funUploadOilStationData ⟨atoi, id⟩ ⟨true, fun _ v => some [v]⟩
        (sampleUpload ["2021-07-01 09:00:00", "2021-08-01 09:00:00"]) [] = .ok (keyTrue, t₁) ∧
      funUploadOilStationData ⟨atoi, id⟩ ⟨true, fun _ v => some [v]⟩
        (sampleUpload ["2021-07-01 09:00:00", "2021-08-01 09:00:00"]) t₁ = .ok (keyTrue, t₂) ∧
      (t₁.filter fun r => r.yearMonth = (2021, 8)).length = 1 ∧
      (t₂.filter fun r => r.yearMonth = (2021, 8)).length = 2 ∧ ¬ t₂.Perm t₁ := by
  refine ⟨_, _, rfl, rfl, by decide, by decide, fun hperm => ?_⟩
  exact absurd hperm.length_eq (by decide)

end SmartPlat.FuelQuantityAnalysis
