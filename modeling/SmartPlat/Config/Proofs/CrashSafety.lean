import SmartPlat.Config.Proofs.Persistence

set_option autoImplicit false

/-! # The configuration after a save that fails

`WirteConf` truncates the only copy of the configuration before it writes the new one. -/

namespace SmartPlat.Config

open SmartPlat.Lib

variable {parse : List UInt8 → Except Fault (Option CJsonItem)} {s₀ s s' : Conf} {c : SetCall}

/-- Changes that end in whatever way, where the parser reads back what is saved. -/
def printedStep (parse : List UInt8 → Except Fault (Option CJsonItem)) :
    Conf → SetCall → Conf → Prop :=
  stepWhen (fun s c => PrintsBack parse (setConf s.root c.confName c.conf)) setStep

/-- The next start finds the configuration before the change or after it, and a file that cannot be
    opened does not end the server. -/
def SurvivesSave (parse : List UInt8 → Except Fault (Option CJsonItem)) (s : Conf) (c : SetCall)
    (s' : Conf) : Prop :=
  (∃ code, configManageInit parse s'.file = .ok (code, s.root) ∨
    configManageInit parse s'.file = .ok (code, s'.root)) ∧
  (c.save = .openFails → s'.running = true)

/-- The file has only a part of the text of the configuration, or more than can be loaded. -/
def Torn (s : Conf) : Prop :=
  ∃ n, (n < (textOf s.root).length ∨ dConfpathLen < n) ∧ n ≤ (textOf s.root).length ∧
    s.file = some ((textOf s.root).take n) ∧ s.root ≠ []

/-- `size` bytes of a text of this length are all of it, and fit the buffer; or they are loaded as an empty
    configuration, and it was empty before. -/
def Recoverable (s : Conf) (length size : ℕ) : Prop :=
  size = length ∧ length ≤ dConfpathLen ∨ s.root = [] ∧ Terminated size

/-- The file can be opened. The server stops before it touches a file that is whole, or what it writes
    is recoverable. -/
def SafeSave (s : Conf) (c : SetCall) : Prop :=
  c.save ≠ .openFails ∧
    match c.save.size (textOf (setConf s.root c.confName c.conf)).length with
    | none => ¬ Torn s
    | some size => Recoverable s (textOf (setConf s.root c.confName c.conf)).length size

/-! ## The next start -/

/-- What is loaded after a save that has written `size` bytes. -/
theorem configManageInit_take {root : Members} {size : ℕ} (hprints : PrintsBack parse root)
    (hsize : size ≤ (textOf root).length) :
    configManageInit parse (some ((textOf root).take size)) =
      if size = (textOf root).length ∧ (textOf root).length ≤ dConfpathLen then .ok (keyTrue, root)
      else if Terminated size then .ok (keyNotfoundconf, []) else .error .badAccess := by
  split
  · next h =>
      rw [h.1, List.take_length]
      exact configManageInit_whole hprints h.2
  · next h => exact configManageInit_part hprints (by omega) hsize

theorem survives_iff_recoverable {root : Members} {size : ℕ} (hprints : PrintsBack parse root)
    (hroot : root ≠ []) (hsize : size ≤ (textOf root).length) :
    (∃ code, configManageInit parse (some ((textOf root).take size)) = .ok (code, s.root) ∨
      configManageInit parse (some ((textOf root).take size)) = .ok (code, root)) ↔
      Recoverable s (textOf root).length size := by
  rw [configManageInit_take hprints hsize, Recoverable]
  split
  · next hwhole => exact iff_of_true ⟨keyTrue, Or.inr rfl⟩ (Or.inl hwhole)
  next hpart =>
    rw [or_iff_right hpart]
    split
    · next hempty =>
        simp only [hempty, and_true, Except.ok.injEq, Prod.mk.injEq]
        constructor
        · rintro ⟨code, ⟨-, h⟩ | ⟨-, h⟩⟩
          · exact h.symm
          · exact absurd h.symm hroot
        · exact fun h => ⟨keyNotfoundconf, Or.inl ⟨rfl, h.symm⟩⟩
    · next hover =>
        refine iff_of_false ?_ fun h => hover h.2
        rintro ⟨code, h | h⟩ <;> cases h

/-- Nothing of a torn file is loaded. -/
theorem not_loaded_of_torn (hprints : PrintsBack parse s.root) (htorn : Torn s) {code : ℤ}
    {root : Members} (hroot : root ≠ []) : configManageInit parse s.file ≠ .ok (code, root) := by
  obtain ⟨n, hn, hle, hfile, -⟩ := htorn
  rw [hfile, configManageInit_part hprints hn hle]
  split
  · intro h
    cases h
    exact hroot rfl
  · exact nofun

/-! ## One change -/

/-- While the server runs, the file is loaded as the configuration, or it is torn. -/
structure Intact (parse : List UInt8 → Except Fault (Option CJsonItem)) (s : Conf) : Prop where
  prints : PrintsBack parse s.root
  file : s.running = true → (∃ code, configManageInit parse s.file = .ok (code, s.root)) ∨ Torn s

/-- A change is survived exactly when it is safe. -/
theorem survivesSave_iff (hs : Intact parse s) (hstep : printedStep parse s c s') :
    SurvivesSave parse s c s' ↔ SafeSave s c := by
  obtain ⟨hprints, hrunning, rfl⟩ := hstep
  have hroot := setConf_ne_nil s.root c.confName c.conf
  rw [SurvivesSave, SafeSave, and_comm]
  refine and_congr ?_ ?_
  · constructor
    · intro h hopen
      have hgoes := h hopen
      rw [configManageSet, hopen] at hgoes
      cases hgoes
    · exact fun h hopen => absurd hopen h
  · rw [configManageSet, wirteConf]
    dsimp only
    cases hsize : c.save.size (textOf (setConf s.root c.confName c.conf)).length with
    | none =>
        dsimp only
        rcases hs.file hrunning with ⟨code, hinit⟩ | htorn
        · refine iff_of_true ⟨code, Or.inl hinit⟩ fun htorn => ?_
          obtain ⟨-, -, -, -, hne⟩ := id htorn
          exact not_loaded_of_torn hs.prints htorn hne hinit
        · refine iff_of_false ?_ (not_not_intro htorn)
          obtain ⟨-, -, -, -, hne⟩ := id htorn
          rintro ⟨code, h | h⟩
          · exact not_loaded_of_torn hs.prints htorn hne h
          · exact not_loaded_of_torn hs.prints htorn hroot h
    | some size =>
        refine survives_iff_recoverable hprints hroot ?_
        cases hsave : c.save <;> rw [hsave, Save.size] at hsize <;> cases hsize
        · exact le_rfl
        · exact Nat.min_le_right _ _
        · exact Nat.min_le_right _ _

theorem intact_step (hstep : printedStep parse s c s') : Intact parse s' := by
  obtain ⟨hprints, -, rfl⟩ := hstep
  refine ⟨hprints, fun hrunning => ?_⟩
  obtain ⟨size, hsize, hle⟩ : ∃ size, c.save.size
      (textOf (setConf s.root c.confName c.conf)).length = some size ∧
      size ≤ (textOf (setConf s.root c.confName c.conf)).length := by
    rw [configManageSet] at hrunning
    cases hsave : c.save <;> rw [hsave] at hrunning <;> cases hrunning
    · exact ⟨_, rfl, le_rfl⟩
    · exact ⟨_, rfl, Nat.min_le_right _ _⟩
  have hfile : (configManageSet s c).file =
      some ((textOf (setConf s.root c.confName c.conf)).take size) := by
    rw [configManageSet, wirteConf, hsize]
  by_cases hwhole : size = (textOf (setConf s.root c.confName c.conf)).length ∧
      (textOf (setConf s.root c.confName c.conf)).length ≤ dConfpathLen
  · refine Or.inl ⟨keyTrue, ?_⟩
    rw [hfile, configManageInit_take hprints hle, if_pos hwhole]
    rfl
  · have hpart : size < (textOf (setConf s.root c.confName c.conf)).length ∨ dConfpathLen < size := by
      omega
    exact Or.inr ⟨size, hpart, hle, hfile, setConf_ne_nil _ _ _⟩

/-- A complete save is safe when its text fits. -/
theorem safeSave_complete (hsave : c.save = .complete)
    (hfits : (textOf (setConf s.root c.confName c.conf)).length ≤ dConfpathLen) : SafeSave s c := by
  rw [SafeSave, hsave, Save.size]
  exact ⟨fun h => (by cases h), Or.inl ⟨rfl, hfits⟩⟩

/-! ## Runs -/

/-- **A failed save is survived exactly when it does not tear the file.** From a server whose
    configuration is what it has loaded, every change of a run leaves the configuration before it or
    after it for the next start, and does not end the server where the file cannot be opened, exactly
    when every change is safe. -/
theorem saves_survived_iff {tr : List SetCall} (hprints : PrintsBack parse s₀.root)
    (hinit : ∃ code, configManageInit parse s₀.file = .ok (code, s₀.root)) :
    Run (stepThat (SurvivesSave parse) (printedStep parse)) s₀ tr s ↔
      Run (stepWhen SafeSave (printedStep parse)) s₀ tr s := by
  refine Run.each_iff (Intact parse) ⟨hprints, fun _ => Or.inl hinit⟩ ?_ ?_
  · exact fun s c s' hs hsafe hstep => ⟨intact_step hstep, (survivesSave_iff hs hstep).2 hsafe⟩
  · exact fun s c s' hs hnot hstep => mt (survivesSave_iff hs hstep).1 hnot

/-! ## One value beside another -/

/-- The configuration with one short value. -/
def shortRoot : Members := [(.ofBuffer [97], .string (.ofBuffer [120]))]

def shortConf : Conf := ⟨shortRoot, some (textOf shortRoot), true⟩

/-- A second value is stored. -/
def storeBeside (save : Save) : SetCall := ⟨.ofBuffer [98], .number 1, save⟩

/-- The first value is changed. -/
def storeAgain (save : Save) : SetCall := ⟨.ofBuffer [97], .string (.ofBuffer [121]), save⟩

theorem printsBack_shortRoot : PrintsBack (parseOnly shortRoots) shortRoot :=
  printsBack_shortRoots _ (.head _)

theorem configManageInit_shortConf :
    configManageInit (parseOnly shortRoots) shortConf.file = .ok (keyTrue, shortConf.root) := by
  have hfits : (textOf shortRoot).length ≤ dConfpathLen := by decide
  rw [shortConf]
  exact configManageInit_whole printsBack_shortRoot hfits

theorem setStep_storeBeside (save : Save) :
    printedStep (parseOnly shortRoots) shortConf (storeBeside save)
      (configManageSet shortConf (storeBeside save)) :=
  ⟨printsBack_shortRoots _ (.tail _ (.head _)), rfl, rfl⟩

/-- The process stops after the file is truncated, and the configuration is empty at the next start. -/
theorem conf_lost_after_truncation :
    ∃ s, Run (printedStep (parseOnly shortRoots)) shortConf [storeBeside (.stopsAfter 0)] s ∧
      ¬ SurvivesSave (parseOnly shortRoots) shortConf (storeBeside (.stopsAfter 0)) s := by
  refine ⟨_, Run.nil.snoc (setStep_storeBeside _), ?_⟩
  rintro ⟨⟨code, h | h⟩, -⟩ <;> cases h

/-- A complete save is survived, and so is a change in which the process stops before it touches the file. -/
theorem conf_kept_after_save :
    ∃ s, Run (stepThat (SurvivesSave (parseOnly shortRoots)) (printedStep (parseOnly shortRoots))) shortConf
      [storeBeside .complete, storeAgain .stopsBefore] s ∧ s.running = false := by
  have hsafe : SafeSave shortConf (storeBeside .complete) := safeSave_complete rfl (by decide)
  have hsafe' : SafeSave (configManageSet shortConf (storeBeside .complete)) (storeAgain .stopsBefore) := by
    -- the file has the whole text of both values, and is loaded
    have hprints := printsBack_shortRoots _ (.tail _ (.head _))
    have hloaded := configManageInit_whole hprints (by decide)
    exact ⟨by decide, fun htorn => not_loaded_of_torn hprints htorn (List.cons_ne_nil _ _) hloaded⟩
  refine ⟨_, (saves_survived_iff printsBack_shortRoot ⟨keyTrue, configManageInit_shortConf⟩).2
    ((Run.nil.snoc ⟨hsafe, setStep_storeBeside _⟩).snoc
      ⟨hsafe', printsBack_shortRoots _ (.tail _ (.tail _ (.head _))), rfl, rfl⟩), rfl⟩

end SmartPlat.Config
