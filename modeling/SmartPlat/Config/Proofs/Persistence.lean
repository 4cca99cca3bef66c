import Mathlib.Tactic.Common
import Mathlib.Tactic.NormNum
import SmartPlat.Config.ConfigManage
import SmartPlat.Lib.Transition

set_option autoImplicit false

/-! # Loading what was saved

`PrintsBack` is what the store relies on of the parser: the text of an object is read back from a buffer
that starts with it, a part of the text is no value, and the texts of the members are read back, too. -/

namespace SmartPlat.Config

open SmartPlat.Lib

variable {parse : List UInt8 → Except Fault (Option CJsonItem)} {root : Members}

/-- The parser stops at the closing brace of the text of `root`, and looks for what is missing of a part
    of it in the bytes behind. -/
structure PrintsBack (parse : List UInt8 → Except Fault (Option CJsonItem)) (root : Members) :
    Prop where
  whole : ∀ n, parse (textOf root ++ List.replicate n 0) = .ok (some (.object root))
  part : ∀ k n, k < (textOf root).length → 0 < n →
    parse ((textOf root).take k ++ List.replicate n 0) = .ok none
  unterminated : ∀ k < (textOf root).length, parse ((textOf root).take k) = .error .badAccess
  copy : ∀ m ∈ root, parse (m.2.printValue ++ [0]) = .ok (some m.2)

/-! ## The length -/

theorem dConfpathLen_eq : dConfpathLen = 1048576 := by norm_num [dConfpathLen]

theorem outLen_of_le {size : ℕ} (h : size ≤ dConfpathLen) : outLen size = size := by
  rw [dConfpathLen_eq] at h
  exact Int.bmod_eq_of_le (by omega) (by omega)

theorem outLen_le (size : ℕ) : outLen size ≤ size := bmod_le_self size (2 ^ 32)

theorem textOf_length_pos (root : Members) : 0 < (textOf root).length := by
  rw [textOf, CJsonItem.printValue, List.length_append, List.length_singleton]
  exact Nat.succ_pos _

theorem setConf_ne_nil (root : Members) (confName : CString) (conf : CJsonItem) :
    setConf root confName conf ≠ [] := by
  rw [setConf]
  exact List.append_ne_nil_of_right_ne_nil _ (List.cons_ne_nil _ _)

/-! ## What is loaded -/

/-- A file that fits is in the buffer, with zeros behind. -/
theorem loadConfig_of_le {text : List UInt8} (h : text.length ≤ dConfpathLen) :
    loadConfig (some text) =
      .ok ((text.length : ℤ), text ++ List.replicate (dConfpathLen - text.length) 0) := by
  have hread : text.take (text.length : ℤ).toNat = text := by
    rw [Int.toNat_natCast, List.take_length]
  rw [loadConfig]
  simp only [outLen_of_le h]
  rw [if_neg (Int.not_lt.2 (Int.natCast_nonneg _)), hread, if_pos h]

/-- The text of the configuration is loaded when it fits. -/
theorem configManageInit_whole (hprints : PrintsBack parse root)
    (h : (textOf root).length ≤ dConfpathLen) :
    configManageInit parse (some (textOf root)) = .ok (keyTrue, root) := by
  rw [configManageInit, loadConfig_of_le h, Except.bind]
  dsimp only
  rw [if_pos (by exact_mod_cast textOf_length_pos root), hprints.whole]
  rfl

/-- A length that is small enough for the buffer, after it went through an `int`, and leaves room for
    a terminator. -/
def Terminated (size : ℕ) : Prop := 0 ≤ outLen size ∧ outLen size < dConfpathLen

instance (size : ℕ) : Decidable (Terminated size) := inferInstanceAs (Decidable (_ ∧ _))

/-- Of a file with a part of the text, or with a text that does not fit, nothing is loaded. -/
theorem configManageInit_part (hprints : PrintsBack parse root) {n : ℕ}
    (h : n < (textOf root).length ∨ dConfpathLen < n) (hn : n ≤ (textOf root).length) :
    configManageInit parse (some ((textOf root).take n)) =
      if Terminated n then .ok (keyNotfoundconf, []) else .error .badAccess := by
  have hlength : ((textOf root).take n).length = n := by
    rw [List.length_take, Nat.min_eq_left hn]
  rw [configManageInit, loadConfig]
  simp only [hlength]
  by_cases hneg : outLen n < 0
  · -- the whole file is read
    have hlong : ¬ n ≤ dConfpathLen := fun hle => by
      rw [outLen_of_le hle] at hneg
      omega
    rw [if_pos hneg, hlength, if_neg hlong, if_neg (fun h => absurd hneg (Int.not_lt.2 h.1))]
    rfl
  · have hle := outLen_le n
    obtain ⟨k, hk⟩ := Int.eq_ofNat_of_zero_le (Int.not_lt.1 hneg)
    have hkn : k ≤ n := by omega
    have hread : ((textOf root).take n).take (outLen n).toNat = (textOf root).take k := by
      rw [hk, Int.toNat_natCast, List.take_take, Nat.min_eq_left hkn]
    have hklength : ((textOf root).take k).length = k := by
      rw [List.length_take, Nat.min_eq_left (hkn.trans hn)]
    rw [if_neg hneg, hread, hklength, hk]
    by_cases hfits : k ≤ dConfpathLen
    · have hpart : k < (textOf root).length := by omega
      rw [if_pos hfits, Except.bind]
      dsimp only
      rcases Nat.lt_or_eq_of_le hfits with hroom | rfl
      · have hterminated : Terminated n := ⟨by omega, by omega⟩
        rw [if_pos hterminated, hprints.part k _ hpart (by omega)]
        split <;> rfl
      · -- nothing behind the text ends it
        have hfull : ¬ Terminated n := fun h => by
          have hlt := h.2
          omega
        rw [if_neg hfull, Nat.sub_self, List.replicate_zero, List.append_nil,
          hprints.unterminated _ hpart, if_pos (by decide)]
        rfl
    · have hlong : ¬ Terminated n := fun h => by
        have hlt := h.2
        omega
      rw [if_neg hfits, if_neg hlong]
      rfl

/-! ## A parser for some configurations -/

/-- The parser, as far as it is called with the texts of these configurations, parts of them and the texts
    of their members. -/
def parseOnly (roots : List Members) (buffer : List UInt8) : Except Fault (Option CJsonItem) :=
  let text := (CString.ofBuffer buffer).bytes
  match roots.find? fun root => textOf root <+: text with
  | some root => .ok (some (.object root))
  | none =>
      if 0 ∈ buffer then .ok ((roots.flatten.find? fun m => m.2.printValue = text).map Prod.snd)
      else .error .badAccess

theorem bytes_ofBuffer_zeros {text : List UInt8} (h : 0 ∉ text) (n : ℕ) :
    (CString.ofBuffer (text ++ List.replicate n 0)).bytes = text := by
  rw [CString.bytes_ofBuffer_append h]
  cases n with
  | zero => exact List.append_nil text
  | succ n => exact List.append_nil text

/-- The text of `root`, its parts and the texts of its members are told apart. -/
structure ToldApart (roots : List Members) (root : Members) : Prop where
  whole : (roots.find? fun r => textOf r <+: textOf root) = some root
  part : ∀ k < (textOf root).length,
    (roots.find? fun r => textOf r <+: (textOf root).take k).isNone ∧
      (roots.flatten.find? fun m => m.2.printValue = (textOf root).take k).isNone
  copy : ∀ m ∈ root, (roots.find? fun r => textOf r <+: m.2.printValue).isNone ∧
    (roots.flatten.find? fun m' => m'.2.printValue = m.2.printValue).map Prod.snd = some m.2

/-- It reads back what it can tell apart. -/
theorem printsBack_parseOnly {roots : List Members} (h : ToldApart roots root) :
    PrintsBack (parseOnly roots) root := by
  have hnul : 0 ∉ textOf root := CJsonItem.zero_notMem_printValue _
  have hnulPart (k : ℕ) : 0 ∉ (textOf root).take k := fun h => hnul (List.mem_of_mem_take h)
  refine ⟨fun n => ?_, fun k n hk hn => ?_, fun k hk => ?_, fun m hm => ?_⟩
  · rw [parseOnly, bytes_ofBuffer_zeros hnul, h.whole]
  · have hzero : 0 ∈ (textOf root).take k ++ List.replicate n 0 :=
      List.mem_append_right _ (List.mem_replicate.2 ⟨by omega, rfl⟩)
    obtain ⟨hroots, hmembers⟩ := h.part k hk
    rw [parseOnly, bytes_ofBuffer_zeros (hnulPart k), Option.isNone_iff_eq_none.1 hroots,
      Option.isNone_iff_eq_none.1 hmembers]
    exact if_pos hzero
  · rw [parseOnly, CString.bytes_ofBuffer (hnulPart k), Option.isNone_iff_eq_none.1 (h.part k hk).1]
    exact if_neg (hnulPart k)
  · have htext : (CString.ofBuffer (m.2.printValue ++ [0])).bytes = m.2.printValue :=
      bytes_ofBuffer_zeros (CJsonItem.zero_notMem_printValue m.2) 1
    obtain ⟨hroots, hmember⟩ := h.copy m hm
    rw [parseOnly, htext, Option.isNone_iff_eq_none.1 hroots, hmember]
    exact if_pos (List.mem_append_right _ List.mem_cons_self)

/-- A single member whose text is not that of an object is told apart. -/
theorem toldApart_single {name : CString} {conf : CJsonItem}
    (hconf : ∃ b t, conf.printValue = b :: t ∧ b ≠ 123) :
    ToldApart [[(name, conf)]] [(name, conf)] := by
  obtain ⟨b, t, hconf, hb⟩ := hconf
  obtain ⟨t', ht'⟩ : ∃ t, textOf [(name, conf)] = 123 :: t := ⟨_, rfl⟩
  refine ⟨?_, fun k hk => ⟨?_, ?_⟩, fun m hm => ?_⟩
  · rw [List.find?_cons_of_pos (by simp)]
  · have hpart : ¬ textOf [(name, conf)] <+: (textOf [(name, conf)]).take k := fun hpre => by
      have hlength := hpre.length_le
      rw [List.length_take] at hlength
      omega
    rw [List.find?_cons_of_neg (by simpa using hpart)]
    rfl
  · have hother : conf.printValue ≠ (textOf [(name, conf)]).take k := by
      rw [hconf, ht']
      cases k with
      | zero => exact List.cons_ne_nil _ _
      | succ k => exact fun heq => hb (List.cons_eq_cons.1 heq).1
    rw [List.flatten_singleton, List.find?_cons_of_neg (by simpa using hother)]
    rfl
  · obtain rfl := List.mem_singleton.1 hm
    have hother : ¬ textOf [(name, conf)] <+: conf.printValue := by
      rw [ht', hconf, List.cons_prefix_cons]
      exact fun h => hb h.1.symm
    rw [List.find?_cons_of_neg (by simpa using hother), List.flatten_singleton,
      List.find?_cons_of_pos (by simp)]
    exact ⟨rfl, rfl⟩

/-! ## The configuration after a restart

Saving has no limit on the length of the text, loading has: the file is read whole into a buffer of
1 MiB. -/

variable {parse : List UInt8 → Except Fault (Option CJsonItem)} {s₀ s : Conf}

/-- Changes whose saves are complete, where the parser reads back what is saved. -/
def savedStep (parse : List UInt8 → Except Fault (Option CJsonItem)) : Conf → SetCall → Conf → Prop :=
  stepWhen (fun s c => c.save = .complete ∧ PrintsBack parse (setConf s.root c.confName c.conf)) setStep

/-- A restart reads every name as it was read before. -/
def Persists (parse : List UInt8 → Except Fault (Option CJsonItem)) (s : Conf) : Prop :=
  ∃ code root, configManageInit parse s.file = .ok (code, root) ∧
    ∀ confName, configManageGet parse root confName = configManageGet parse s.root confName

/-- What is saved fits the buffer it is loaded into. -/
def FileFits (s : Conf) : Prop := ∀ text, s.file = some text → text.length ≤ dConfpathLen

/-- The server has started from a file that fits, or without one. -/
structure Started (parse : List UInt8 → Except Fault (Option CJsonItem)) (s : Conf) : Prop where
  fits : FileFits s
  init : ∃ code, configManageInit parse s.file = .ok (code, s.root)

/-- The file has the text of the configuration. -/
structure Saved (parse : List UInt8 → Except Fault (Option CJsonItem)) (s : Conf) : Prop where
  file : s.file = some (textOf s.root)
  prints : PrintsBack parse s.root
  nonempty : s.root ≠ []

theorem saved_of_complete {s' : Conf} {c : SetCall} (hstep : setStep s c s') (hsave : c.save = .complete)
    (hprints : PrintsBack parse (setConf s.root c.confName c.conf)) : Saved parse s' := by
  obtain ⟨-, rfl⟩ := hstep
  refine ⟨?_, hprints, setConf_ne_nil _ _ _⟩
  rw [configManageSet, wirteConf, hsave, Save.size]
  exact congrArg some (List.take_length ..)

theorem started_or_saved {tr : List SetCall} (h0 : Started parse s₀)
    (h : Run (savedStep parse) s₀ tr s) : Started parse s ∨ Saved parse s := by
  refine h.stateInvariant (fun s => Started parse s ∨ Saved parse s) (Or.inl h0) fun s c s' _ hstep => ?_
  obtain ⟨⟨hsave, hprints⟩, hstep⟩ := hstep
  exact Or.inr (saved_of_complete hstep hsave hprints)

/-- A configuration that is not empty has a value under some name. -/
theorem exists_get (hprints : PrintsBack parse s.root) (hroot : s.root ≠ []) :
    ∃ confName conf, configManageGet parse s.root confName = .ok (some conf) := by
  obtain ⟨m, root, hm⟩ := List.exists_cons_of_ne_nil hroot
  refine ⟨m.1, m.2, ?_⟩
  have hfind : findConf s.root m.1 = some m.2 := by
    rw [findConf, hm, lookup_cons, if_pos rfl]
    rfl
  rw [configManageGet, hfind]
  exact hprints.copy m (hm ▸ List.mem_cons_self)

/-- A text that does not fit is written past the buffer, or cut off by the `int` its length goes
    through: nothing is loaded. -/
theorem not_persists (hsaved : Saved parse s) (hlong : dConfpathLen < (textOf s.root).length) :
    ¬ Persists parse s := by
  rintro ⟨code, root, hinit, hget⟩
  have hpart := configManageInit_part hsaved.prints (Or.inr hlong) le_rfl
  rw [List.take_length, ← hsaved.file, hinit] at hpart
  split at hpart
  · cases hpart
    obtain ⟨confName, conf, hconf⟩ := exists_get hsaved.prints hsaved.nonempty
    have hlost := hget confName
    rw [hconf] at hlost
    cases hlost
  · cases hpart

/-- **The configuration survives a restart exactly when its text fits the buffer**, whatever was stored
    under which names. -/
theorem persists_iff {tr : List SetCall} (h0 : Started parse s₀)
    (h : Run (savedStep parse) s₀ tr s) : Persists parse s ↔ FileFits s := by
  rcases started_or_saved h0 h with hstarted | hsaved
  · obtain ⟨code, hinit⟩ := hstarted.init
    exact iff_of_true ⟨code, s.root, hinit, fun _ => rfl⟩ hstarted.fits
  · have hfits : FileFits s ↔ (textOf s.root).length ≤ dConfpathLen := by
      rw [FileFits, hsaved.file]
      simp
    rw [hfits]
    constructor
    · intro hpersists
      by_contra hlong
      exact not_persists hsaved (Nat.not_le.1 hlong) hpersists
    · intro hle
      refine ⟨keyTrue, s.root, ?_, fun _ => rfl⟩
      rw [hsaved.file]
      exact configManageInit_whole hsaved.prints hle

/-! ## A long value -/

/-- The configuration of a server that has no file yet. -/
def freshConf : Conf := ⟨[], none, true⟩

theorem started_fresh (parse : List UInt8 → Except Fault (Option CJsonItem)) :
    Started parse freshConf where
  fits _ h := by cases h
  init := ⟨keyNotfoundconf, rfl⟩

def storeConf (conf : CJsonItem) : SetCall := ⟨.ofBuffer [97], conf, .complete⟩

/-- The only value that is stored in a new configuration. -/
theorem run_storeConf {conf : CJsonItem} (hconf : ∃ b t, conf.printValue = b :: t ∧ b ≠ 123) :
    Run (savedStep (parseOnly [[(.ofBuffer [97], conf)]])) freshConf [storeConf conf]
      (configManageSet freshConf (storeConf conf)) :=
  Run.nil.snoc ⟨⟨rfl, printsBack_parseOnly (toldApart_single hconf)⟩, rfl, rfl⟩

/-- An array of more than a million numbers. -/
def longList : CJsonItem := .array (List.replicate (dConfpathLen + 1) (.number 1))

theorem printValue_longList : ∃ b t, longList.printValue = b :: t ∧ b ≠ 123 :=
  ⟨91, _, rfl, by decide⟩

theorem long_conf_lost :
    ∃ s, Run (savedStep (parseOnly [[(.ofBuffer [97], longList)]])) freshConf [storeConf longList] s ∧
      ¬ Persists (parseOnly [[(.ofBuffer [97], longList)]]) s := by
  refine ⟨_, run_storeConf printValue_longList, ?_⟩
  have hsaved := saved_of_complete (s := freshConf) (c := storeConf longList) ⟨rfl, rfl⟩ rfl
    (printsBack_parseOnly (toldApart_single printValue_longList))
  refine not_persists hsaved ?_
  have hmember : longList.printValue.length ≤ (textOf [(.ofBuffer [97], longList)]).length :=
    CJsonItem.length_le_object List.mem_cons_self
  have hlist := CJsonItem.length_array_replicate (dConfpathLen + 1) (.number 1)
  have hnumber : (CJsonItem.number 1).printValue.length = 1 := by decide
  rw [hnumber, Nat.mul_one] at hlist
  exact Nat.lt_of_lt_of_le (Nat.lt_succ_self _) (hlist.trans hmember)

/-! ## Three short values -/

/-- The configurations `{"a":"x"}`, `{"a":"x","b":1}` and `{"b":1,"a":"y"}`. -/
def shortRoots : List Members :=
  [[(.ofBuffer [97], .string (.ofBuffer [120]))],
    [(.ofBuffer [97], .string (.ofBuffer [120])), (.ofBuffer [98], .number 1)],
    [(.ofBuffer [98], .number 1), (.ofBuffer [97], .string (.ofBuffer [121]))]]

theorem printsBack_shortRoots : ∀ root ∈ shortRoots, PrintsBack (parseOnly shortRoots) root := by
  rw [shortRoots, List.forall_mem_cons, List.forall_mem_cons, List.forall_mem_singleton]
  refine ⟨printsBack_parseOnly ⟨rfl, by decide, ?_⟩, printsBack_parseOnly ⟨rfl, by decide, ?_⟩,
    printsBack_parseOnly ⟨rfl, by decide, ?_⟩⟩
  · rw [List.forall_mem_singleton]
    exact ⟨by decide, rfl⟩
  · rw [List.forall_mem_cons, List.forall_mem_singleton]
    exact ⟨⟨by decide, rfl⟩, by decide, rfl⟩
  · rw [List.forall_mem_cons, List.forall_mem_singleton]
    exact ⟨⟨by decide, rfl⟩, by decide, rfl⟩

/-- `a` is stored, then `b`, then `a` again. -/
def storeShort : List SetCall :=
  [⟨.ofBuffer [97], .string (.ofBuffer [120]), .complete⟩, ⟨.ofBuffer [98], .number 1, .complete⟩,
    ⟨.ofBuffer [97], .string (.ofBuffer [121]), .complete⟩]

/-- Short values are there after a restart. -/
theorem short_conf_kept :
    ∃ s, Run (savedStep (parseOnly shortRoots)) freshConf storeShort s ∧ s.root.length = 2 ∧
      Persists (parseOnly shortRoots) s := by
  have hprints := printsBack_shortRoots
  have hrun : Run (savedStep (parseOnly shortRoots)) freshConf storeShort _ :=
    ((Run.nil.snoc ⟨⟨rfl, hprints _ (.head _)⟩, rfl, rfl⟩).snoc
      ⟨⟨rfl, hprints _ (.tail _ (.head _))⟩, rfl, rfl⟩).snoc
      ⟨⟨rfl, hprints _ (.tail _ (.tail _ (.head _)))⟩, rfl, rfl⟩
  refine ⟨_, hrun, rfl, (persists_iff (started_fresh _) hrun).2 fun text htext => ?_⟩
  obtain rfl := Option.some.inj htext
  decide

end SmartPlat.Config
