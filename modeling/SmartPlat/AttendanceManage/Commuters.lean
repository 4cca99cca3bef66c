import SmartPlat.Common
import Mathlib.Data.Int.DivMod
import Mathlib.Data.Nat.Notation

set_option autoImplicit false

/-! # The commuters of a count (`attendancemanage.c`)

`AddVolumeOfCommutersNum` makes up sexes and ages for the people a camera has counted: it draws how many of
them are female, kids and old, and the rest are male and young. Each draw is bounded by what the draws
before it have left. -/

namespace SmartPlat.AttendanceManage

/-- `VolumeOfCommuters_T`, with the members of its members. -/
structure VolumeOfCommuters where
  snapToken : String
  dwLeaveNum : ℤ
  dwEnterNum : ℤ
  male : ℤ
  female : ℤ
  kid : ℤ
  young : ℤ
  old : ℤ
  deriving DecidableEq, Repr

/-- What `rand()` may return: `0` to `RAND_MAX`. -/
structure Rand where
  value : ℤ
  nonneg : 0 ≤ value
  le_max : value ≤ 2147483647

/-- `x % y`, which keeps the sign of `x`; nothing is left of the program when `y` is zero. -/
def remainder (x y : ℤ) : Option ℤ := if y = 0 then none else some (x.tmod y)

/-- The three draws, with one part in `kids` of the people for the kids and one part in `olds` of the
    others for the old. -/
def drawCommuters (kids olds : ℤ) (rand : ℕ → Rand) (info : VolumeOfCommuters) :
    Option VolumeOfCommuters := do
  let n := info.dwEnterNum
  let a ← remainder (rand 0).value (n.tdiv 2)
  let b ← remainder (rand 1).value (n.tdiv kids)
  let c ← remainder (rand 2).value ((n - b).tdiv olds)
  return { info with female := a, male := n - a, kid := b, old := c, young := n - b - c }

/-- The members of `SexAttr` and `AgeAttr`. -/
def splitCommuters (rand : ℕ → Rand) (info : VolumeOfCommuters) : Option VolumeOfCommuters :=
  let n := info.dwEnterNum
  if n ≥ 10 then drawCommuters 10 9 rand info
  else if n ≥ 2 ∧ n < 10 then drawCommuters 2 2 rand info
  else some { info with female := 0, male := n, kid := 0, old := 0, young := n }

/-- `AddVolumeOfCommutersNum`, with the calls of `rand()` in order: the result, and what is handed to
    `pAddPassengerFlowInfo`; `none` where a remainder modulo zero is taken. -/
def addVolumeOfCommutersNum (pAddPassengerFlowInfo : Bool) (info : Option VolumeOfCommuters)
    (rand : ℕ → Rand) : Option (ℤ × Option VolumeOfCommuters) :=
  match info with
  | none => some (keyFalse, none)
  | some info =>
      if ¬ pAddPassengerFlowInfo then some (keyFalse, none)
      else (splitCommuters rand info).map fun info =>
        if info.dwEnterNum > -1 ∧ info.female > -1 ∧ info.male > -1 ∧ info.kid > -1 ∧ info.old > -1
            ∧ info.young > -1 then
          (keyTrue, some info)
        else (keyTrue, none)

/-! ## The split -/

/-- Nobody is lost and nobody made up. -/
structure VolumeOfCommuters.Conserved (info : VolumeOfCommuters) : Prop where
  male : 0 ≤ info.male
  female : 0 ≤ info.female
  kid : 0 ≤ info.kid
  young : 0 ≤ info.young
  old : 0 ≤ info.old
  sexes : info.male + info.female = info.dwEnterNum
  ages : info.kid + info.young + info.old = info.dwEnterNum

theorem remainder_of_pos (r : Rand) {y : ℤ} (hy : 0 < y) :
    ∃ x, remainder r.value y = some x ∧ 0 ≤ x ∧ x < y := by
  refine ⟨r.value.tmod y, if_neg (by omega), Int.tmod_nonneg y r.nonneg, Int.tmod_lt_of_pos _ hy⟩

/-- The draws leave somebody to draw from as long as the parts they are taken from are not empty. -/
theorem drawCommuters_conserved {kids olds : ℤ} {rand : ℕ → Rand} {info : VolumeOfCommuters}
    (hkids : 2 ≤ kids) (holds : 0 < olds) (hn : kids ≤ info.dwEnterNum)
    (hleft : ∀ b, b < info.dwEnterNum.tdiv kids → olds ≤ info.dwEnterNum - b) :
    ∃ info', drawCommuters kids olds rand info = some info' ∧ info'.Conserved ∧
      info'.dwEnterNum = info.dwEnterNum := by
  have hpos : 0 ≤ info.dwEnterNum := by omega
  have hpart : ∀ {m k : ℤ}, 0 < k → k ≤ m → 0 < m.tdiv k ∧ m.tdiv k ≤ m := by
    intro m k hk hle
    have hm : 0 ≤ m := by omega
    rw [Int.tdiv_eq_ediv_of_nonneg hm]
    exact ⟨Int.le_ediv_of_mul_le hk (by omega), Int.ediv_le_self _ hm⟩
  obtain ⟨hhalf, hhalf_le⟩ := hpart (m := info.dwEnterNum) (k := 2) (by omega) (by omega)
  obtain ⟨a, ha, ha0, ha_lt⟩ := remainder_of_pos (rand 0) hhalf
  obtain ⟨hkid, hkid_le⟩ := hpart (by omega) hn
  obtain ⟨b, hb, hb0, hb_lt⟩ := remainder_of_pos (rand 1) hkid
  obtain ⟨hold, hold_le⟩ := hpart holds (hleft b hb_lt)
  obtain ⟨c, hc, hc0, hc_lt⟩ := remainder_of_pos (rand 2) hold
  refine ⟨{ info with
    female := a, male := info.dwEnterNum - a, kid := b, old := c, young := info.dwEnterNum - b - c },
    ?_, ?_, rfl⟩
  · simp only [drawCommuters, ha, hb, hc, Option.bind_eq_bind, Option.bind_some]
    rfl
  · constructor <;> dsimp only <;> omega

theorem splitCommuters_conserved (rand : ℕ → Rand) {info : VolumeOfCommuters}
    (hn : 0 ≤ info.dwEnterNum) : ∃ info', splitCommuters rand info = some info' ∧ info'.Conserved ∧
      info'.dwEnterNum = info.dwEnterNum := by
  simp only [splitCommuters]
  split
  · next h10 =>
      refine drawCommuters_conserved (by omega) (by omega) h10 fun b hb => ?_
      -- fewer than a tenth are kids, so nine of ten are left
      rw [Int.tdiv_eq_ediv_of_nonneg hn] at hb
      omega
  · split
    · next h2 =>
        refine drawCommuters_conserved (by omega) (by omega) h2.1 fun b hb => ?_
        rw [Int.tdiv_eq_ediv_of_nonneg hn] at hb
        omega
    · refine ⟨_, rfl, ?_, rfl⟩
      constructor <;> dsimp only <;> omega

/-- **The split conserves people**: for every count that is not negative and whatever `rand()` returns, no
    remainder is taken modulo zero, and what is stored adds up to the count. -/
theorem commuters_conserved (info : VolumeOfCommuters) (rand : ℕ → Rand) (hn : 0 ≤ info.dwEnterNum) :
    ∃ info', addVolumeOfCommutersNum true (some info) rand = some (keyTrue, some info') ∧
      info'.Conserved ∧ info'.dwEnterNum = info.dwEnterNum := by
  obtain ⟨info', hsplit, hcons, hnum⟩ := splitCommuters_conserved rand hn
  refine ⟨info', ?_, hcons, hnum⟩
  obtain ⟨hmale, hfemale, hkid, hyoung, hold, -, -⟩ := hcons
  rw [addVolumeOfCommutersNum, if_neg (by decide), hsplit, Option.map_some, if_pos (by omega)]

/-- Twelve people, and draws of 5, 7 and 9. -/
theorem commuters_conserved_twelve :
    ∃ info', addVolumeOfCommutersNum true (some ⟨"", 0, 12, 0, 0, 0, 0, 0⟩)
        (fun k => ⟨5 + 2 * (k % 3 : ℕ), by omega, by omega⟩) = some (keyTrue, some info') ∧
      info'.Conserved ∧ info'.dwEnterNum = 12 :=
  commuters_conserved ⟨"", 0, 12, 0, 0, 0, 0, 0⟩ _ (by decide)

end SmartPlat.AttendanceManage
