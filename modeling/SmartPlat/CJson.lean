import SmartPlat.CString
import SmartPlat.Lib.FirstMatch
import SmartPlat.Lib.Printf

set_option autoImplicit false

/-! # JSON values (`ExtLibs/CJson/cjson.c`)

A parsed value, as the accessors of the library see it. The parser is in `CJsonParse.lean`, over items that
keep their types. -/

namespace SmartPlat

/-- `cJSON`: the string and the number of the item, and its children with their names, which the
    elements of an array do not have. -/
inductive CJson where
  | item (valuestring : Option CString) (valueint : ℤ) (child : List (Option CString × CJson))

namespace CJson

def valuestring : CJson → Option CString
  | item valuestring _ _ => valuestring

def valueint : CJson → ℤ
  | item _ valueint _ => valueint

def child : CJson → List (Option CString × CJson)
  | item _ _ child => child

/-- `cJSON_GetObjectItem` -/
def getObjectItem (object : CJson) (name : List UInt8) : Option CJson :=
  (object.child.find? fun c => c.1.any fun string => strcasecmp string.bytes name).map Prod.snd

/-- `cJSON_GetArrayItem` for each index below `cJSON_GetArraySize`. -/
def arrayItems (array : CJson) : List CJson := array.child.map Prod.snd

/-- `cJSON_GetObjectItemValueString` into a zeroed `char value[n + 1]` of that size: without the item
    nothing is written. -/
def getObjectItemValueString (n : ℕ) (obj : CJson) (name : List UInt8) : Option (CharArray n) :=
  (obj.getObjectItem name).bind fun tmp => tmp.valuestring.map (snprintf n)

/-- `cJSON_GetObjectItemValueInt` -/
def getObjectItemValueInt (obj : CJson) (name : List UInt8) : ℤ :=
  ((obj.getObjectItem name).map valueint).getD (-1)

/-! ## Building and editing JSON items

The accessors do not look at the type of an item, so an item is the same whether it has just been built
or comes from `cJSON_Parse` of its text. Elements of an array that are built with a name lose it in the
text, and have none here. -/

open SmartPlat.Lib

/-- `cJSON_CreateNumber` of an integer. -/
def number (n : ℤ) : CJson := .item none n []

/-- `cJSON_CreateString` -/
def string (s : CString) : CJson := .item (some s) 0 []

/-- `cJSON_CreateArray` with its elements. -/
def array (items : List CJson) : CJson := .item none 0 (items.map (none, ·))

/-- `cJSON_CreateObject` with its members. -/
def object (members : List (String × CJson)) : CJson :=
  .item none 0 (members.map fun m => (some (.ofBuffer (ascii m.1)), m.2))

/-- The elements of an array are edited. -/
def editItems (edit : List CJson → List CJson) (array : CJson) : CJson :=
  .item array.valuestring array.valueint ((edit array.arrayItems).map (none, ·))

/-- `!cJSON_strcasecmp(c->string, name)` -/
def named (name : List UInt8) (c : Option CString × CJson) : Bool :=
  c.1.any fun string => strcasecmp string.bytes name

/-- The item that `cJSON_GetObjectItem` finds is edited in its place. -/
def editObjectItem (name : List UInt8) (edit : CJson → CJson) (object : CJson) : CJson :=
  .item object.valuestring object.valueint
    (modifyFirst (named name) true (fun c => (c.1, edit c.2)) object.child)

/-- `cJSON_ReplaceItemInObject`: the new item takes the place of the one that is found, and its name as it
    is written here. Without one nothing is replaced. -/
def replaceItemInObject (object : CJson) (name : List UInt8) (newitem : CJson) : CJson :=
  .item object.valuestring object.valueint
    (modifyFirst (named name) true (fun _ => (some (.ofBuffer name), newitem)) object.child)

variable {object : CJson} {name : List UInt8} {a : CJson}

@[simp]
theorem arrayItems_array (items : List CJson) : (array items).arrayItems = items := by
  simp [array, arrayItems, child]

@[simp]
theorem arrayItems_editItems (edit : List CJson → List CJson) (array : CJson) :
    (array.editItems edit).arrayItems = edit array.arrayItems := by
  simp [editItems, arrayItems, child]

theorem getObjectItem_eq_lookup :
    object.getObjectItem name = (lookup (named name) true object.child).map Prod.snd := by
  refine congrArg (fun p => (List.find? p object.child).map Prod.snd) (funext fun c => ?_)
  exact Bool.decide_eq_true.symm

theorem getObjectItem_editObjectItem {edit : CJson → CJson} (h : object.getObjectItem name = some a) :
    (object.editObjectItem name edit).getObjectItem name = some (edit a) := by
  rw [getObjectItem_eq_lookup] at h
  obtain ⟨c, hc, rfl⟩ := Option.map_eq_some_iff.1 h
  have hkey := key_of_lookup hc
  have hnamed : named name (c.1, edit c.2) = true := hkey
  rw [getObjectItem_eq_lookup, editObjectItem, child, lookup_modifyFirst_self hc hnamed]
  rfl

theorem replaceItemInObject_of_absent {newitem : CJson} (h : object.getObjectItem name = none) :
    object.replaceItemInObject name newitem = object := by
  rw [getObjectItem_eq_lookup, Option.map_eq_none_iff] at h
  rw [replaceItemInObject, modifyFirst_of_absent h]
  cases object
  rfl

section

variable {newitem : CJson} (hname : 0 ∉ name)

include hname

theorem named_ofBuffer (other : List UInt8) :
    named other (some (.ofBuffer name), newitem) = strcasecmp name other := by
  rw [named, Option.any_some, CString.bytes_ofBuffer hname]

theorem getObjectItem_replaceItemInObject (h : (object.getObjectItem name).isSome) :
    (object.replaceItemInObject name newitem).getObjectItem name = some newitem := by
  rw [getObjectItem_eq_lookup, Option.isSome_map] at h
  obtain ⟨c, hc⟩ := Option.isSome_iff_exists.1 h
  have hnamed : named name (some (.ofBuffer name), newitem) = true := by
    rw [named_ofBuffer hname]
    exact decide_eq_true rfl
  rw [getObjectItem_eq_lookup, replaceItemInObject, child, lookup_modifyFirst_self hc hnamed]
  rfl

/-- A member of another name is the same afterwards. -/
theorem getObjectItem_replaceItemInObject_other {other : List UInt8} (hne : strcasecmp name other = false) :
    (object.replaceItemInObject name newitem).getObjectItem other = object.getObjectItem other := by
  rw [getObjectItem_eq_lookup, getObjectItem_eq_lookup, replaceItemInObject, child]
  refine congrArg _ (lookup_modifyFirst_other fun c hc => ⟨fun hother => ?_, ?_⟩)
  · -- a name that both find makes them one
    obtain ⟨string, c⟩ := c
    cases string with
    | none => exact Bool.false_ne_true hc
    | some string =>
        have hsame : string.bytes.map tolower = name.map tolower := of_decide_eq_true hc
        have hsame' : string.bytes.map tolower = other.map tolower := of_decide_eq_true hother
        exact of_decide_eq_false hne (hsame.symm.trans hsame')
  · rw [named_ofBuffer hname, hne]
    exact Bool.false_ne_true

theorem getObjectItemValueInt_replaceItemInObject_other {other : List UInt8}
    (hne : strcasecmp name other = false) :
    (object.replaceItemInObject name newitem).getObjectItemValueInt other =
      object.getObjectItemValueInt other := by
  rw [getObjectItemValueInt, getObjectItem_replaceItemInObject_other hname hne, getObjectItemValueInt]

/-- The number that is read afterwards. -/
theorem getObjectItemValueInt_replaceItemInObject :
    (object.replaceItemInObject name newitem).getObjectItemValueInt name =
      if (object.getObjectItem name).isSome then newitem.valueint else -1 := by
  rw [getObjectItemValueInt]
  split
  · next h => rw [getObjectItem_replaceItemInObject hname h]; rfl
  · next h =>
      rw [Bool.not_eq_true, Option.isSome_eq_false_iff, Option.isNone_iff_eq_none] at h
      rw [replaceItemInObject_of_absent h, h]
      rfl

end

/-- `name` is the name of the member at `i`, where the names are `names`. -/
def NameAt (names : List String) (i : ℕ) (name : List UInt8) : Prop :=
  names.findIdx? (fun n => strcasecmp (CString.ofBuffer (ascii n)).bytes name) = some i

instance (names : List String) (i : ℕ) (name : List UInt8) : Decidable (NameAt names i name) :=
  inferInstanceAs (Decidable (_ = _))

section

variable {α : Type} {members : List (String × α)} (names : List String) (i : ℕ)
  (hnames : members.map Prod.fst = names) (hname : NameAt names i name)

include hnames hname

theorem find?_of_nameAt {m : String × α} (hm : members[i]? = some m) :
    members.find? (fun m => strcasecmp (CString.ofBuffer (ascii m.1)).bytes name) = some m := by
  subst hnames
  rw [NameAt, List.findIdx?_map] at hname
  obtain ⟨hlt, hat, hbefore⟩ := List.findIdx?_eq_some_iff_getElem.1 hname
  obtain ⟨-, rfl⟩ := List.getElem?_eq_some_iff.1 hm
  exact List.find?_eq_some_iff_getElem.2 ⟨hat, i, hlt, rfl, fun j hj => by simpa using hbefore j hj⟩

end

section

variable {members : List (String × CJson)} (names : List String) (i : ℕ)
  (hnames : members.map Prod.fst = names) (hname : NameAt names i name)

include hnames hname

/-- A member of an object is found by its place. -/
theorem getObjectItem_object {m : String × CJson} (hm : members[i]? = some m) :
    (CJson.object members).getObjectItem name = some m.2 := by
  rw [getObjectItem, CJson.object, child, List.find?_map, Option.map_map]
  exact congrArg (Option.map _) (find?_of_nameAt names i hnames hname hm)

theorem getObjectItemValueInt_object {s : String} {n : ℤ} (hm : members[i]? = some (s, number n)) :
    (CJson.object members).getObjectItemValueInt name = n := by
  rw [getObjectItemValueInt, getObjectItem_object names i hnames hname hm]
  rfl

theorem getObjectItemValueString_object {s : String} {n : ℕ} {a : CharArray n}
    (hm : members[i]? = some (s, string a.str)) :
    (CJson.object members).getObjectItemValueString n name = some a := by
  rw [getObjectItemValueString, getObjectItem_object names i hnames hname hm]
  exact congrArg some (snprintf_str a)

end

end CJson

end SmartPlat
