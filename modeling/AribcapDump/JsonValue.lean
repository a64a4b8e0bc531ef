import AribcapDump.JsonLine
import AribcapDump.Rfc3339

/-!
# JSON values

`ToJsonLine` builds a value of the JSON library and has it written.  A value as
the library keeps it: members stand in the order their keys were first assigned
to, and assigning to a key again replaces its value.

    write (object [(k, v), ...])  =  {"k":v,...}

* `write_readsBack`: where code words for string bytes are told apart, so are values.
* `serialisesDistinctly_documented`: as they are with the escapes of JSON.
-/

namespace AribcapDump

open Delimited

/-- `jsoncons::ojson`, of what is stored here. -/
inductive Json
  | null
  | bool (value : Bool)
  | number (n : ℕ)
  | string (s : Bytes)
  | array (items : List Json)
  | object (members : List (Bytes × Json))

namespace Json

/-- No key stands twice in an object. -/
inductive UniqueKeys : Json → Prop
  | null : UniqueKeys null
  | bool (value : Bool) : UniqueKeys (bool value)
  | number (n : ℕ) : UniqueKeys (number n)
  | string (s : Bytes) : UniqueKeys (string s)
  | array {items : List Json} : (∀ item ∈ items, UniqueKeys item) → UniqueKeys (array items)
  | object {members : List (Bytes × Json)} : (members.map Prod.fst).Nodup → (∀ member ∈ members, UniqueKeys member.2) →
      UniqueKeys (object members)

/-- `object[key] = value`. -/
def assign (members : List (Bytes × Json)) (key : Bytes) (value : Json) : List (Bytes × Json) :=
  if members.any (·.1 == key) then members.map fun member => if member.1 == key then (key, value) else member
  else members ++ [(key, value)]

/-- A new value after the assignments, in order. -/
def assigned (assignments : List (String × Json)) : Json :=
  object (assignments.foldl (fun members assignment => assign members (ascii assignment.1) assignment.2) [])

/-- Assignments to different keys are the members. -/
theorem assigned_eq {assignments : List (String × Json)}
    (hkeys : (assignments.map fun assignment => ascii assignment.1).Nodup) :
    assigned assignments = object (assignments.map fun assignment => (ascii assignment.1, assignment.2)) := by
  have hfold : ∀ (assignments : List (String × Json)) (members : List (Bytes × Json)),
      (members.map Prod.fst ++ assignments.map fun assignment => ascii assignment.1).Nodup →
      assignments.foldl (fun members assignment => assign members (ascii assignment.1) assignment.2) members =
        members ++ assignments.map fun assignment => (ascii assignment.1, assignment.2) := by
    intro assignments
    induction assignments with
    | nil => simp
    | cons assignment assignments ih =>
      intro members hkeys
      have hnew : members.any (·.1 == ascii assignment.1) = false := by
        rw [List.any_eq_false]
        intro member hmember heq
        rw [List.map_cons] at hkeys
        have hdisjoint := (List.nodup_append.mp hkeys).2.2
        exact hdisjoint member.1 (List.mem_map_of_mem hmember) (ascii assignment.1) List.mem_cons_self (eq_of_beq heq)
      rw [List.foldl_cons, assign, hnew, if_neg Bool.false_ne_true, ih]
      · rw [List.append_assoc, List.map_cons, List.singleton_append]
      · rwa [List.map_append, List.append_assoc, List.map_singleton, List.singleton_append]
  rw [assigned, hfold assignments [] hkeys, List.nil_append]

theorem uniqueKeys_assigned {assignments : List (String × Json)}
    (hkeys : (assignments.map fun assignment => ascii assignment.1).Nodup)
    (hvalues : ∀ assignment ∈ assignments, assignment.2.UniqueKeys) : (assigned assignments).UniqueKeys := by
  rw [assigned_eq hkeys]
  refine .object ?_ ?_
  · rwa [List.map_map]
  · intro member hmember
    obtain ⟨assignment, hassignment, rfl⟩ := List.mem_map.mp hmember
    exact hvalues assignment hassignment

section
variable [Jsoncons]

mutual

/-- `to_string`, in the layout that tests/output_record_json_test.cc asserts. -/
def write : Json → Bytes
  | null => jsonNull
  | bool value => jsonBool value
  | number n => jsonNumber n
  | string s => jsonString s
  | array items => jsonArray (writeItems items)
  | object members => 123 :: jsonList (writeMembers members) ++ [125]

def writeItems : List Json → List Bytes
  | [] => []
  | item :: items => item.write :: writeItems items

def writeMembers : List (Bytes × Json) → List Bytes
  | [] => []
  | (key, value) :: members => (jsonString key ++ 58 :: value.write) :: writeMembers members

end

theorem writeItems_eq (items : List Json) : writeItems items = items.map write := by
  induction items with
  | nil => rfl
  | cons item items ih => rw [writeItems, ih, List.map_cons]

def writeMember (member : Bytes × Json) : Bytes := jsonString member.1 ++ 58 :: member.2.write

theorem writeMembers_eq (members : List (Bytes × Json)) : writeMembers members = members.map writeMember := by
  induction members with
  | nil => rfl
  | cons member members ih => rw [writeMembers, ih, List.map_cons, writeMember]

theorem write_assigned {assignments : List (String × Json)}
    (hkeys : (assignments.map fun assignment => ascii assignment.1).Nodup) :
    (assigned assignments).write =
      jsonObject (assignments.map fun assignment => (assignment.1, assignment.2.write)) := by
  rw [assigned_eq hkeys, write, writeMembers_eq, jsonObject, List.map_map, List.map_map]
  rfl

theorem write_array (items : List Json) : (array items).write = jsonArray (items.map write) := by
  rw [write, writeItems_eq]

end

/-! ## The first byte -/

def kind : Json → ℕ
  | null => 0
  | bool _ => 1
  | number _ => 2
  | string _ => 3
  | array _ => 4
  | object _ => 5

/-- The kind of the values that begin with the byte; 6 where none does. -/
def kindOfFirst (b : UInt8) : ℕ :=
  if b = 110 then 0
  else if b = 116 ∨ b = 102 then 1
  else if 48 ≤ b.toNat ∧ b.toNat ≤ 57 then 2
  else if b = 34 then 3
  else if b = 91 then 4
  else if b = 123 then 5
  else 6

theorem kindOfFirst_digit {b : UInt8} (hb : IsDigit b) : kindOfFirst b = 2 := by
  have hnull : b ≠ 110 := by
    rintro rfl
    exact absurd hb.2 (by decide)
  have hbool : ¬ (b = 116 ∨ b = 102) := by
    rintro (rfl | rfl)
    · exact absurd hb.2 (by decide)
    · exact absurd hb.2 (by decide)
  rw [kindOfFirst, if_neg hnull, if_neg hbool]
  exact if_pos hb

end Json

theorem jsonNumber_eq (n : ℕ) : jsonNumber n = paddedDecimal 0 n := by
  simp [jsonNumber, paddedDecimal]

namespace Json

section
variable [Jsoncons]

theorem write_first (v : Json) : ∃ b text, v.write = b :: text ∧ kindOfFirst b = v.kind := by
  cases v with
  | null =>
    have hnull : jsonNull = 110 :: ascii "ull" := by decide
    exact ⟨110, ascii "ull", hnull, rfl⟩
  | bool value =>
    cases value with
    | false =>
      have hfalse : jsonBool false = 102 :: ascii "alse" := by decide
      exact ⟨102, ascii "alse", hfalse, rfl⟩
    | true =>
      have htrue : jsonBool true = 116 :: ascii "rue" := by decide
      exact ⟨116, ascii "rue", htrue, rfl⟩
  | number n =>
    obtain ⟨b, text, htext⟩ := List.exists_cons_of_ne_nil (paddedDecimal_ne_nil 0 n)
    have hdigit := isDigit_paddedDecimal 0 n b (by rw [htext]; exact List.mem_cons_self)
    exact ⟨b, text, (jsonNumber_eq n).trans htext, kindOfFirst_digit hdigit⟩
  | string s => exact ⟨34, _, rfl, rfl⟩
  | array items => exact ⟨91, _, rfl, rfl⟩
  | object members => exact ⟨123, _, rfl, rfl⟩

/-- No value begins as an array or an object ends. -/
theorem write_first_ne (v : Json) {close : UInt8} (hclose : kindOfFirst close = 6) :
    ∃ b text, v.write = b :: text ∧ b ≠ close := by
  obtain ⟨b, text, htext, hkind⟩ := write_first v
  refine ⟨b, text, htext, ?_⟩
  rintro rfl
  rw [hclose] at hkind
  cases v <;> cases hkind

/-- The first byte tells the kind. -/
theorem kind_eq_of_write {v v' : Json} {t t' : Bytes} (h : v.write ++ t = v'.write ++ t') : v.kind = v'.kind := by
  obtain ⟨b, text, htext, hkind⟩ := write_first v
  obtain ⟨b', text', htext', hkind'⟩ := write_first v'
  rw [htext, htext', List.cons_append, List.cons_append] at h
  rw [← hkind, ← hkind', (List.cons.inj h).1]

end

end Json

/-! ## Reading back -/

/-- The items between commas, with a closing byte. -/
theorem jsonList_split {α : Type} {write : α → Bytes} {close : UInt8} (hclose : (44 : UInt8) ≠ close) {xs xs' : List α}
    (hfirst : ∀ x, ∃ b text, write x = b :: text ∧ b ≠ close)
    (hxs : ∀ x ∈ xs, ReadsBack write (Continues 44 close) x) {t t' : Bytes}
    (h : jsonList (xs.map write) ++ close :: t = jsonList (xs'.map write) ++ close :: t') : xs = xs' ∧ t = t' := by
  have hempty : ∀ {x : α} {text u : Bytes}, close :: u ≠ write x ++ text := by
    intro x text u heq
    obtain ⟨b, word, hword, hne⟩ := hfirst x
    rw [hword] at heq
    exact hne (List.cons.inj heq).1.symm
  cases xs with
  | nil =>
    cases xs' with
    | nil => exact ⟨rfl, (List.cons.inj h).2⟩
    | cons x' xs' =>
      rw [List.map_cons, jsonList, List.append_assoc] at h
      exact absurd h hempty
  | cons x xs =>
    cases xs' with
    | nil =>
      rw [List.map_cons, jsonList, List.append_assoc] at h
      exact absurd h.symm hempty
    | cons x' xs' =>
      simp only [List.map_cons, jsonList, List.append_assoc, List.flatMap_map] at h
      obtain ⟨rfl, htail⟩ := hxs x List.mem_cons_self x' _ _ (continues_flatMap write 44 close xs t)
        (continues_flatMap write 44 close xs' t') h
      obtain ⟨rfl, rfl⟩ := flatMap_sep_close hclose (fun y hy => hxs y (List.mem_cons_of_mem _ hy)) htail
      exact ⟨rfl, rfl⟩

/-- No byte is written as the beginning of what another is written as, and none ends the string. -/
structure EscapeCode [Jsoncons] : Prop where
  prefixFree : PrefixFree Jsoncons.escape
  first : ∀ b, ∃ e word, Jsoncons.escape b = e :: word ∧ e ≠ 34

theorem jsonBool_split {value value' : Bool} {t t' : Bytes} (h : jsonBool value ++ t = jsonBool value' ++ t') :
    value = value' ∧ t = t' := by
  have hfalse : jsonBool false = 102 :: ascii "alse" := by decide
  have htrue : jsonBool true = 116 :: ascii "rue" := by decide
  cases value with
  | false =>
    cases value' with
    | false => exact ⟨rfl, List.append_cancel_left h⟩
    | true =>
      rw [hfalse, htrue] at h
      exact absurd (List.cons.inj h).1 (by decide)
  | true =>
    cases value' with
    | false =>
      rw [hfalse, htrue] at h
      exact absurd (List.cons.inj h).1 (by decide)
    | true => exact ⟨rfl, List.append_cancel_left h⟩

/-- What comes next does not continue a number. -/
def Ends (t : Bytes) : Prop := ∀ b ∈ t.head?, ¬ IsDigit b

theorem Continues.ends {close : UInt8} (hclose : ¬ IsDigit close) {t : Bytes} (h : Continues 44 close t) : Ends t := by
  intro b hb
  rcases h with hcomma | hend
  · rw [hcomma] at hb
    cases hb
    decide
  · rw [hend] at hb
    cases hb
    exact hclose

section
variable [Jsoncons] (hcode : EscapeCode)
include hcode

theorem jsonString_split {s s' t t' : Bytes} (h : jsonString s ++ t = jsonString s' ++ t') : s = s' ∧ t = t' := by
  simp only [jsonString, List.cons_append, List.append_assoc, List.nil_append] at h
  exact hcode.prefixFree.flatMap_close hcode.first (List.cons.inj h).2

namespace Json

theorem writeMember_readsBack {follow : Bytes → Prop} {key : Bytes} {value : Json}
    (hvalue : ReadsBack write follow value) : ReadsBack writeMember follow (key, value) := by
  rintro ⟨key', value'⟩ t t' ht ht' h
  simp only [writeMember, List.append_assoc, List.cons_append] at h
  obtain ⟨rfl, hcolon⟩ := jsonString_split hcode h
  obtain ⟨rfl, rfl⟩ := hvalue value' t t' ht ht' (List.cons.inj hcolon).2
  exact ⟨rfl, rfl⟩

omit hcode in
theorem readsBack_array {items : List Json} (hitems : ∀ item ∈ items, ReadsBack write Ends item) :
    ReadsBack write Ends (array items) := by
  intro v' t t' ht ht' h
  have hkind := kind_eq_of_write h
  cases v' with
  | array items' =>
    have hclose : ¬ IsDigit 93 := by decide
    have hlisted : ∀ item ∈ items, ReadsBack write (Continues 44 93) item :=
      fun item hitem => (hitems item hitem).mono fun u => Continues.ends hclose
    simp only [write, writeItems_eq, jsonArray, List.cons_append, List.append_assoc, List.nil_append] at h
    obtain ⟨rfl, rfl⟩ := jsonList_split (by decide) (fun x => write_first_ne x (by decide)) hlisted (List.cons.inj h).2
    exact ⟨rfl, rfl⟩
  | _ => simp [kind] at hkind

theorem readsBack_object {members : List (Bytes × Json)} (hmembers : ∀ member ∈ members, ReadsBack write Ends member.2) :
    ReadsBack write Ends (object members) := by
  intro v' t t' ht ht' h
  have hkind := kind_eq_of_write h
  cases v' with
  | object members' =>
    have hclose : ¬ IsDigit 125 := by decide
    have hlisted : ∀ member ∈ members, ReadsBack writeMember (Continues 44 125) member :=
      fun member hmember => writeMember_readsBack hcode ((hmembers member hmember).mono fun u => Continues.ends hclose)
    have hfirst : ∀ member : Bytes × Json, ∃ b text, writeMember member = b :: text ∧ b ≠ 125 :=
      fun member => ⟨34, _, rfl, by decide⟩
    simp only [write, writeMembers_eq, List.cons_append, List.append_assoc, List.nil_append] at h
    obtain ⟨rfl, rfl⟩ := jsonList_split (by decide) hfirst hlisted (List.cons.inj h).2
    exact ⟨rfl, rfl⟩
  | _ => simp [kind] at hkind

theorem readsBack_scalar {v : Json} (hscalar : v.kind < 4) : ReadsBack write Ends v := by
  intro v' t t' ht ht' h
  have hkind := kind_eq_of_write h
  cases v with
  | null =>
    cases v' with
    | null => exact ⟨rfl, List.append_cancel_left h⟩
    | _ => simp [kind] at hkind
  | bool value =>
    cases v' with
    | bool value' =>
      obtain ⟨rfl, rfl⟩ := jsonBool_split h
      exact ⟨rfl, rfl⟩
    | _ => simp [kind] at hkind
  | number n =>
    cases v' with
    | number n' =>
      simp only [write, jsonNumber_eq] at h
      obtain ⟨rfl, rfl⟩ := paddedDecimal_split ht ht' h
      exact ⟨rfl, rfl⟩
    | _ => simp [kind] at hkind
  | string s =>
    cases v' with
    | string s' =>
      obtain ⟨rfl, rfl⟩ := jsonString_split hcode h
      exact ⟨rfl, rfl⟩
    | _ => simp [kind] at hkind
  | array items => exact absurd hscalar (by simp [kind])
  | object members => exact absurd hscalar (by simp [kind])

/-- **A value is read back**, and what follows it, unless that continues a number. -/
theorem write_readsBack : ∀ v : Json, ReadsBack write Ends v
  | null => readsBack_scalar hcode (by simp [kind])
  | bool _ => readsBack_scalar hcode (by simp [kind])
  | number _ => readsBack_scalar hcode (by simp [kind])
  | string _ => readsBack_scalar hcode (by simp [kind])
  | array items => readsBack_array fun item _ => write_readsBack item
  | object members => readsBack_object hcode fun member _ => write_readsBack member.2
termination_by v => sizeOf v
decreasing_by
  · next hitem =>
    have hlt := List.sizeOf_lt_of_mem hitem
    rw [array.sizeOf_spec]
    omega
  · next hmember =>
    obtain ⟨key, value⟩ := member
    have hlt := List.sizeOf_lt_of_mem hmember
    rw [Prod.mk.sizeOf_spec] at hlt
    rw [object.sizeOf_spec]
    simp only
    omega

end Json

end

/-- Distinct values are serialised to distinct strings. -/
def SerialisesDistinctly [Jsoncons] : Prop :=
  ∀ v v' : Json, v.UniqueKeys → v'.UniqueKeys → v.write = v'.write → v = v'

theorem EscapeCode.serialisesDistinctly [Jsoncons] (hcode : EscapeCode) : SerialisesDistinctly := by
  intro v v' _ _ h
  have hends : Ends [] := fun b hb => by cases hb
  exact (Json.write_readsBack hcode v v' [] [] hends hends (by rw [h])).1

/-- The bytes that are escaped. -/
def escapedBytes : List UInt8 := (List.range 32).map Nat.toUInt8 ++ [34, 92, 127]

theorem mem_escapedBytes {b : UInt8} (h : mustEscape b = true) : b ∈ escapedBytes := by
  have hall : ∀ n < 256, mustEscape n.toUInt8 = true → n.toUInt8 ∈ escapedBytes := by decide +kernel
  have hbyte : b.toNat.toUInt8 = b := by simp
  have hb := hall b.toNat b.toNat_lt
  rw [hbyte] at hb
  exact hb h

/-- The escapes of JSON: a backslash begins what is escaped, and nothing else. -/
theorem escapeCode_documented : @EscapeCode Jsoncons.documented := by
  let := Jsoncons.documented
  have hcopied : ∀ b : UInt8, mustEscape b = false → Jsoncons.escape b = [b] ∧ b ≠ 92 ∧ b ≠ 34 := by
    intro b hb
    refine ⟨escapeSpec_documented.copies b hb, ?_, ?_⟩
    · rintro rfl
      cases hb
    · rintro rfl
      cases hb
  have hword : ∀ b ∈ escapedBytes, (Jsoncons.escape b).head? = some 92 := by decide +kernel
  have hescaped : ∀ b ∈ escapedBytes, ∀ b' ∈ escapedBytes, Jsoncons.escape b <+: Jsoncons.escape b' → b = b' := by
    decide +kernel
  have hfirst : ∀ b, ∃ word, Jsoncons.escape b = (if mustEscape b then 92 else b) :: word := by
    intro b
    cases hb : mustEscape b with
    | false => exact ⟨[], (hcopied b hb).1⟩
    | true => exact List.head?_eq_some_iff.mp (hword b (mem_escapedBytes hb))
  constructor
  · intro b b' hprefix
    have hhead : (if mustEscape b then 92 else b) = if mustEscape b' then 92 else b' := by
      obtain ⟨word, hb⟩ := hfirst b
      obtain ⟨word', hb'⟩ := hfirst b'
      rw [hb, hb'] at hprefix
      exact (List.cons_prefix_cons.mp hprefix).1
    cases hb : mustEscape b with
    | false =>
      cases hb' : mustEscape b' with
      | false => simpa [hb, hb'] using hhead
      | true =>
        rw [hb, hb'] at hhead
        exact absurd hhead (hcopied b hb).2.1
    | true =>
      cases hb' : mustEscape b' with
      | false =>
        rw [hb, hb'] at hhead
        exact absurd hhead.symm (hcopied b' hb').2.1
      | true => exact hescaped b (mem_escapedBytes hb) b' (mem_escapedBytes hb') hprefix
  · intro b
    obtain ⟨word, hescape⟩ := hfirst b
    refine ⟨_, word, hescape, ?_⟩
    cases hb : mustEscape b with
    | false => exact (hcopied b hb).2.2
    | true =>
      rw [if_pos rfl]
      decide

theorem serialisesDistinctly_documented : @SerialisesDistinctly Jsoncons.documented :=
  @EscapeCode.serialisesDistinctly Jsoncons.documented escapeCode_documented

end AribcapDump
