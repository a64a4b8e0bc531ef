import Mathlib.Data.Nat.Notation
import Mathlib.Tactic.Common

/-!
# What the program uses of TSDuck

TSDuck itself is not part of the repository.  Its packets, tables and
descriptors are records of what its accessors answer, its constants are the
documented ones, and the functions whose results matter are the fields of the
class `TSDuck`, a parameter of everything that uses them.
-/

namespace AribcapDump

/-- A byte string (`std::string`). -/
abbrev Bytes := List UInt8

abbrev PID := UInt16

def PID_PAT : PID := 0x0000

def PID_EIT : PID := 0x0012

def PID_TOT : PID := 0x0014

def PID_ISDB_EIT_3 : PID := 0x0027

def PID_NULL : PID := 0x1FFF

def TID_PAT : UInt8 := 0x00

def TID_PMT : UInt8 := 0x02

def TID_EIT_PF_ACT : UInt8 := 0x4E

def TID_TDT : UInt8 := 0x70

def TID_TOT : UInt8 := 0x73

def ST_PES_PRIV : UInt8 := 0x06

def DID_DVB_SHORT_EVENT : UInt8 := 0x4D

def DID_DVB_EXTENDED_EVENT : UInt8 := 0x4E

def DID_DVB_CONTENT : UInt8 := 0x54

def EIT_PAYLOAD_FIXED_SIZE : ℕ := 6

/-- PTS and DTS have 33 bits. -/
def PTS_DTS_SCALE : ℕ := 0x200000000

def MAX_PTS_DTS : ℕ := PTS_DTS_SCALE - 1

def MAX_PCR : ℕ := 300 * PTS_DTS_SCALE - 1

def INVALID_PCR : ℕ := 0xFFFFFFFFFFFFFFFF

def INVALID_PTS : ℕ := 0xFFFFFFFFFFFFFFFF

/-- `ts::Time`: a number of milliseconds. -/
abbrev Time := Int

/-- A `ts::TSPacket` as its accessors show it. -/
structure PacketView where
  hasValidSync : Bool
  getPID : PID
  hasPCR : Bool
  getPCR : ℕ
  getDiscontinuityIndicator : Bool
deriving DecidableEq

/-- A `ts::PESPacket`: `header` holds `headerSize()` bytes. -/
structure PESPacket where
  sourcePID : PID
  hasLongHeader : Bool
  header : Bytes
  payload : Bytes
deriving DecidableEq

/-! ## Tables

A table is what its accessors answer and what each `ts::PAT(context, table)`, ... makes of it. -/

structure PAT where
  isValid : Bool
  /-- Service id to PMT PID. -/
  pmts : Std.ExtTreeMap UInt16 PID

/-- A `ts::PMT::Stream`: `getComponentTag` and the data component descriptor its descriptor list finds. -/
structure Stream where
  streamType : UInt8
  componentTag : Option UInt8
  dataComponentId : Option UInt16
deriving DecidableEq

structure PMT where
  isValid : Bool
  serviceId : UInt16
  pcrPid : PID
  streams : Std.ExtTreeMap PID Stream

structure TOT where
  isValid : Bool
  utcTime : Time
deriving DecidableEq

/-- A valid `ts::ShortEventDescriptor`, its strings in UTF-8. -/
structure ShortEventDescriptor where
  eventName : Bytes
  text : Bytes
  languageCode : Bytes
deriving DecidableEq

/-- An entry of a valid `ts::ContentDescriptor`. -/
structure ContentEntry where
  contentNibbleLevel1 : UInt8
  contentNibbleLevel2 : UInt8
  userNibble1 : UInt8
  userNibble2 : UInt8
deriving DecidableEq

structure ExtendedEventEntry where
  itemDescription : Bytes
  item : Bytes
deriving DecidableEq

/-- A valid `ts::ExtendedEventDescriptor`, its strings in UTF-8. -/
structure ExtendedEventDescriptor where
  entries : List ExtendedEventEntry
  text : Bytes
deriving DecidableEq

/-- A descriptor: its tag, and what it deserialises to as each kind (`none`: not valid). -/
structure Descriptor where
  tag : UInt8
  shortEvent : Option ShortEventDescriptor
  content : Option (List ContentEntry)
  extendedEvent : Option ExtendedEventDescriptor
deriving DecidableEq

abbrev DescriptorList := List Descriptor

structure Event where
  eventId : UInt16
  startTime : Time
  /-- In seconds. -/
  duration : Int
  descs : DescriptorList
deriving DecidableEq

structure EIT where
  isValid : Bool
  serviceId : UInt16
  tsId : UInt16
  onetwId : UInt16
  /-- In the order of the `events` map. -/
  events : List Event
deriving DecidableEq

structure Section where
  isValid : Bool
  payloadSize : ℕ
deriving DecidableEq

structure BinaryTable where
  tableId : UInt8
  sourcePID : PID
  isValid : Bool
  tableIdExtension : UInt16
  version : UInt8
  /-- `sectionAt(0)`, `none` for a null pointer. -/
  sectionAt0 : Option Section
  pat : PAT
  pmt : PMT
  tot : TOT
  eit : EIT

/-- A table without content. -/
def BinaryTable.blank (tableId : UInt8) (sourcePID : PID) : BinaryTable where
  tableId := tableId
  sourcePID := sourcePID
  isValid := true
  tableIdExtension := 0
  version := 0
  sectionAt0 := none
  pat := ⟨false, ∅⟩
  pmt := ⟨false, 0, PID_NULL, ∅⟩
  tot := ⟨false, 0⟩
  eit := ⟨false, 0, 0, 0, []⟩

def BinaryTable.ofPat (pat : PAT) : BinaryTable := { blank TID_PAT PID_PAT with pat := pat }

def BinaryTable.ofPmt (sourcePID : PID) (pmt : PMT) : BinaryTable :=
  { blank TID_PMT sourcePID with pmt := pmt }

def BinaryTable.ofTot (tot : TOT) : BinaryTable := { blank TID_TOT PID_TOT with tot := tot }

/-! ## Functions -/

class TSDuck where
  diffPTS : ℕ → ℕ → ℕ
  epoch : Time
  unixEpoch : Time
  jstToUTC : Time → Time
  /-- `descriptors.search(tag, start_index)`. -/
  search : DescriptorList → UInt8 → ℕ → ℕ
  /-- A search does not go back, so that a loop over searches ends. -/
  le_search : ∀ (descriptors : DescriptorList) (tag : UInt8) {start : ℕ}, start ≤ descriptors.length →
    start ≤ search descriptors tag start

/-- `ts::DiffPTS(a, b)` is the distance from `a` up to `b` around the 33-bit wrap. -/
def DiffPTSSpec [TSDuck] : Prop :=
  ∀ a b, a < PTS_DTS_SCALE → b < PTS_DTS_SCALE →
    TSDuck.diffPTS a b = (b + PTS_DTS_SCALE - a) % PTS_DTS_SCALE

abbrev DescriptorList.search [TSDuck] (descriptors : DescriptorList) (tag : UInt8) (start : ℕ) : ℕ :=
  TSDuck.search descriptors tag start

/-- `search(tag, start_index)` is the least index from `start_index` on with the tag, or `count()`. -/
structure SearchSpec [TSDuck] : Prop where
  le_count : ∀ (descriptors : DescriptorList) (tag : UInt8) (start : ℕ), start ≤ descriptors.length →
    descriptors.search tag start ≤ descriptors.length
  least : ∀ (descriptors : DescriptorList) (tag : UInt8) (start : ℕ), start ≤ descriptors.length →
    ∀ i : Fin descriptors.length, start ≤ i → i < descriptors.search tag start → (descriptors.get i).tag ≠ tag
  found : ∀ (descriptors : DescriptorList) (tag : UInt8) (start : ℕ), start ≤ descriptors.length →
    ∀ h : descriptors.search tag start < descriptors.length,
      start ≤ descriptors.search tag start ∧ descriptors[descriptors.search tag start].tag = tag

/-- TSDuck's own functions as documented: milliseconds from MJD 0, JST nine hours ahead of UTC. -/
@[reducible] def TSDuck.documented : TSDuck where
  diffPTS a b :=
    if MAX_PTS_DTS < a ∨ MAX_PTS_DTS < b then INVALID_PTS
    else if b < a then PTS_DTS_SCALE + b - a else b - a
  epoch := 0
  unixEpoch := 40587 * 86400000
  jstToUTC time := time - 9 * 3600000
  search descriptors tag start :=
    min descriptors.length (start + (descriptors.drop start).findIdx fun descriptor => descriptor.tag == tag)
  le_search _ _ _ h := Nat.le_min.mpr ⟨h, Nat.le_add_right _ _⟩

theorem diffPTSSpec_documented : @DiffPTSSpec TSDuck.documented := by
  intro a b ha hb
  unfold TSDuck.diffPTS TSDuck.documented MAX_PTS_DTS INVALID_PTS
  unfold PTS_DTS_SCALE at *
  simp only
  split
  · omega
  · split <;> omega

theorem searchSpec_documented : @SearchSpec TSDuck.documented := by
  let := TSDuck.documented
  have hsearch : ∀ (descriptors : DescriptorList) tag start, descriptors.search tag start =
      min descriptors.length (start + (descriptors.drop start).findIdx (·.tag == tag)) := fun _ _ _ => rfl
  constructor
  · intro descriptors tag start _
    rw [hsearch]
    exact Nat.min_le_left _ _
  · intro descriptors tag start _ i hstart hbefore htag
    rw [hsearch] at hbefore
    have hlt : i - start < (descriptors.drop start).findIdx (·.tag == tag) := by omega
    have hnot := List.not_of_lt_findIdx hlt
    rw [List.getElem_drop] at hnot
    simp only [Nat.add_sub_cancel' hstart] at hnot
    exact Bool.false_ne_true (hnot.symm.trans (beq_iff_eq.mpr htag))
  · intro descriptors tag start _ h
    generalize hk : (descriptors.drop start).findIdx (·.tag == tag) = k at hsearch
    have hat : descriptors.search tag start = start + k := by
      rw [hsearch, hk] at h ⊢
      omega
    have hin : (descriptors.drop start).findIdx (·.tag == tag) < (descriptors.drop start).length := by
      rw [hk, List.length_drop]
      omega
    have hfound := List.findIdx_getElem (p := fun descriptor : Descriptor => descriptor.tag == tag) (w := hin)
    rw [List.getElem_drop] at hfound
    simp only [hk] at hfound
    refine ⟨hat ▸ Nat.le_add_right _ _, eq_of_beq ?_⟩
    simp only [hat]
    exact hfound

end AribcapDump
