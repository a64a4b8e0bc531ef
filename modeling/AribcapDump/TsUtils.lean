import AribcapDump.TSDuck

/-!
# Times

The conversions of core/ts_utils: a PTS out of a PES header, PTS ticks and JST
times to milliseconds, milliseconds to RFC 3339.
-/

namespace AribcapDump

/-- `duration_cast<milliseconds>` of a 90 kHz PTS. -/
def pts90kToMs (pts : ℕ) : Int := ((pts % PTS_DTS_SCALE * 1000 / 90000 : ℕ) : Int)

/-- Byte `index` of the header, 0 past its end. -/
def PESPacket.headerByte (packet : PESPacket) (index : ℕ) : ℕ := (packet.header.getD index 0).toNat

/-- `ts::GetUInt16` at `index`. -/
def PESPacket.headerUInt16 (packet : PESPacket) (index : ℕ) : ℕ :=
  packet.headerByte index * 256 + packet.headerByte (index + 1)

def parsePesPts (packet : PESPacket) : Option ℕ :=
  if packet.hasLongHeader = false ∨ packet.header.length < 14 then none
  else
    let ptsDtsFlags := packet.headerByte 7 &&& 0xC0
    if ptsDtsFlags ≠ 0x80 ∧ ptsDtsFlags ≠ 0xC0 then none
    else if (ptsDtsFlags = 0x80 ∧ packet.headerByte 9 &&& 0xF1 ≠ 0x21) ∨
        (ptsDtsFlags = 0xC0 ∧ packet.headerByte 9 &&& 0xF1 ≠ 0x31) ∨
        packet.headerByte 11 &&& 0x01 ≠ 0x01 ∨ packet.headerByte 13 &&& 0x01 ≠ 0x01 then none
    else
      some ((((packet.headerByte 9 &&& 0x0E) <<< 29) ||| ((packet.headerUInt16 10 &&& 0xFFFE) <<< 14) |||
        (packet.headerUInt16 12 >>> 1)) &&& MAX_PTS_DTS)

/-! ## RFC 3339 -/

/-- A number in decimal, padded with zeros to `width` digits. -/
def paddedDecimal (width n : ℕ) : Bytes :=
  let digits := (Nat.toDigits 10 n).map Char.toUInt8
  List.replicate (width - digits.length) 48 ++ digits

structure CivilDate where
  year : Int
  month : ℕ
  day : ℕ
deriving DecidableEq

/-- The proleptic Gregorian date, in days since 1970-01-01; the years counted here begin in March. -/
def civilFromDays (days : Int) : CivilDate :=
  let z := days + 719468
  let era := z / 146097
  let dayOfEra := (z % 146097).toNat
  let yearOfEra := (dayOfEra - dayOfEra / 1460 + dayOfEra / 36524 - dayOfEra / 146096) / 365
  let dayOfYear := dayOfEra - (365 * yearOfEra + yearOfEra / 4 - yearOfEra / 100)
  let monthFromMarch := (5 * dayOfYear + 2) / 153
  let month := if monthFromMarch < 10 then monthFromMarch + 3 else monthFromMarch - 9
  { year := yearOfEra + era * 400 + if month ≤ 2 then 1 else 0
    month := month
    day := dayOfYear - (153 * monthFromMarch + 2) / 5 + 1 }

/-- `%F`. -/
def formatDate (date : CivilDate) : Bytes :=
  (if date.year < 0 then [45] else []) ++ paddedDecimal 4 date.year.natAbs ++ 45 :: paddedDecimal 2 date.month ++
    45 :: paddedDecimal 2 date.day

/-- `%T` of a time of day in milliseconds. -/
def formatTime (ms : ℕ) : Bytes :=
  paddedDecimal 2 (ms / 3600000) ++ 58 :: paddedDecimal 2 (ms / 60000 % 60) ++
    58 :: paddedDecimal 2 (ms / 1000 % 60) ++ 46 :: paddedDecimal 3 (ms % 1000)

/-- The last six bytes are `+09:00`, the byte after the date is `T`.  The year has no bounds here, while
`std::chrono::year` has 16 bits: the text is the program's for the times of `FormattedTime`. -/
def unixMsToRfc3339Jst (unixMs : Int) : Bytes :=
  let jstWallClock := unixMs + 9 * 3600000
  formatDate (civilFromDays (jstWallClock / 86400000)) ++ 84 :: formatTime (jstWallClock % 86400000).toNat ++
    [43, 48, 57, 58, 48, 48]

/-- Not negative, and before the year 10000 in JST. -/
def FormattedTime (unixMs : Int) : Prop :=
  0 ≤ unixMs ∧ (civilFromDays ((unixMs + 9 * 3600000) / 86400000)).year < 10000

example : civilFromDays 18261 = ⟨2019, 12, 31⟩ := by decide

variable [TSDuck]

def jstTimeToUnixMs (time : Time) : Option Int :=
  if time = TSDuck.epoch then none
  else if TSDuck.jstToUTC time < TSDuck.unixEpoch then none
  else some (TSDuck.jstToUTC time - TSDuck.unixEpoch)

theorem jstTimeToUnixMs_eq_sub {time : Time} {unixMs : Int} (h : jstTimeToUnixMs time = some unixMs) :
    0 ≤ unixMs ∧ unixMs = TSDuck.jstToUTC time - TSDuck.unixEpoch := by
  unfold jstTimeToUnixMs at h
  split at h
  · cases h
  · split at h
    · cases h
    · next hafter =>
      cases h
      exact ⟨Int.sub_nonneg.mpr (Int.not_lt.mp hafter), rfl⟩

theorem jstTimeToUnixMs_nonneg {time : Time} {unixMs : Int} (h : jstTimeToUnixMs time = some unixMs) :
    0 ≤ unixMs :=
  (jstTimeToUnixMs_eq_sub h).1

end AribcapDump
