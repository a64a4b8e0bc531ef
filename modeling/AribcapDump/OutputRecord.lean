import AribcapDump.TSDuck

/-!
# Output records

The records of core/output_record.hpp, as they are handed to the sink.  The
sink is the list of the records emitted, in order.
-/

namespace AribcapDump

structure CaptionRecord where
  timeMs : Option Int
  text : Bytes
  ruby : List Bytes
  color : Option Bytes
  languageCode : Option Bytes
deriving DecidableEq

inductive EitSection
  | kPresent
  | kFollowing
deriving DecidableEq

structure EitShortEvent where
  eventName : Bytes
  text : Bytes
  languageCode : Bytes
deriving DecidableEq

structure EitGenre where
  contentNibbleLevel1 : UInt8
  contentNibbleLevel2 : UInt8
  userNibble1 : UInt8
  userNibble2 : UInt8
deriving DecidableEq

structure EitRecord where
  startTimeMs : Option Int
  durationSec : Option UInt32
  shortEvents : List EitShortEvent
  extendedText : Bytes
  genres : List EitGenre
  «section» : EitSection
  version : UInt8
  serviceId : UInt16
  transportStreamId : UInt16
  originalNetworkId : UInt16
  eventId : UInt16
deriving DecidableEq

structure CaptionDecodeError where
  pid : PID
deriving DecidableEq

/-- PCR clock re-sync: `flagged` by `discontinuity_indicator`, or inferred. -/
structure PcrDiscontinuity where
  pid : PID
  flagged : Bool
deriving DecidableEq

structure ReservedPmtPidCollision where
  pid : PID
deriving DecidableEq

inductive DiagnosticRecord
  | captionDecodeError (kind : CaptionDecodeError)
  | pcrDiscontinuity (kind : PcrDiscontinuity)
  | reservedPmtPidCollision (kind : ReservedPmtPidCollision)
deriving DecidableEq

inductive OutputRecord
  | caption (record : CaptionRecord)
  | eit (record : EitRecord)
  | diagnostic (record : DiagnosticRecord)
deriving DecidableEq

/-- The times of a record that are formatted. -/
def OutputRecord.timesMs : OutputRecord → List Int
  | .caption record => record.timeMs.toList
  | .eit record => record.startTimeMs.toList
  | .diagnostic _ => []

end AribcapDump
