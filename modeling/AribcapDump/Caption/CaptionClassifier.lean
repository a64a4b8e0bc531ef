import AribcapDump.Caption.CaptionRecordEmitter

/-!
# Which streams are captions

`ClassifyCaptionStream` of core/caption_classifier.
-/

namespace AribcapDump

def kComponentTagDefaultCaption : UInt8 := 0x30

def kComponentTagOneSegCaption : UInt8 := 0x87

def kDataComponentProfileA : UInt16 := 0x0008

def kDataComponentProfileC : UInt16 := 0x0012

def kOneSegPmtPidMin : PID := 0x1FC8

def kOneSegPmtPidMax : PID := 0x1FCF

def isOneSegPmtPid (pid : PID) : Bool :=
  decide (kOneSegPmtPidMin ≤ pid) && decide (pid ≤ kOneSegPmtPidMax)

def isSupportedProfileAId (dataComponentId : Option UInt16) : Bool :=
  !dataComponentId.isSome || dataComponentId == some kDataComponentProfileA

def isDefaultCaptionComponentTag (componentTag : UInt8) : Bool :=
  componentTag == kComponentTagDefaultCaption

def classifyCaptionComponent (componentTag : UInt8) (dataComponentId : Option UInt16)
    (oneSegPmtPid : Bool) : Option Profile :=
  if isDefaultCaptionComponentTag componentTag then
    if oneSegPmtPid || !isSupportedProfileAId dataComponentId then none else some .kProfileA
  else if componentTag = kComponentTagOneSegCaption then
    if !oneSegPmtPid || dataComponentId != some kDataComponentProfileC then none else some .kProfileC
  else none

/-- `FindDataComponentId` is `stream.dataComponentId`. -/
def classifyCaptionStream (pmtPid : PID) (stream : Stream) : Option Profile :=
  if stream.streamType ≠ ST_PES_PRIV then none
  else
    match stream.componentTag with
    | none => none
    | some componentTag => classifyCaptionComponent componentTag stream.dataComponentId (isOneSegPmtPid pmtPid)

end AribcapDump
