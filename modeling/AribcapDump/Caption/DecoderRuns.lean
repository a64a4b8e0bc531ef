import AribcapDump.Caption.CaptionRecordEmitter

/-!
# Whole runs of a caption emitter

The decoders are two machines of their own.  The first answers every payload;
the second starts at the packet that reveals a second language and answers the
payloads, from that packet on, for which the first did not return `kError`.

* `handlePes_eq`: what one packet does, from the answers of the two decoders.
* `handlePes_run`: factory calls, payloads and records of every run.
-/

namespace AribcapDump

/-- What a decoder is given. -/
structure Delivery where
  payload : Bytes
  ptsMs : Int
deriving DecidableEq

def delivery (packet : PESPacket) : Delivery := ⟨packet.payload, decoderPtsMs packet⟩

/-- What the first decoder says of a delivery, and whether it then reports a second language. -/
structure FirstOutcome where
  result : DecodeResult
  reportsSecond : Bool
deriving DecidableEq

/-- The packet brings the second decoder into being, if there is none. -/
def FirstOutcome.reveals (o : FirstOutcome) : Bool := decide (o.result ≠ .kError) && o.reportsSecond

section
variable {δ : Type} [CaptionDecoder δ]

/-- A decoder as a machine. -/
def decodeStep (decoder : δ) (d : Delivery) : δ × DecodeResult :=
  CaptionDecoder.decode decoder d.payload d.ptsMs

/-- The first decoder as a machine. -/
def firstStep (decoder : δ) (d : Delivery) : δ × FirstOutcome :=
  let decoded := decodeStep decoder d
  (decoded.1, ⟨decoded.2, decide (CaptionDecoder.queryISO6392LanguageCode decoded.1 .kSecond ≠ 0)⟩)

end

/-- The records a decoder's answer gives. -/
def DecodeResult.records (emitEmptyCaptions : Bool) (time : Option Int) (pid : PID) :
    DecodeResult → List OutputRecord
  | .kError => [.diagnostic (.captionDecodeError ⟨pid⟩)]
  | .kNoCaption => []
  | .kGotCaption caption =>
    if caption.text = [] ∧ emitEmptyCaptions = false then [] else [.caption (captionRecord time caption)]

/-! ## Reading a trace -/

def Effect.creates? : Effect → Option LanguageId
  | .create languageId => some languageId
  | _ => none

/-- The delivery to a decoder and its answer. -/
def Effect.decodes? : Effect → Option (LanguageId × Delivery × DecodeResult)
  | .decode languageId payload ptsMs result => some (languageId, ⟨payload, ptsMs⟩, result)
  | _ => none

/-- The languages the factory was called for. -/
def created (trace : List Effect) : List LanguageId := trace.filterMap Effect.creates?

/-- The deliveries to both decoders, in order, with their answers. -/
def decoded (trace : List Effect) : List (LanguageId × Delivery × DecodeResult) :=
  trace.filterMap Effect.decodes?

/-- The deliveries to one decoder. -/
def decodedBy (languageId : LanguageId) (trace : List Effect) : List (Delivery × DecodeResult) :=
  ((decoded trace).filter fun d => d.1 = languageId).map Prod.snd

section
variable (l : LanguageId) (payload : Bytes) (ptsMs : Int) (result : DecodeResult) (rs : List OutputRecord)
  (t u : List Effect)

@[simp] theorem emitted_nil : emitted [] = [] := rfl

@[simp] theorem emitted_decode : emitted (.decode l payload ptsMs result :: t) = emitted t := rfl

@[simp] theorem emitted_create : emitted (.create l :: t) = emitted t := rfl

@[simp] theorem emitted_append : emitted (t ++ u) = emitted t ++ emitted u := List.filterMap_append

@[simp] theorem emitted_emits : emitted (rs.map .emit) = rs := by
  induction rs with
  | nil => rfl
  | cons r rs ih => exact congrArg (r :: ·) ih

@[simp] theorem created_nil : created [] = [] := rfl

@[simp] theorem created_decode : created (.decode l payload ptsMs result :: t) = created t := rfl

@[simp] theorem created_create : created (.create l :: t) = l :: created t := rfl

@[simp] theorem created_append : created (t ++ u) = created t ++ created u := List.filterMap_append

@[simp] theorem created_emits : created (rs.map .emit) = [] := by
  induction rs with
  | nil => rfl
  | cons r rs ih => exact ih

@[simp] theorem decoded_nil : decoded [] = [] := rfl

@[simp] theorem decoded_decode :
    decoded (.decode l payload ptsMs result :: t) = (l, ⟨payload, ptsMs⟩, result) :: decoded t := rfl

@[simp] theorem decoded_create : decoded (.create l :: t) = decoded t := rfl

@[simp] theorem decoded_append : decoded (t ++ u) = decoded t ++ decoded u := List.filterMap_append

@[simp] theorem decoded_emits : decoded (rs.map .emit) = [] := by
  induction rs with
  | nil => rfl
  | cons r rs ih => exact ih

end

theorem decodedBy_append (languageId : LanguageId) (t u : List Effect) :
    decodedBy languageId (t ++ u) = decodedBy languageId t ++ decodedBy languageId u := by
  simp [decodedBy]

/-! ## One packet -/

/-- The trace of one packet: what the first decoder said, whether the second was created, and what it said
if it was asked. -/
def pesTrace (d : Delivery) (records : DecodeResult → List OutputRecord) (first : DecodeResult)
    (creates : Bool) (second : Option DecodeResult) : List Effect :=
  .decode .kFirst d.payload d.ptsMs first :: (if creates then [.create .kSecond] else []) ++
    (records first).map .emit ++
    match second with
    | none => []
    | some second => .decode .kSecond d.payload d.ptsMs second :: (records second).map .emit

section
variable {d : Delivery} {records : DecodeResult → List OutputRecord} {first : DecodeResult} {creates : Bool}
  {second : Option DecodeResult}

theorem created_pesTrace :
    created (pesTrace d records first creates second) = if creates then [.kSecond] else [] := by
  cases second <;> cases creates <;> simp [pesTrace]

theorem decoded_pesTrace :
    decoded (pesTrace d records first creates second) =
      (.kFirst, d, first) :: (second.map fun result => (.kSecond, d, result)).toList := by
  cases second <;> cases creates <;> simp [pesTrace]

theorem emitted_pesTrace :
    emitted (pesTrace d records first creates second) = records first ++ second.elim [] records := by
  cases second <;> cases creates <;> simp [pesTrace]

end

namespace CaptionRecordEmitter

variable {δ : Type} [CaptionDecoder δ] {e : CaptionRecordEmitter δ} {d : Delivery} {pid : PID} {time : Option Int}

theorem handleDecoder_of_none {languageId : LanguageId} (h : e.decoder languageId = none) :
    handleDecoder pid time d.ptsMs d.payload languageId e = (e, [], false) := by
  rw [handleDecoder, h]

theorem handleDecoder_of_error {languageId : LanguageId} {decoder : δ}
    (h : e.decoder languageId = some decoder) (herror : (decodeStep decoder d).2 = .kError) :
    handleDecoder pid time d.ptsMs d.payload languageId e =
      (e.setDecoder languageId (decodeStep decoder d).1,
        .decode languageId d.payload d.ptsMs .kError ::
          (DecodeResult.kError.records e.emitEmptyCaptions time pid).map .emit, true) := by
  unfold decodeStep at herror ⊢
  rw [handleDecoder, h]
  simp only [herror]
  rfl

/-- What `EnsureSecondLanguageDecoder` does to the emitter after a decoder of `languageId`. -/
def ensured (e : CaptionRecordEmitter δ) (languageId : LanguageId) :
    CaptionRecordEmitter δ × List Effect :=
  if languageId = .kFirst then e.ensureSecondLanguageDecoder else (e, [])

theorem handleDecoder_of_ok {languageId : LanguageId} {decoder : δ}
    (h : e.decoder languageId = some decoder) (hok : (decodeStep decoder d).2 ≠ .kError) :
    handleDecoder pid time d.ptsMs d.payload languageId e =
      (((e.setDecoder languageId (decodeStep decoder d).1).ensured languageId).1,
        .decode languageId d.payload d.ptsMs (decodeStep decoder d).2 ::
          ((e.setDecoder languageId (decodeStep decoder d).1).ensured languageId).2 ++
          ((decodeStep decoder d).2.records e.emitEmptyCaptions time pid).map .emit, false) := by
  unfold decodeStep at hok ⊢
  have hflag : (e.setDecoder languageId (CaptionDecoder.decode decoder d.payload d.ptsMs).1).emitEmptyCaptions =
      e.emitEmptyCaptions := by cases languageId <;> rfl
  rw [handleDecoder, h]
  simp only [hflag]
  cases hres : (CaptionDecoder.decode decoder d.payload d.ptsMs).2 with
  | kError => exact absurd hres hok
  | kNoCaption => simp [ensured, DecodeResult.records]
  | kGotCaption caption =>
    simp only [ensured, DecodeResult.records]
    by_cases hempty : caption.text = [] ∧ e.emitEmptyCaptions = false <;> simp [hempty]

/-- The second turn of the loop. -/
theorem handleDecoders_second (e : CaptionRecordEmitter δ) :
    handleDecoders pid time d.ptsMs d.payload [.kSecond] e =
      match e.second with
      | none => (e, [])
      | some second =>
        ({ e with second := some (decodeStep second d).1 },
          .decode .kSecond d.payload d.ptsMs (decodeStep second d).2 ::
            ((decodeStep second d).2.records e.emitEmptyCaptions time pid).map .emit) := by
  rw [handleDecoders]
  cases hsecond : e.second with
  | none =>
    have hdecoder : e.decoder .kSecond = none := hsecond
    rw [handleDecoder_of_none hdecoder]
    rfl
  | some second =>
    have hdecoder : e.decoder .kSecond = some second := hsecond
    by_cases herror : (decodeStep second d).2 = .kError
    · rw [handleDecoder_of_error hdecoder herror]
      simp [herror, setDecoder]
    · rw [handleDecoder_of_ok hdecoder herror]
      simp [handleDecoders, ensured, setDecoder]

/-- The second decoder, if the packet is handed to it after outcome `o` of the first. -/
def secondAsked (e : CaptionRecordEmitter δ) (o : FirstOutcome) : Option δ :=
  if o.result = .kError then none
  else if e.second.isNone && o.reportsSecond then some (e.decoderFactory e.factoryCalls .kSecond)
  else e.second

/-- The packet brings the second decoder into being. -/
def creates (e : CaptionRecordEmitter δ) (o : FirstOutcome) : Bool := e.second.isNone && o.reveals

/-! ## When there is a second decoder -/

/-- The outcomes of the first decoder. -/
def firstOutcomes (e : CaptionRecordEmitter δ) (ds : List Delivery) : List FirstOutcome :=
  Machine.answers firstStep e.first ds

/-- The index of the packet from which on there is a second decoder. -/
def revealIndex (e : CaptionRecordEmitter δ) (ds : List Delivery) : ℕ :=
  if e.second.isSome then 0 else (e.firstOutcomes ds).findIdx FirstOutcome.reveals

/-- The deliveries handed to the second decoder: from the revealing packet on, those for which the first did
not return `kError`. -/
def secondDeliveries (e : CaptionRecordEmitter δ) (ds : List Delivery) : List Delivery :=
  (((ds.zip (e.firstOutcomes ds)).drop (e.revealIndex ds)).filter fun p => p.2.result ≠ .kError).map Prod.fst

/-- The second decoder before its first delivery. -/
def secondDecoder (e : CaptionRecordEmitter δ) : δ :=
  e.second.getD (e.decoderFactory e.factoryCalls .kSecond)

/-- The emitter after a delivery, by `handlePes_eq`. -/
def afterDelivery (e : CaptionRecordEmitter δ) (d : Delivery) : CaptionRecordEmitter δ :=
  let first := firstStep e.first d
  { e with
    first := first.1
    second := ((e.secondAsked first.2).map fun second => (decodeStep second d).1).or e.second
    factoryCalls := if e.creates first.2 then e.factoryCalls ++ [.kSecond] else e.factoryCalls }

omit [CaptionDecoder δ] in
theorem secondAsked_of_error {e : CaptionRecordEmitter δ} {o : FirstOutcome} (h : o.result = .kError) :
    e.secondAsked o = none := if_pos h

omit [CaptionDecoder δ] in
theorem secondAsked_of_quiet {e : CaptionRecordEmitter δ} {o : FirstOutcome} (hnone : e.second = none)
    (h : o.reveals = false) : e.secondAsked o = none := by
  simp only [FirstOutcome.reveals, Bool.and_eq_false_iff, decide_eq_false_iff_not, not_not] at h
  rcases h with h | h <;> simp [secondAsked, hnone, h]

omit [CaptionDecoder δ] in
theorem secondAsked_of_active {e : CaptionRecordEmitter δ} {o : FirstOutcome} (hok : o.result ≠ .kError)
    (h : e.second = none → o.reveals = true) : e.secondAsked o = some e.secondDecoder := by
  cases hsecond : e.second with
  | some second => simp [secondAsked, secondDecoder, hok, hsecond]
  | none =>
    have hreports := h hsecond
    simp only [FirstOutcome.reveals, Bool.and_eq_true] at hreports
    simp [secondAsked, secondDecoder, hok, hsecond, hreports]

theorem result_ne_of_reveals {o : FirstOutcome} (h : o.reveals = true) : o.result ≠ .kError := by
  simp only [FirstOutcome.reveals, Bool.and_eq_true, decide_eq_true_eq] at h
  exact h.1

/-- A delivery leaves the second decoder absent, or it was there or is revealed by it. -/
theorem revealIndex_cons (e : CaptionRecordEmitter δ) (d : Delivery) (ds : List Delivery) :
    (e.revealIndex (d :: ds) = (e.afterDelivery d).revealIndex ds + 1 ∧ e.second = none ∧
      (firstStep e.first d).2.reveals = false ∧ (e.afterDelivery d).second = none) ∨
    (e.revealIndex (d :: ds) = 0 ∧ (e.afterDelivery d).revealIndex ds = 0 ∧
      (e.second = none → (firstStep e.first d).2.reveals = true) ∧ (e.afterDelivery d).second.isSome) := by
  cases hsecond : e.second with
  | some second =>
    refine .inr ⟨?_, ?_, fun h => (by cases h), ?_⟩
    · simp [revealIndex, hsecond]
    · simp [revealIndex, afterDelivery, hsecond]
    · simp [afterDelivery, hsecond]
  | none =>
    cases hreveals : (firstStep e.first d).2.reveals with
    | true =>
      have hasked := secondAsked_of_active (result_ne_of_reveals hreveals) (fun _ : e.second = none => hreveals)
      refine .inr ⟨?_, ?_, fun _ => rfl, ?_⟩
      · simp [revealIndex, hsecond, firstOutcomes, List.findIdx_cons, hreveals]
      · simp [revealIndex, afterDelivery, hasked]
      · simp [afterDelivery, hasked]
    | false =>
      have hasked := secondAsked_of_quiet hsecond hreveals
      have hafter : (e.afterDelivery d).second = none := by simp [afterDelivery, hasked, hsecond]
      refine .inl ⟨?_, rfl, rfl, hafter⟩
      simp only [revealIndex, hsecond, hafter, firstOutcomes, Machine.answers_cons, List.findIdx_cons,
        hreveals]
      simp [afterDelivery]

omit [CaptionDecoder δ] in
theorem secondAsked_cases (e : CaptionRecordEmitter δ) (o : FirstOutcome) :
    e.secondAsked o = none ∨ e.secondAsked o = some e.secondDecoder := by
  by_cases hok : o.result = .kError
  · exact .inl (secondAsked_of_error hok)
  · by_cases hquiet : e.second = none ∧ o.reveals = false
    · exact .inl (secondAsked_of_quiet hquiet.1 hquiet.2)
    · refine .inr (secondAsked_of_active hok fun hnone => ?_)
      simpa [hnone] using hquiet

theorem secondDecoder_of_none {e : CaptionRecordEmitter δ} {d : Delivery}
    (h : e.secondAsked (firstStep e.first d).2 = none) : (e.afterDelivery d).secondDecoder = e.secondDecoder := by
  have hcreates : e.creates (firstStep e.first d).2 = false := by
    rw [Bool.eq_false_iff]
    intro hcreates
    simp only [creates, Bool.and_eq_true] at hcreates
    rw [secondAsked_of_active (result_ne_of_reveals hcreates.2) fun _ => hcreates.2] at h
    cases h
  simp [afterDelivery, secondDecoder, h, hcreates]

theorem secondDecoder_of_some {e : CaptionRecordEmitter δ} {d : Delivery} {second : δ}
    (h : e.secondAsked (firstStep e.first d).2 = some second) :
    (e.afterDelivery d).secondDecoder = (decodeStep second d).1 := by
  simp [afterDelivery, secondDecoder, h]

theorem secondDeliveries_cons (e : CaptionRecordEmitter δ) (d : Delivery) (ds : List Delivery) :
    e.secondDeliveries (d :: ds) =
      ((e.secondAsked (firstStep e.first d).2).map fun _ => d).toList ++ (e.afterDelivery d).secondDeliveries ds := by
  have hzip : (d :: ds).zip (e.firstOutcomes (d :: ds)) =
      (d, (firstStep e.first d).2) :: ds.zip ((e.afterDelivery d).firstOutcomes ds) := rfl
  unfold secondDeliveries
  rw [hzip]
  rcases e.revealIndex_cons d ds with ⟨hr, hnone, hquiet, -⟩ | ⟨hr, hr', hreveals, -⟩
  · rw [hr, List.drop_succ_cons, secondAsked_of_quiet hnone hquiet]
    rfl
  · rw [hr, hr', List.drop_zero, List.drop_zero, List.filter_cons]
    by_cases herror : (firstStep e.first d).2.result = .kError
    · simp [herror, secondAsked_of_error]
    · simp [herror, secondAsked_of_active herror hreveals]

/-! ## One packet -/

variable [TSDuck]

/-- The records a decoder's answer gives, for one packet. -/
def pesRecords (e : CaptionRecordEmitter δ) (clock : ProgramClock) (packet : PESPacket)
    (result : DecodeResult) : List OutputRecord :=
  result.records e.emitEmptyCaptions (captionTime clock packet) packet.sourcePID

/-- **One packet**, from the answers of the two decoders. -/
theorem handlePes_eq (e : CaptionRecordEmitter δ) (clock : ProgramClock) (packet : PESPacket) :
    e.handlePes clock packet =
      let first := firstStep e.first (delivery packet)
      let second := (e.secondAsked first.2).map (decodeStep · (delivery packet))
      ({ e with
          first := first.1
          second := (second.map Prod.fst).or e.second
          factoryCalls := if e.creates first.2 then e.factoryCalls ++ [.kSecond] else e.factoryCalls },
        pesTrace (delivery packet) (e.pesRecords clock packet) first.2.result (e.creates first.2)
          (second.map Prod.snd)) := by
  have hfirst : e.decoder .kFirst = some e.first := rfl
  show handleDecoders packet.sourcePID (captionTime clock packet) (delivery packet).ptsMs (delivery packet).payload
    [.kFirst, .kSecond] e = _
  generalize delivery packet = d
  by_cases herror : (decodeStep e.first d).2 = .kError
  · rw [handleDecoders, handleDecoder_of_error hfirst herror]
    simp [firstStep, secondAsked, creates, FirstOutcome.reveals, herror, pesTrace, pesRecords,
      setDecoder]
  · rw [handleDecoders, handleDecoder_of_ok hfirst herror]
    simp only [handleDecoders_second, ensured, if_true, ensureSecondLanguageDecoder, setDecoder]
    cases hsecond : e.second with
    | some second =>
      simp [firstStep, secondAsked, creates, herror, pesTrace, pesRecords, hsecond]
    | none =>
      by_cases hquery : CaptionDecoder.queryISO6392LanguageCode (decodeStep e.first d).1 .kSecond = 0
      · simp [firstStep, secondAsked, creates, FirstOutcome.reveals, herror, pesTrace, pesRecords,
          hsecond, hquery]
      · simp [firstStep, secondAsked, creates, FirstOutcome.reveals, herror, pesTrace, pesRecords,
          hsecond, hquery]

/-- The records emitted are those of the answers the decoders gave. -/
theorem answer_of_mem_handlePes (e : CaptionRecordEmitter δ) {clock : ProgramClock} {packet : PESPacket}
    {record : OutputRecord} (hmem : record ∈ emitted (e.handlePes clock packet).2) :
    ∃ languageId result, (languageId, delivery packet, result) ∈ decoded (e.handlePes clock packet).2 ∧
      record ∈ e.pesRecords clock packet result := by
  rw [handlePes_eq] at hmem ⊢
  simp only [emitted_pesTrace, decoded_pesTrace] at hmem ⊢
  rcases List.mem_append.mp hmem with hfirst | hsecond
  · exact ⟨.kFirst, _, List.mem_cons_self, hfirst⟩
  · cases hanswer : (e.secondAsked (firstStep e.first (delivery packet)).2).map (decodeStep · (delivery packet)) with
    | none =>
      rw [hanswer] at hsecond
      cases hsecond
    | some answer =>
      rw [hanswer] at hsecond
      exact ⟨.kSecond, answer.2, by simp, hsecond⟩

/-- A record emitted is the decode error of the stream, or that of a caption a decoder gave. -/
theorem mem_handlePes_cases (e : CaptionRecordEmitter δ) {clock : ProgramClock} {packet : PESPacket}
    {record : OutputRecord} (hmem : record ∈ emitted (e.handlePes clock packet).2) :
    record = .diagnostic (.captionDecodeError ⟨packet.sourcePID⟩) ∨ ∃ languageId caption,
      (languageId, delivery packet, .kGotCaption caption) ∈ decoded (e.handlePes clock packet).2 ∧
      record = .caption (captionRecord (captionTime clock packet) caption) := by
  obtain ⟨languageId, result, hdecoded, hrecord⟩ := e.answer_of_mem_handlePes hmem
  unfold pesRecords DecodeResult.records at hrecord
  split at hrecord
  · exact .inl (List.mem_singleton.mp hrecord)
  · cases hrecord
  · next caption =>
    split at hrecord
    · cases hrecord
    · exact .inr ⟨languageId, caption, hdecoded, List.mem_singleton.mp hrecord⟩

/-- A caption record is that of a caption a decoder gave. -/
theorem caption_of_mem_handlePes (e : CaptionRecordEmitter δ) {clock : ProgramClock} {packet : PESPacket}
    {record : CaptionRecord} (hmem : .caption record ∈ emitted (e.handlePes clock packet).2) :
    ∃ languageId caption,
      (languageId, delivery packet, .kGotCaption caption) ∈ decoded (e.handlePes clock packet).2 ∧
      record = captionRecord (captionTime clock packet) caption := by
  rcases e.mem_handlePes_cases hmem with herror | ⟨languageId, caption, hdecoded, hcaption⟩
  · cases herror
  · exact ⟨languageId, caption, hdecoded, OutputRecord.caption.inj hcaption⟩

theorem eit_notMem_handlePes (e : CaptionRecordEmitter δ) {clock : ProgramClock} {packet : PESPacket}
    (record : EitRecord) : .eit record ∉ emitted (e.handlePes clock packet).2 := by
  intro hmem
  rcases e.mem_handlePes_cases hmem with herror | ⟨languageId, caption, -, hcaption⟩
  · cases herror
  · cases hcaption

/-- A caption record bears the time of its packet. -/
theorem timeMs_of_mem_handlePes (e : CaptionRecordEmitter δ) {clock : ProgramClock} {packet : PESPacket}
    {record : CaptionRecord} (hmem : .caption record ∈ emitted (e.handlePes clock packet).2) :
    record.timeMs = captionTime clock packet := by
  obtain ⟨-, caption, -, rfl⟩ := e.caption_of_mem_handlePes hmem
  rfl

/-! ## Runs -/

/-- The emitter as a machine: each packet arrives with the clock of that moment. -/
def step (e : CaptionRecordEmitter δ) (p : ProgramClock × PESPacket) :
    CaptionRecordEmitter δ × List Effect :=
  e.handlePes p.1 p.2

theorem step_eq (e : CaptionRecordEmitter δ) (p : ProgramClock × PESPacket) :
    e.step p =
      (e.afterDelivery (delivery p.2),
        pesTrace (delivery p.2) (e.pesRecords p.1 p.2) (firstStep e.first (delivery p.2)).2.result
          (e.creates (firstStep e.first (delivery p.2)).2)
          ((e.secondAsked (firstStep e.first (delivery p.2)).2).map fun second =>
            (decodeStep second (delivery p.2)).2)) := by
  rw [step, handlePes_eq]
  simp only [afterDelivery, Option.map_map]
  rfl

/-- What the decoders are given of the packets. -/
def deliveries (pes : List (ProgramClock × PESPacket)) : List Delivery := pes.map fun p => delivery p.2

/-- The factory is called for the second language at the revealing packet, and nowhere else. -/
theorem created_run (e : CaptionRecordEmitter δ) (pes : List (ProgramClock × PESPacket)) :
    (Machine.answers step e pes).map created =
      (List.range pes.length).map fun i =>
        if e.second.isNone = true ∧ i = e.revealIndex (deliveries pes) then [.kSecond] else [] := by
  induction pes generalizing e with
  | nil => rfl
  | cons p pes ih =>
    rw [Machine.answers_cons, List.map_cons, List.length_cons, List.range_succ_eq_map, List.map_cons,
      List.map_map, step_eq, ih, created_pesTrace]
    have hds : deliveries (p :: pes) = delivery p.2 :: deliveries pes := rfl
    rw [hds]
    rcases e.revealIndex_cons (delivery p.2) (deliveries pes) with ⟨hr, hnone, hquiet, hafter⟩ | ⟨hr, -, hrev, hafter⟩
    · rw [hr]
      simp [creates, hnone, hquiet, hafter, Function.comp_def]
    · rw [hr, Option.isNone_eq_false_iff.mpr hafter]
      cases hsecond : e.second with
      | some second => simp [creates, hsecond, Function.comp_def]
      | none => simp [creates, hsecond, hrev hsecond, Function.comp_def]

/-- The first decoder is given every delivery once, in order. -/
theorem decodedBy_first_run (e : CaptionRecordEmitter δ) (pes : List (ProgramClock × PESPacket)) :
    decodedBy .kFirst (Machine.answers step e pes).flatten =
      (deliveries pes).zip ((e.firstOutcomes (deliveries pes)).map FirstOutcome.result) := by
  induction pes generalizing e with
  | nil => rfl
  | cons p pes ih =>
    rw [Machine.answers_cons, List.flatten_cons, decodedBy_append, step_eq, ih]
    have hone : ∀ (o : DecodeResult) (c : Bool) (s : Option DecodeResult),
        decodedBy .kFirst (pesTrace (delivery p.2) (e.pesRecords p.1 p.2) o c s) = [(delivery p.2, o)] := by
      intro o c s
      cases s <;> simp [decodedBy, decoded_pesTrace]
    rw [hone]
    rfl

/-- The second decoder is given the deliveries of `secondDeliveries` once, in order. -/
theorem decodedBy_second_run (e : CaptionRecordEmitter δ) (pes : List (ProgramClock × PESPacket)) :
    decodedBy .kSecond (Machine.answers step e pes).flatten =
      (e.secondDeliveries (deliveries pes)).zip
        (Machine.answers decodeStep e.secondDecoder (e.secondDeliveries (deliveries pes))) := by
  induction pes generalizing e with
  | nil => simp [secondDeliveries, deliveries, decodedBy]
  | cons p pes ih =>
    rw [Machine.answers_cons, List.flatten_cons, decodedBy_append, step_eq, ih]
    generalize hd : delivery p.2 = d
    have hds : deliveries (p :: pes) = d :: deliveries pes := by rw [← hd]; rfl
    have hone : ∀ (o : DecodeResult) (c : Bool) (s : Option DecodeResult),
        decodedBy .kSecond (pesTrace d (e.pesRecords p.1 p.2) o c s) = (s.map fun r => (d, r)).toList := by
      intro o c s
      cases s <;> simp [decodedBy, decoded_pesTrace]
    rw [hds, hone, Option.map_map]
    rw [secondDeliveries_cons]
    rcases e.secondAsked_cases (firstStep e.first d).2 with hasked | hasked
    · rw [hasked, secondDecoder_of_none hasked]
      rfl
    · rw [hasked, secondDecoder_of_some hasked]
      rfl

/-- The second decoder is asked in the packets from the revealing one on for which the first did not return
`kError`, after the first. -/
theorem languages_run (e : CaptionRecordEmitter δ) (pes : List (ProgramClock × PESPacket)) :
    (Machine.answers step e pes).map (fun trace => (decoded trace).map Prod.fst) =
      (e.firstOutcomes (deliveries pes)).mapIdx fun i o =>
        if e.revealIndex (deliveries pes) ≤ i ∧ o.result ≠ .kError then [.kFirst, .kSecond] else [.kFirst] := by
  induction pes generalizing e with
  | nil => rfl
  | cons p pes ih =>
    rw [Machine.answers_cons, List.map_cons, step_eq, ih, decoded_pesTrace]
    generalize hd : delivery p.2 = d
    have hds : deliveries (p :: pes) = d :: deliveries pes := by rw [← hd]; rfl
    have houtcomes : e.firstOutcomes (d :: deliveries pes) =
      (firstStep e.first d).2 :: (e.afterDelivery d).firstOutcomes (deliveries pes) := rfl
    rw [hds, houtcomes, List.mapIdx_cons]
    rcases e.revealIndex_cons d (deliveries pes) with ⟨hr, hnone, hquiet, -⟩ | ⟨hr, hr', hreveals, -⟩
    · rw [hr, secondAsked_of_quiet hnone hquiet]
      simp
    · rw [hr, hr']
      by_cases herror : (firstStep e.first d).2.result = .kError
      · simp [herror, secondAsked_of_error]
      · simp [herror, secondAsked_of_active herror hreveals]

theorem emitEmptyCaptions_step (e : CaptionRecordEmitter δ) (p : ProgramClock × PESPacket) :
    (e.step p).1.emitEmptyCaptions = e.emitEmptyCaptions := by
  rw [step_eq]
  rfl

/-- The records of a packet are those of the answers its decoders gave, in that order. -/
theorem emitted_run (e : CaptionRecordEmitter δ) (pes : List (ProgramClock × PESPacket)) :
    (Machine.answers step e pes).map emitted =
      pes.zipWith (fun p trace => (decoded trace).flatMap fun answer =>
        answer.2.2.records e.emitEmptyCaptions (captionTime p.1 p.2) p.2.sourcePID)
        (Machine.answers step e pes) := by
  induction pes generalizing e with
  | nil => rfl
  | cons p pes ih =>
    rw [Machine.answers_cons, List.map_cons, List.zipWith_cons_cons, ih, emitEmptyCaptions_step]
    congr 1
    rw [step_eq, emitted_pesTrace, decoded_pesTrace]
    cases e.secondAsked (firstStep e.first (delivery p.2)).2 <;> simp [pesRecords]

/-- The calls made to the factory are those of the traces. -/
theorem factoryCalls_run (e : CaptionRecordEmitter δ) (pes : List (ProgramClock × PESPacket)) :
    (Machine.run step e pes).factoryCalls = e.factoryCalls ++ (Machine.answers step e pes).flatMap created := by
  induction pes generalizing e with
  | nil => simp
  | cons p pes ih =>
    rw [Machine.run_cons, ih, Machine.answers_cons, List.flatMap_cons, ← List.append_assoc]
    congr 1
    rw [step_eq, created_pesTrace]
    simp only [afterDelivery]
    split <;> simp

end CaptionRecordEmitter

/-! ## Top theorem -/

/-- **Every run of a caption emitter.**  The factory is called for the first language at construction, and for
the second at the revealing packet only; the first decoder is given every packet, the second those from the
revealing packet on for which the first did not return `kError`; and the records of a packet are those of the
answers given, first language first, a `kError` ending it with one diagnostic. -/
theorem handlePes_run [TSDuck] {δ : Type} [CaptionDecoder δ] (profile : Profile)
    (decoderFactory : CaptionDecoderFactory δ) (emitEmptyCaptions : Bool) (pes : List (ProgramClock × PESPacket)) :
    let e := CaptionRecordEmitter.new profile decoderFactory emitEmptyCaptions
    let traces := Machine.answers CaptionRecordEmitter.step e pes
    let ds := pes.map fun p => delivery p.2
    let outcomes := Machine.answers firstStep (decoderFactory [] .kFirst) ds
    let reveal := outcomes.findIdx FirstOutcome.reveals
    let handed := (((ds.zip outcomes).drop reveal).filter fun p => p.2.result ≠ .kError).map Prod.fst
    (e.factoryCalls = [.kFirst] ∧
      (Machine.run CaptionRecordEmitter.step e pes).factoryCalls = [.kFirst] ++ traces.flatMap created ∧
      traces.map created = (List.range pes.length).map fun i => if i = reveal then [.kSecond] else []) ∧
    (decodedBy .kFirst traces.flatten = ds.zip (outcomes.map FirstOutcome.result) ∧
      decodedBy .kSecond traces.flatten =
        handed.zip (Machine.answers decodeStep (decoderFactory [.kFirst] .kSecond) handed)) ∧
    (traces.map (fun trace => (decoded trace).map Prod.fst) =
        outcomes.mapIdx (fun i o => if reveal ≤ i ∧ o.result ≠ .kError then [.kFirst, .kSecond] else [.kFirst]) ∧
      traces.map emitted =
        pes.zipWith (fun p trace => (decoded trace).flatMap fun answer =>
          answer.2.2.records emitEmptyCaptions (captionTime p.1 p.2) p.2.sourcePID) traces) := by
  intro e traces ds outcomes reveal handed
  refine ⟨⟨rfl, e.factoryCalls_run pes, ?_⟩, ⟨e.decodedBy_first_run pes, e.decodedBy_second_run pes⟩,
    e.languages_run pes, e.emitted_run pes⟩
  have hnone : e.second.isNone = true := rfl
  have hcreated := e.created_run pes
  simp only [hnone, true_and] at hcreated
  exact hcreated

end AribcapDump
