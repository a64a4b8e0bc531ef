import AribcapDump.Eit.ExtendedText
import AribcapDump.Lib.Reorder

/-!
# Descriptor kinds do not interfere

`ParseDescriptors` goes three times through the descriptors of an event, once
for each tag it reads.

    visited descriptors tag (search tag)  =  the indices with the tag, ascending

What it returns is a function of three lists, the valid descriptors of each
kind, so that anything else between them, and how the kinds are interleaved,
makes no difference.

* `searchLoop_visited` / `count_visited`: the loop visits each descriptor with the tag once.
* `parseDescriptors_eq`: the result out of the three lists.
* `descriptorKinds_independent`: all of it, with what may be inserted, deleted and reordered.
-/

namespace AribcapDump

/-! ## Indices visited -/

section
variable [TSDuck]

/-- The indices at which the loop runs its body, from `index` on. -/
def visited (descriptors : DescriptorList) (tag : UInt8) (index : ℕ) : List (Fin descriptors.length) :=
  if h : index < descriptors.length then
    ⟨index, h⟩ :: visited descriptors tag (descriptors.search tag (index + 1))
  else []
termination_by descriptors.length - index
decreasing_by
  have := DescriptorList.lt_search tag h
  omega

theorem searchLoop_visited {α : Type} (descriptors : DescriptorList) (tag : UInt8) (body : α → Descriptor → α)
    (index : ℕ) (acc : α) :
    searchLoop descriptors tag body index acc =
      (visited descriptors tag index).foldl (fun acc i => body acc descriptors[i]) acc := by
  fun_induction searchLoop descriptors tag body index acc with
  | case1 index acc h ih =>
    rw [visited, dif_pos h, List.foldl_cons]
    exact ih
  | case2 index acc h =>
    rw [visited, dif_neg h]
    rfl

section
variable (hsearch : SearchSpec)
include hsearch

theorem mem_visited {descriptors : DescriptorList} {tag : UInt8} {start : ℕ} (hstart : start ≤ descriptors.length)
    (i : Fin descriptors.length) :
    i ∈ visited descriptors tag (descriptors.search tag start) ↔ start ≤ i ∧ descriptors[i].tag = tag := by
  have hleast := hsearch.least descriptors tag start hstart
  have hfound := hsearch.found descriptors tag start hstart
  rw [visited]
  split
  · next h =>
    obtain ⟨hforward, htag⟩ := hfound h
    rw [List.mem_cons, mem_visited h]
    constructor
    · rintro (rfl | ⟨hlt, hi⟩)
      · exact ⟨hforward, htag⟩
      · exact ⟨Nat.le_trans hforward (Nat.le_of_succ_le hlt), hi⟩
    · rintro ⟨hlow, hi⟩
      -- not before the index found, where no descriptor has the tag
      have hge : descriptors.search tag start ≤ i := Nat.not_lt.mp fun hlt => hleast i hlow hlt hi
      rcases Nat.eq_or_lt_of_le hge with heq | hlt
      · exact .inl (Fin.ext heq.symm)
      · exact .inr ⟨hlt, hi⟩
  · next h =>
    constructor
    · intro hnil
      cases hnil
    · rintro ⟨hlow, hi⟩
      exact absurd hi (hleast i hlow (Nat.lt_of_lt_of_le i.isLt (Nat.not_lt.mp h)))
termination_by descriptors.length - start

theorem visited_ascending (descriptors : DescriptorList) (tag : UInt8) (index : ℕ) :
    (visited descriptors tag index).Pairwise (· < ·) := by
  fun_induction visited descriptors tag index with
  | case1 index h ih =>
    refine List.Pairwise.cons (fun j hj => ?_) ih
    exact ((mem_visited hsearch h j).mp hj).1
  | case2 index h => exact .nil

theorem count_visited (descriptors : DescriptorList) (tag : UInt8) (i : Fin descriptors.length) :
    (visited descriptors tag (descriptors.search tag 0)).count i = if descriptors[i].tag = tag then 1 else 0 := by
  have hnodup : (visited descriptors tag (descriptors.search tag 0)).Nodup :=
    (visited_ascending hsearch descriptors tag _).imp ne_of_lt
  have hmem : i ∈ visited descriptors tag (descriptors.search tag 0) ↔ 0 ≤ i.val ∧ descriptors[i].tag = tag :=
    mem_visited hsearch (Nat.zero_le _) i
  split
  · next htag => exact List.count_eq_one_of_mem hnodup (hmem.mpr ⟨Nat.zero_le _, htag⟩)
  · next htag => exact List.count_eq_zero.mpr fun hvisited => htag (hmem.mp hvisited).2

end

end

/-! ## The valid descriptors of a kind -/

/-- What the valid descriptors with the tag say, in list order. -/
def validOf {β : Type} (descriptors : DescriptorList) (tag : UInt8) (read : Descriptor → Option β) : List β :=
  (descriptors.filter (·.tag == tag)).filterMap read

def ShortEventDescriptor.toShortEvent (shortEvent : ShortEventDescriptor) : EitShortEvent :=
  ⟨shortEvent.eventName, shortEvent.text, shortEvent.languageCode⟩

def ContentEntry.toGenre (entry : ContentEntry) : EitGenre :=
  ⟨entry.contentNibbleLevel1, entry.contentNibbleLevel2, entry.userNibble1, entry.userNibble2⟩

theorem foldl_pushShortEvent (descriptors : List Descriptor) (shortEvents : List EitShortEvent) :
    descriptors.foldl pushShortEvent shortEvents =
      shortEvents ++ (descriptors.filterMap Descriptor.shortEvent).map ShortEventDescriptor.toShortEvent := by
  induction descriptors generalizing shortEvents with
  | nil => simp
  | cons descriptor descriptors ih =>
    rw [List.foldl_cons, ih, List.filterMap_cons, pushShortEvent]
    cases descriptor.shortEvent with
    | none => rfl
    | some shortEvent =>
      rw [List.map_cons, List.append_assoc]
      rfl

theorem foldl_pushGenres (descriptors : List Descriptor) (genres : List EitGenre) :
    descriptors.foldl pushGenres genres =
      genres ++ (descriptors.filterMap Descriptor.content).flatten.map ContentEntry.toGenre := by
  induction descriptors generalizing genres with
  | nil => simp
  | cons descriptor descriptors ih =>
    rw [List.foldl_cons, ih, List.filterMap_cons, pushGenres]
    cases descriptor.content with
    | none => rfl
    | some entries =>
      have hentries : ∀ genres, entries.foldl (fun genres entry => genres ++
          [⟨entry.contentNibbleLevel1, entry.contentNibbleLevel2, entry.userNibble1, entry.userNibble2⟩]) genres =
          genres ++ entries.map ContentEntry.toGenre := by
        intro genres
        rw [List.map_eq_flatMap, List.flatMap_def]
        exact List.foldl_append_eq_append
      simp only [hentries, List.flatten_cons, List.map_append, List.append_assoc]

section
variable [TSDuck] (hsearch : SearchSpec)
include hsearch

/-- **The result out of the three lists.** -/
theorem parseDescriptors_eq (descriptors : DescriptorList) :
    parseDescriptors descriptors =
      { shortEvents := (validOf descriptors DID_DVB_SHORT_EVENT Descriptor.shortEvent).map
          ShortEventDescriptor.toShortEvent
        genres := (validOf descriptors DID_DVB_CONTENT Descriptor.content).flatten.map ContentEntry.toGenre
        extendedText :=
          let extendedEvents := validOf descriptors DID_DVB_EXTENDED_EVENT Descriptor.extendedEvent
          formatExtendedText ((extendedEvents.flatMap ExtendedEventDescriptor.entries).foldl pushEntry [])
            (extendedEvents.flatMap ExtendedEventDescriptor.text) } := by
  unfold parseDescriptors validOf
  simp only [searchLoop_eq hsearch descriptors _ _ (Nat.zero_le _), List.drop_zero, foldl_pushShortEvent,
    foldl_pushGenres, foldl_pushExtendedEvent, List.nil_append]

end

/-! ## What makes no difference -/

/-- The descriptor is of one of the three kinds, and valid. -/
def Descriptor.counts (descriptor : Descriptor) : Bool :=
  (descriptor.tag == DID_DVB_SHORT_EVENT && descriptor.shortEvent.isSome) ||
    (descriptor.tag == DID_DVB_CONTENT && descriptor.content.isSome) ||
    (descriptor.tag == DID_DVB_EXTENDED_EVENT && descriptor.extendedEvent.isSome)

theorem validOf_filter_counts {β : Type} (descriptors : DescriptorList) {tag : UInt8} {read : Descriptor → Option β}
    (hcounts : ∀ descriptor : Descriptor, descriptor.tag = tag → (read descriptor).isSome = true →
      descriptor.counts = true) :
    validOf (descriptors.filter Descriptor.counts) tag read = validOf descriptors tag read := by
  unfold validOf
  induction descriptors with
  | nil => rfl
  | cons descriptor descriptors ih =>
    rw [List.filter_cons]
    split
    · rw [List.filter_cons, List.filter_cons]
      split
      · rw [List.filterMap_cons, List.filterMap_cons, ih]
      · exact ih
    · next hnot =>
      rw [ih, List.filter_cons]
      split
      · next htag =>
        have hread : read descriptor = none := by
          cases hread : read descriptor with
          | none => rfl
          | some b => exact absurd (hcounts descriptor (eq_of_beq htag) (Option.isSome_of_eq_some hread)) hnot
        rw [List.filterMap_cons, hread]
      · rfl

section
variable [TSDuck] (hsearch : SearchSpec)
include hsearch

/-- The descriptors that do not count could as well be left out. -/
theorem parseDescriptors_filter_counts (descriptors : DescriptorList) :
    parseDescriptors (descriptors.filter Descriptor.counts) = parseDescriptors descriptors := by
  have hshort : ∀ descriptor : Descriptor, descriptor.tag = DID_DVB_SHORT_EVENT →
      descriptor.shortEvent.isSome = true → descriptor.counts = true := by
    intro descriptor htag hvalid
    simp [Descriptor.counts, htag, hvalid]
  have hcontent : ∀ descriptor : Descriptor, descriptor.tag = DID_DVB_CONTENT →
      descriptor.content.isSome = true → descriptor.counts = true := by
    intro descriptor htag hvalid
    simp [Descriptor.counts, htag, hvalid]
  have hextended : ∀ descriptor : Descriptor, descriptor.tag = DID_DVB_EXTENDED_EVENT →
      descriptor.extendedEvent.isSome = true → descriptor.counts = true := by
    intro descriptor htag hvalid
    simp [Descriptor.counts, htag, hvalid]
  rw [parseDescriptors_eq hsearch, parseDescriptors_eq hsearch descriptors,
    validOf_filter_counts descriptors hshort, validOf_filter_counts descriptors hcontent,
    validOf_filter_counts descriptors hextended]

theorem parseDescriptors_arrange {descriptors : DescriptorList} {order : List (Fin descriptors.length)}
    (horder : Reorder.KeepsOrder Descriptor.tag descriptors order) :
    parseDescriptors (Reorder.arrange descriptors order) = parseDescriptors descriptors := by
  rw [parseDescriptors_eq hsearch, parseDescriptors_eq hsearch descriptors]
  simp only [validOf, horder.filter_eq]

end

/-! ## Top theorem -/

/-- **Descriptor kinds do not interfere.** -/
theorem descriptorKinds_independent [TSDuck] (hsearch : SearchSpec) (descriptors : DescriptorList) :
    -- the loop for a tag runs its body at each index with the tag once, in ascending order
    (∀ tag, (∀ {α : Type} (body : α → Descriptor → α) (acc : α),
        searchLoop descriptors tag body (descriptors.search tag 0) acc =
          (visited descriptors tag (descriptors.search tag 0)).foldl (fun acc i => body acc descriptors[i]) acc) ∧
      (visited descriptors tag (descriptors.search tag 0)).Pairwise (· < ·) ∧
      ∀ i : Fin descriptors.length,
        (visited descriptors tag (descriptors.search tag 0)).count i = if descriptors[i].tag = tag then 1 else 0) ∧
    parseDescriptors descriptors =
      { shortEvents := (validOf descriptors DID_DVB_SHORT_EVENT Descriptor.shortEvent).map
          ShortEventDescriptor.toShortEvent
        genres := (validOf descriptors DID_DVB_CONTENT Descriptor.content).flatten.map ContentEntry.toGenre
        extendedText :=
          let extendedEvents := validOf descriptors DID_DVB_EXTENDED_EVENT Descriptor.extendedEvent
          formatExtendedText ((extendedEvents.flatMap ExtendedEventDescriptor.entries).foldl pushEntry [])
            (extendedEvents.flatMap ExtendedEventDescriptor.text) } ∧
    -- insertions and deletions
    (∀ edited : DescriptorList, edited.filter Descriptor.counts = descriptors.filter Descriptor.counts →
      parseDescriptors edited = parseDescriptors descriptors) ∧
    -- reorderings
    (∀ order : List (Fin descriptors.length), Reorder.KeepsOrder Descriptor.tag descriptors order →
      parseDescriptors (Reorder.arrange descriptors order) = parseDescriptors descriptors) := by
  refine ⟨fun tag => ⟨?_, ?_, ?_⟩, parseDescriptors_eq hsearch descriptors, ?_, ?_⟩
  · exact fun body acc => searchLoop_visited descriptors tag body _ acc
  · exact visited_ascending hsearch descriptors tag _
  · exact count_visited hsearch descriptors tag
  · intro edited hsame
    rw [← parseDescriptors_filter_counts hsearch edited, hsame, parseDescriptors_filter_counts hsearch descriptors]
  · exact fun order horder => parseDescriptors_arrange hsearch horder

/-- Two short events with a malformed one and one of another kind between them, and two genres. -/
def shortEventsApart : DescriptorList :=
  [⟨DID_DVB_SHORT_EVENT, some ⟨[65], [66], [106]⟩, none, none⟩,
    ⟨DID_DVB_SHORT_EVENT, none, none, none⟩,
    ⟨DID_DVB_CONTENT, none, some [⟨7, 1, 15, 15⟩, ⟨0, 0, 15, 15⟩], none⟩,
    ⟨DID_DVB_SHORT_EVENT, some ⟨[67], [68], [106]⟩, none, none⟩]

theorem descriptorKinds_independent_apart :
    letI := TSDuck.documented
    let shortEvents := visited shortEventsApart DID_DVB_SHORT_EVENT (shortEventsApart.search DID_DVB_SHORT_EVENT 0)
    shortEvents.count ⟨3, by decide⟩ = 1 ∧
      parseDescriptors shortEventsApart =
        { shortEvents := [⟨[65], [66], [106]⟩, ⟨[67], [68], [106]⟩], genres := [⟨7, 1, 15, 15⟩, ⟨0, 0, 15, 15⟩] } ∧
      parseDescriptors (shortEventsApart.eraseIdx 1) = parseDescriptors shortEventsApart := by
  let := TSDuck.documented
  intro shortEvents
  obtain ⟨hloop, hresult, hedited, -⟩ := descriptorKinds_independent searchSpec_documented shortEventsApart
  exact ⟨(hloop DID_DVB_SHORT_EVENT).2.2 ⟨3, by decide⟩, hresult, hedited _ (by decide)⟩

end AribcapDump
